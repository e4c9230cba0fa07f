import DeviceHub.Proofs.ClientRun.Coherence

/-!
The course of a run of a `Client`.  A call keeps its request and its token, is moved by its own
events only, and stays as it is once it is over.  The `ConnectionState` moves forward only.
-/
namespace DeviceHub

/-- A state that a client may leave for the other. -/
def ConnectionState.precedes : ConnectionState → ConnectionState → Bool
  | unready, ready | unready, closed | ready, closed => true
  | _, _ => false

lemma ConnectionState.precedes_trans {a b c : ConnectionState} (hab : a.precedes b = true)
    (hbc : b.precedes c = true) : a.precedes c = true := by
  cases a <;> cases b <;> cases c <;> simp_all [precedes]

namespace Client

variable {s t u : Client} {event : ClientEvent} {i j : Nat} {c c' : Call}

lemma call_of_setPhase (calls : u.calls = s.calls) (own : event.call? = some j)
    (moved : s.calls[j]? = some c') (going : c'.phase.isOver = false)
    (call : s.calls[i]? = some c) {phase : Phase} :
    ∃ phase', (u.setPhase j phase).calls[i]? = some { c with phase := phase' } ∧
      (event.call? ≠ some i → phase' = c.phase) ∧ (c.phase.isOver = true → phase' = c.phase) := by
  rw [← calls] at moved call
  by_cases hij : i = j
  · subst hij
    cases Option.some.inj (moved.symm.trans call)
    refine ⟨phase, getElem?_setPhase_self call phase, fun h => absurd own h, fun quits => ?_⟩
    simp [going] at quits
  · exact ⟨c.phase, (getElem?_setPhase_ne hij phase u).trans call, fun _ => rfl, fun _ => rfl⟩

lemma Move.call (m : s.Move event t) (call : s.calls[i]? = some c) :
    ∃ phase, t.calls[i]? = some { c with phase } ∧
      (event.call? ≠ some i → phase = c.phase) ∧ (c.phase.isOver = true → phase = c.phase) := by
  have hsame (h : t.calls[i]? = some c) : ∃ phase, t.calls[i]? = some { c with phase } ∧
      (event.call? ≠ some i → phase = c.phase) ∧ (c.phase.isOver = true → phase = c.phase) :=
    ⟨c.phase, h, fun _ => rfl, fun _ => rfl⟩
  cases m with
  | idle => exact hsame call
  | wait data => exact hsame (by grind)
  | ask transition => exact hsame (by grind)
  | connect moved phase holds request unready =>
    exact call_of_setPhase rfl rfl moved (by rw [phase]; rfl) call
  | close moved phase holds request opened =>
    exact call_of_setPhase rfl rfl moved (by rw [phase]; rfl) call
  | connected moved phase => exact call_of_setPhase rfl rfl moved (by rw [phase]; rfl) call
  | letGo own moved under quits =>
    exact call_of_setPhase rfl own moved (Phase.isOver_of_isUnderLock under) call
  | refuse moved phase closed => exact call_of_setPhase rfl rfl moved (by rw [phase]; rfl) call
  | begin moved waits ready begun => exact call_of_setPhase rfl rfl moved (by rw [waits]; rfl) call
  | settle own moved sets needs keeps settled late =>
    exact call_of_setPhase keeps.calls own moved (by rw [sets]; rfl) call
  | reply moved phase => exact call_of_setPhase rfl rfl moved (by rw [phase]; rfl) call
  | cancel moved free fired cancellable keeps =>
    exact call_of_setPhase keeps.calls rfl moved (Call.isOver_of_isCancellable cancellable) call
  | drop moved free going keeps => exact call_of_setPhase keeps.calls rfl moved going call
  | fire token => exact hsame call
  | receive nobody keeps => exact hsame (keeps.calls ▸ call)

inductive Ended (s : Client) (event : ClientEvent) (i : Nat) (c : Call) : HubResult Reply → Prop
  | underLock {outcome} (under : c.phase.isUnderLock = true) : Ended s event i c outcome
  | refused (waited : c.phase = .awaitingReady) (closed : s.state = .closed) :
      Ended s event i c (.error .closed)
  | begun {reason} (waited : c.phase = .awaitingReady) (ready : s.state = .ready) :
      Ended s event i c (.error (.invalidInput reason))
  | settled {caller link outcome} (sets : c.phase = .settingUp caller)
      (needs : c.request.link? = some link)
      (late : ∀ e, s.closed? link = some e → ∃ e', outcome = .error e') :
      Ended s event i c outcome
  | replied {operation outcome} (operates : c.phase = .operating operation) :
      Ended s event i c outcome
  | cancelled (noticed : event = .cancel i) (fired : c.token ∈ s.fired)
      (cancellable : c.isCancellable s.state = true) : Ended s event i c (.error .cancelled)

inductive Reached (s : Client) (event : ClientEvent) (i : Nat) : Phase → Prop
  | waits (fresh : s.calls[i]? = none) : Reached s event i .awaitingReady
  | asks (fresh : s.calls[i]? = none) : Reached s event i .awaitingLock
  | connects (unready : s.state = .unready) : Reached s event i .connecting
  | closes (opened : s.state ≠ .closed) : Reached s event i .closing
  | begins {c phase} (resumed : event = .resume i) (call : s.calls[i]? = some c)
      (waited : c.phase = .awaitingReady) (ready : s.state = .ready)
      (underway : phase.isUnderway = true) : Reached s event i phase
  | goesOn {c caller caller'} (call : s.calls[i]? = some c) (sets : c.phase = .settingUp caller) :
      Reached s event i (.settingUp caller')
  | drops : Reached s event i .dropped
  | returns {c outcome} (call : s.calls[i]? = some c) (ended : s.Ended event i c outcome) :
      Reached s event i (.returned outcome)

lemma Move.reached (m : s.Move event t) (call' : t.calls[i]? = some c') :
    s.calls[i]? = some c' ∨ s.Reached event i c'.phase := by
  have hput {u : Client} {j : Nat} {cj : Call} {phase : Phase} (calls : u.calls = s.calls)
      (call : s.calls[j]? = some cj) (call' : (u.setPhase j phase).calls[i]? = some c')
      (reached : i = j → s.Reached event i phase) :
      s.calls[i]? = some c' ∨ s.Reached event i c'.phase := by
    rw [← calls] at call ⊢
    obtain ⟨hij, rfl⟩ | ⟨-, hsame⟩ := eq_of_setPhase call call'
    · exact .inr (reached hij)
    · exact .inl hsame
  cases m with
  | idle => exact .inl call'
  | wait data =>
    obtain hsame | ⟨hi, rfl⟩ := getElem?_append_cases call'
    · exact .inl hsame
    · exact .inr (.waits (by simp [hi]))
  | ask transition =>
    obtain hsame | ⟨hi, rfl⟩ := getElem?_append_cases call'
    · exact .inl hsame
    · exact .inr (.asks (by simp [hi]))
  | connect call phase holds request unready =>
    exact hput rfl call call' fun _ => .connects unready
  | close call phase holds request opened => exact hput rfl call call' fun _ => .closes opened
  | connected call connects =>
    refine hput rfl call call' ?_
    rintro rfl
    exact .returns call (.underLock (by rw [connects]; rfl))
  | @letGo _ _ _ phase own call under quits =>
    refine hput rfl call call' ?_
    rintro rfl
    cases phase with
    | returned outcome => exact .returns call (.underLock under)
    | dropped => exact .drops
    | _ => cases quits
  | refuse call waited closed =>
    refine hput rfl call call' ?_
    rintro rfl
    exact .returns call (.refused waited closed)
  | begin call waited ready begun =>
    refine hput rfl call call' ?_
    rintro rfl
    obtain underway | ⟨_, rfl⟩ := begun
    · exact .begins rfl call waited ready underway
    · exact .returns call (.begun waited ready)
  | settle own call sets needs keeps settled late =>
    refine hput keeps.calls call call' ?_
    rintro rfl
    obtain ⟨_, rfl⟩ | ⟨_, rfl⟩ := settled
    · exact .goesOn call sets
    · refine .returns call (.settled sets needs fun e he => ?_)
      obtain ⟨e', he'⟩ := late e he
      exact ⟨e', by injection he'⟩
  | reply call operates =>
    refine hput rfl call call' ?_
    rintro rfl
    exact .returns call (.replied operates)
  | cancel call free fired cancellable keeps =>
    refine hput keeps.calls call call' ?_
    rintro rfl
    exact .returns call (.cancelled rfl fired cancellable)
  | drop call free going keeps => exact hput keeps.calls call call' fun _ => .drops
  | fire token => exact .inl call'
  | receive nobody keeps => exact .inl (keeps.calls ▸ call')

lemma Move.fired {token : Token} (m : s.Move event t) (fired : token ∈ t.fired) :
    token ∈ s.fired ∨ event = .fire token := by
  cases m with
  | settle own call sets needs keeps settled late => exact .inl (keeps.fired ▸ fired)
  | cancel call free noticed cancellable keeps => exact .inl (keeps.fired ▸ fired)
  | drop call free going keeps => exact .inl (keeps.fired ▸ fired)
  | receive nobody keeps => exact .inl (keeps.fired ▸ fired)
  | fire token' =>
    obtain rfl | hbefore := List.mem_cons.1 fired
    · exact .inr rfl
    · exact .inl hbefore
  | _ => exact .inl fired

/-- How an event leaves the state: as it is, ready by the answer to a connect, or closed by a
close that has the lock. -/
lemma Move.state_cases (m : s.Move event t) :
    t.state = s.state ∨
      (∃ i c answer, event = .answer i (.ok answer) ∧ s.calls[i]? = some c ∧
        c.phase = .connecting ∧ t.state = .ready ∧
        t.calls[i]? = some { c with phase := .returned (.ok .done) }) ∨
      ∃ i c, event = .resume i ∧ s.calls[i]? = some c ∧ c.phase = .awaitingLock ∧
        c.request = .close ∧ s.state ≠ .closed ∧ t.state = .closed ∧
        t.calls[i]? = some { c with phase := .closing } := by
  cases m with
  | connected call phase =>
    exact .inr (.inl ⟨_, _, _, rfl, call, phase, rfl, getElem?_setPhase_self call _⟩)
  | close call phase holds request opened =>
    exact .inr (.inr ⟨_, _, rfl, call, phase, request, opened, rfl, getElem?_setPhase_self call _⟩)
  | settle own call sets needs keeps settled late => exact .inl keeps.state
  | cancel call free fired cancellable keeps => exact .inl keeps.state
  | drop call free going keeps => exact .inl keeps.state
  | receive nobody keeps => exact .inl keeps.state
  | _ => exact .inl rfl

lemma Move.state_precedes (m : s.Move event t) (h : s.Coherent) :
    t.state = s.state ∨ s.state.precedes t.state = true := by
  obtain hsame | ⟨i, c, answer, -, call, connects, ready, -⟩ |
    ⟨i, c, -, -, -, -, opened, closed, -⟩ := m.state_cases
  · exact .inl hsame
  · rw [(h.connecting call connects).2.2, ready]
    exact .inr rfl
  · rw [closed]
    exact .inr (by cases hs : s.state <;> simp_all [ConnectionState.precedes])

/-- Over a run a call keeps its request and its token, and what it has come to. -/
lemma run_call (before after : List ClientEvent) (call : (run before).calls[i]? = some c) :
    ∃ phase, (run (before ++ after)).calls[i]? = some { c with phase } ∧
      (c.phase.isOver = true → phase = c.phase) := by
  induction after using List.reverseRecOn with
  | nil => exact ⟨c.phase, by simpa using call, fun _ => rfl⟩
  | append_singleton after event ih =>
    obtain ⟨phase, hcall, hover⟩ := ih
    rw [← List.append_assoc]
    obtain ⟨phase', hcall', -, hover'⟩ := (run_move (before ++ after) event).call hcall
    exact ⟨phase', hcall', fun quits => (hover' (by rwa [hover quits])).trans (hover quits)⟩

lemma fire_mem_of_fired (events : List ClientEvent) {token : Token}
    (fired : token ∈ (run events).fired) : .fire token ∈ events := by
  induction events using List.reverseRecOn with
  | nil => cases fired
  | append_singleton events event ih =>
    obtain hbefore | rfl := (run_move events event).fired fired
    · exact List.mem_append_left _ (ih hbefore)
    · simp

lemma run_state (before after : List ClientEvent) :
    (run (before ++ after)).state = (run before).state ∨
      (run before).state.precedes (run (before ++ after)).state = true := by
  induction after using List.reverseRecOn with
  | nil => exact .inl (by simp)
  | append_singleton after event ih =>
    rw [← List.append_assoc]
    obtain hsame | hlater :=
      (run_move (before ++ after) event).state_precedes (coherent_run (before ++ after))
    · rwa [hsame]
    · refine .inr ?_
      obtain hbefore | hbefore := ih
      · rwa [hbefore] at hlater
      · exact ConnectionState.precedes_trans hbefore hlater

lemma run_closed (before after : List ClientEvent) (closed : (run before).state = .closed) :
    (run (before ++ after)).state = .closed := by
  obtain hsame | hlater := run_state before after
  · exact hsame.trans closed
  · simp [closed, ConnectionState.precedes] at hlater

/-- The transport is at an operation for a call. -/
def InFlight (s : Client) (i : Nat) (operation : Operation) : Prop :=
  ∃ c, s.calls[i]? = some c ∧ c.operation? = some operation

/-- With an event a call hands an operation to the transport. -/
def Invokes (s : Client) (event : ClientEvent) (i : Nat) (operation : Operation) : Prop :=
  (s.step event).InFlight i operation ∧ ¬ s.InFlight i operation

/-- With an event the client gets into a state. -/
def Enters (s : Client) (event : ClientEvent) (state : ConnectionState) : Prop :=
  (s.step event).state = state ∧ s.state ≠ state

/-- What the transport is at tells where the call is. -/
lemma Coherent.operation?_cases (h : s.Coherent) (call : s.calls[i]? = some c)
    {operation : Operation} (flies : c.operation? = some operation) :
    (c.phase = .connecting ∧ operation = .connect) ∨ (c.phase = .closing ∧ operation = .close) ∨
      (c.phase.isUnderway = true ∧ operation.isData = true) := by
  unfold Call.operation? at flies
  split at flies
  next phase => exact .inl ⟨phase, (Option.some.inj flies).symm⟩
  next phase => exact .inr (.inl ⟨phase, (Option.some.inj flies).symm⟩)
  next phase =>
    cases flies
    have hdata := h.operating call phase
    exact .inr (.inr ⟨by rw [phase]; exact hdata, hdata⟩)
  next phase =>
    obtain ⟨link, -, rfl⟩ := Option.map_eq_some_iff.1 flies
    exact .inr (.inr ⟨by rw [phase]; rfl, rfl⟩)
  next => cases flies

lemma Coherent.inFlight_connect_iff (h : s.Coherent) :
    s.InFlight i .connect ↔ ∃ c, s.calls[i]? = some c ∧ c.phase = .connecting := by
  constructor
  · rintro ⟨c, call, flies⟩
    obtain ⟨phase, -⟩ | ⟨-, ⟨⟩⟩ | ⟨-, ⟨⟩⟩ := h.operation?_cases call flies
    exact ⟨c, call, phase⟩
  · rintro ⟨c, call, phase⟩
    exact ⟨c, call, by simp [Call.operation?, phase]⟩

lemma Coherent.inFlight_close_iff (h : s.Coherent) :
    s.InFlight i .close ↔ ∃ c, s.calls[i]? = some c ∧ c.phase = .closing := by
  constructor
  · rintro ⟨c, call, flies⟩
    obtain ⟨-, ⟨⟩⟩ | ⟨phase, -⟩ | ⟨-, ⟨⟩⟩ := h.operation?_cases call flies
    exact ⟨c, call, phase⟩
  · rintro ⟨c, call, phase⟩
    exact ⟨c, call, by simp [Call.operation?, phase]⟩

end Client
end DeviceHub
