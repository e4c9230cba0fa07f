import DeviceHub.Proofs.ClientRun.Course

/-!
`wait_ready` before the data.  A data-plane call hands nothing to the transport before it has found
the client ready; one that begins when the client is closed returns that it is closed and touches
nothing; who is cancelled in `wait_ready` had its token fired while the client was unready; and who
is still at the setup of a link when the client is closed does not succeed.
-/
namespace DeviceHub.Client

variable {s t : Client} {event : ClientEvent} {i j : Nat} {c c' : Call}

/-- In a run, a call that was in `wait_ready` found the client ready. -/
def FoundReady (events : List ClientEvent) (i : Nat) : Prop :=
  ∃ before after c, events = before ++ .resume i :: after ∧ (run before).state = .ready ∧
    (run before).calls[i]? = some c ∧ c.phase = .awaitingReady

lemma FoundReady.append {events : List ClientEvent} (h : FoundReady events i)
    (event : ClientEvent) : FoundReady (events ++ [event]) i := by
  obtain ⟨before, after, c, rfl, ready, call, waits⟩ := h
  exact ⟨before, after ++ [event], c, by simp, ready, call, waits⟩

lemma foundReady_of_underway (events : List ClientEvent) (call : (run events).calls[i]? = some c)
    (underway : c.phase.isUnderway = true) : FoundReady events i := by
  induction events using List.reverseRecOn generalizing c with
  | nil => cases call
  | append_singleton events event ih =>
    obtain hsame | hreached := (run_move events event).reached call
    · exact (ih hsame underway).append event
    · generalize c.phase = phase at hreached underway
      cases hreached with
      | begins resumed call' waited ready =>
        subst resumed
        exact ⟨events, [], _, rfl, ready, call', waited⟩
      | goesOn call' sets => exact (ih call' (by rw [sets]; rfl)).append event
      | _ => cases underway

lemma Coherent.underway_of_data (h : s.Coherent) (call : s.calls[i]? = some c)
    (data : c.request.isData = true) {operation : Operation}
    (flies : c.operation? = some operation) : c.phase.isUnderway = true := by
  obtain ⟨connects, -⟩ | ⟨closing, -⟩ | ⟨underway, -⟩ := h.operation?_cases call flies
  · cases (h.connecting call connects).2.1 ▸ data
  · cases (h.closing call closing).2.1 ▸ data
  · exact underway

/-- Where a call can be that began when the client was closed. -/
inductive Barred : Phase → Prop
  | waits : Barred .awaitingReady
  | leaves : Barred .dropped
  | returns : Barred (.returned (.error .closed))

lemma setPhase_self (call : s.calls[i]? = some c) : s.setPhase i c.phase = s := by
  have hcalls : s.calls.modify i (fun c' => { c' with phase := c.phase }) = s.calls := by
    refine List.ext_getElem? fun j => ?_
    by_cases hij : i = j
    · subst hij
      simp [call]
    · simp [hij]
  rw [setPhase, hcalls]

/-- Such a call goes on to its refusal, whatever its token. -/
lemma resume?_of_barred (closed : s.state = .closed) (call : s.calls[i]? = some c)
    (waits : c.phase = .awaitingReady) :
    s.resume? i = some (s.finish i (.error .closed)) ∧ s.cancel? i = none := by
  constructor
  · simp [resume?, call, waits, closed, ConnectionState.readiness?]
  · simp [cancel?, call, Call.isCancellable, waits, closed]

lemma step_of_barred (closed : s.state = .closed) (call : s.calls[i]? = some c)
    (barred : Barred c.phase) (own : event.call? = some i) :
    ∃ phase, Barred phase ∧ s.step event = s.setPhase i phase := by
  have hidle (h : s.step event = s) : ∃ phase, Barred phase ∧ s.step event = s.setPhase i phase :=
    ⟨c.phase, barred, h.trans (setPhase_self call).symm⟩
  generalize hphase : c.phase = phase at barred
  cases event with
  | resume k =>
    cases own
    cases barred with
    | waits =>
      refine ⟨_, .returns, ?_⟩
      simp only [step, (resume?_of_barred closed call hphase).1, Option.getD_some, finish]
    | _ => exact hidle (by simp [step, resume?, call, hphase])
  | answer k outcome =>
    cases own
    refine hidle ?_
    cases barred <;> simp [step, answer?, call, hphase]
  | cancel k =>
    cases own
    refine hidle ?_
    cases barred <;> simp [step, cancel?, call, hphase, Call.isCancellable, closed]
  | drop k =>
    cases own
    cases barred with
    | waits => exact ⟨_, .leaves, by simp [step, drop, call, hphase, release]⟩
    | _ => exact hidle (by simp [step, drop, call, hphase])
  | _ => cases own

lemma barred_of_closed {before : List ClientEvent} (closed : (run before).state = .closed)
    {request : Request} (data : request.isData = true) (token : Token)
    (later : List ClientEvent) :
    ∃ c,
      (run (before ++ .start request token :: later)).calls[(run before).calls.length]? = some c ∧
      c.request = request ∧ c.token = token ∧ Barred c.phase := by
  induction later using List.reverseRecOn with
  | nil =>
    refine ⟨⟨request, token, .awaitingReady⟩, ?_, rfl, rfl, .waits⟩
    rw [run_append]
    simp [step, start, data]
  | append_singleton later event ih =>
    obtain ⟨c, call, rfl, rfl, barred⟩ := ih
    have hclosed : (run (before ++ .start c.request c.token :: later)).state = .closed :=
      run_closed before _ closed
    have hmove := run_move (before ++ .start c.request c.token :: later) event
    rw [List.append_assoc, List.cons_append] at hmove
    obtain ⟨phase, hcall, hother, -⟩ := hmove.call call
    refine ⟨_, hcall, rfl, rfl, ?_⟩
    by_cases own : event.call? = some (run before).calls.length
    · obtain ⟨phase', barred', hstep⟩ := step_of_barred hclosed call barred own
      rw [← List.cons_append, ← List.append_assoc, run_append, hstep,
        getElem?_setPhase_self call] at hcall
      cases hcall
      exact barred'
    · rw [hother own]
      exact barred

/-- Has not succeeded, and does not once the client is closed. -/
inductive Failing : Phase → Prop
  | sets (caller : Once) : Failing (.settingUp caller)
  | leaves : Failing .dropped
  | fails (e : HubError) : Failing (.returned (.error e))

lemma Move.failing (m : s.Move event t) (h : s.Coherent) (closed : s.state = .closed)
    (call : s.calls[i]? = some c) (failing : Failing c.phase) (call' : t.calls[i]? = some c') :
    Failing c'.phase := by
  obtain ⟨phase, hcall, -, hover⟩ := m.call call
  cases Option.some.inj (hcall.symm.trans call')
  generalize hphase : c.phase = before at failing
  cases failing with
  | leaves => exact (hover (by rw [hphase]; rfl)).trans hphase ▸ .leaves
  | fails e => exact (hover (by rw [hphase]; rfl)).trans hphase ▸ .fails e
  | sets caller =>
    obtain hsame | hreached := m.reached call'
    · have heq := Option.some.inj (hsame.symm.trans call)
      exact (congrArg Call.phase heq).trans hphase ▸ .sets caller
    · cases hreached with
      | waits fresh => cases fresh.symm.trans call
      | asks fresh => cases fresh.symm.trans call
      | connects unready => cases closed.symm.trans unready
      | closes opened => exact absurd closed opened
      | begins resumed call₁ waited ready underway => cases closed.symm.trans ready
      | goesOn call₁ sets => exact .sets _
      | drops => exact .leaves
      | returns call₁ ended =>
        cases Option.some.inj (call₁.symm.trans call)
        cases ended with
        | underLock under => simp [hphase, Phase.isUnderLock] at under
        | refused waited closed => exact .fails _
        | begun waited => cases waited.symm.trans hphase
        | settled sets needs late =>
          obtain ⟨e', rfl⟩ := late .closed ((h.closed _).trans (if_pos closed))
          exact .fails e'
        | replied operates => cases operates.symm.trans hphase
        | cancelled noticed fired cancellable => exact .fails _

/-- Who is at the setup of a link when the client is closed does not succeed any more. -/
lemma failing_of_closed {before : List ClientEvent} (closed : (run before).state = .closed)
    (call : (run before).calls[i]? = some c) (failing : Failing c.phase)
    (later : List ClientEvent) (call' : (run (before ++ later)).calls[i]? = some c') :
    Failing c'.phase := by
  induction later using List.reverseRecOn generalizing c' with
  | nil =>
    rw [List.append_nil] at call'
    cases Option.some.inj (call.symm.trans call')
    exact failing
  | append_singleton later event ih =>
    rw [← List.append_assoc] at call'
    obtain ⟨phase, hcall, -⟩ := run_call before later call
    exact (run_move (before ++ later) event).failing (coherent_run _)
      (run_closed before later closed) hcall (ih hcall) call'

/-- Who is cancelled in `wait_ready` noticed its token, and the client was unready. -/
lemma unready_of_cancelled (m : s.Move event t) (call : s.calls[i]? = some c)
    (waits : c.phase = .awaitingReady) (call' : t.calls[i]? = some c')
    (cancelled : c'.phase = .returned (.error .cancelled)) :
    event = .cancel i ∧ c.token ∈ s.fired ∧ s.state = .unready := by
  obtain hsame | hreached := m.reached call'
  · cases Option.some.inj (hsame.symm.trans call)
    cases waits.symm.trans cancelled
  · rw [cancelled] at hreached
    cases hreached with
    | begins _ _ _ _ underway => cases underway
    | returns call₁ ended =>
      cases Option.some.inj (call₁.symm.trans call)
      cases ended with
      | underLock under => simp [waits, Phase.isUnderLock] at under
      | settled sets needs late => cases waits.symm.trans sets
      | replied operates => cases waits.symm.trans operates
      | cancelled noticed fired cancellable =>
        exact ⟨noticed, fired, by simpa [Call.isCancellable, waits] using cancellable⟩

/-- At any moment of any run of calls: what a call about data hands to the transport it does after
it found the client ready; one that begins when the client is closed never has the transport at
anything, goes on to nothing but that the client is closed, whatever its token, and changes nothing
but itself; who is cancelled while it waits for the client had its token fired, the client being
unready; and who is at the setup of a link as the client is closed never succeeds. -/
theorem data_found_ready (events : List ClientEvent) :
    let s := run events
    (∀ event i c operation, s.Invokes event i operation → (s.step event).calls[i]? = some c →
      c.request.isData = true → FoundReady (events ++ [event]) i) ∧
    (∀ request token later, s.state = .closed → request.isData = true →
      let i := s.calls.length
      let s' := run (events ++ .start request token :: later)
      s.step (.start request token) =
          { s with calls := s.calls ++ [⟨request, token, .awaitingReady⟩] } ∧
        (∃ c, s'.calls[i]? = some c ∧ c.request = request ∧ c.token = token ∧ Barred c.phase ∧
          (c.phase = .awaitingReady →
            s'.resume? i = some (s'.finish i (.error .closed)) ∧ s'.cancel? i = none)) ∧
        (∀ operation, ¬ s'.InFlight i operation) ∧
        ∀ event, event.call? = some i → ∃ phase, s'.step event = s'.setPhase i phase) ∧
    (∀ event (i : Nat) (c c' : Call), s.calls[i]? = some c → c.phase = .awaitingReady →
      (s.step event).calls[i]? = some c' → c'.phase = .returned (.error .cancelled) →
      event = .cancel i ∧ .fire c.token ∈ events ∧ s.state = .unready) ∧
    ∀ event (i : Nat) (c : Call) caller later (c' : Call) reply, s.Enters event .closed →
      s.calls[i]? = some c → c.phase = .settingUp caller →
      (run (events ++ event :: later)).calls[i]? = some c' → c'.phase ≠ .returned (.ok reply) := by
  intro s
  have h : s.Coherent := coherent_run events
  have hstep (event : ClientEvent) : s.step event = run (events ++ [event]) := by
    rw [run_append]
  refine ⟨fun event i c operation hinvokes call data => ?_,
    fun request token later closed data => ?_, fun event i c c' call waits call' cancelled => ?_,
    fun event i c caller later c' reply hcloses call sets call' => ?_⟩
  · obtain ⟨c', call', flies⟩ := hinvokes.1
    cases Option.some.inj (call.symm.trans call')
    have hnext := h.move (step_move s event)
    exact foundReady_of_underway _ (hstep event ▸ call) (hnext.underway_of_data call data flies)
  · obtain ⟨c, call, hrequest, htoken, barred⟩ := barred_of_closed closed data token later
    have hclosed := run_closed events (.start request token :: later) closed
    refine ⟨by simp [step, start, data],
      ⟨c, call, hrequest, htoken, barred, resume?_of_barred hclosed call⟩, ?_, fun event own => ?_⟩
    · rintro operation ⟨c', call', flies⟩
      cases Option.some.inj (call.symm.trans call')
      generalize hphase : c.phase = phase at barred
      cases barred <;> simp [Call.operation?, hphase] at flies
    · obtain ⟨phase, -, hsets⟩ := step_of_barred hclosed call barred own
      exact ⟨phase, hsets⟩
  · obtain ⟨noticed, fired, unready⟩ :=
      unready_of_cancelled (step_move s event) call waits call' cancelled
    exact ⟨noticed, fire_mem_of_fired events fired, unready⟩
  · have closed : (run (events ++ [event])).state = .closed := hstep event ▸ hcloses.1
    have hother : event.call? ≠ some i := fun own => by
      -- only the close that has the lock closes the client
      obtain hsame | ⟨_, _, _, _, _, _, ready, _⟩ | ⟨k, ck, rfl, callk, waits, -⟩ :=
        (step_move s event).state_cases
      · exact hcloses.2 (hsame.symm.trans hcloses.1)
      · cases hcloses.1.symm.trans ready
      · cases own
        cases Option.some.inj (callk.symm.trans call)
        cases waits.symm.trans sets
    obtain ⟨phase, hcall, hsame, -⟩ := (step_move s event).call call
    cases (hsame hother).trans sets
    rw [hstep] at hcall
    rw [← List.singleton_append, ← List.append_assoc] at call'
    have hfailing := failing_of_closed closed hcall (.sets caller) later call'
    intro succeeds
    rw [succeeds] at hfailing
    cases hfailing

/-- A subscriber waits until the client is connected; then a close begins. -/
def subscribedThenClosing : List ClientEvent :=
  [.start .connect "a", .start .subscribeEvents "b", .resume 0, .answer 0 (.ok .done), .resume 1,
    .start .close "c"]

theorem data_found_ready_of_subscriber :
    FoundReady (subscribedThenClosing ++ [.resume 1]) 1 ∧
      ∃ c : Call, (run (subscribedThenClosing ++ [.resume 1] ++
          [.resume 2, .answer 1 (.ok .done)])).calls[1]? = some c ∧
        ∀ reply, c.phase ≠ .returned (.ok reply) := by
  constructor
  · obtain ⟨hready, -⟩ := data_found_ready subscribedThenClosing
    refine hready (.resume 1) 1 _ (.setup .events) ⟨⟨_, rfl, rfl⟩, ?_⟩ rfl rfl
    rintro ⟨c, ⟨⟩, ⟨⟩⟩
  · obtain ⟨-, -, -, hlate⟩ := data_found_ready (subscribedThenClosing ++ [.resume 1])
    exact ⟨_, rfl, fun reply =>
      hlate (.resume 2) 1 _ (.running 0) [.answer 1 (.ok .done)] _ reply ⟨rfl, by nofun⟩
        rfl rfl rfl⟩

end DeviceHub.Client
