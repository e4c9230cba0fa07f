import DeviceHub.Client
import Mathlib.Data.List.Induction
import Mathlib.Tactic.Common

/-!
Runs of a device `Client`.  Calls begin, go on, are answered by the transport, notice their tokens
and are dropped in any order.  An event moves one call at most; what it does to the `Lifecycle` and
to that call is told here once, whatever the request is.
-/
namespace DeviceHub

namespace Multiplexer

variable {δ : Type} (m : Multiplexer δ)

@[simp] lemma enter_closed : m.enter.1.closed = m.closed := by
  unfold enter
  split
  · rfl
  · split <;> rfl

@[simp] lemma finish_closed (outcome : HubResult Unit) (caller : Once) :
    (m.finish outcome caller).1.closed = m.closed := by
  cases caller <;> rfl

@[simp] lemma abandon_closed (caller : Once) : (m.abandon caller).closed = m.closed := by
  cases caller <;> rfl

variable {m} {m' : Multiplexer δ} {caller caller' : Once}

/-- Who goes on has looked at the memo, or has learnt what became of an attempt. -/
lemma resume?_cases (h : m.resume? caller = some (m', caller')) :
    (m', caller') = m.enter ∨ ∃ outcome, (m', caller') = (m, .returned outcome) := by
  cases caller with
  | entering => exact .inl (Option.some.inj h).symm
  | waiting run =>
    simp only [resume?] at h
    split at h
    · exact .inr ⟨_, (Option.some.inj h).symm⟩
    · exact .inl (Option.some.inj h).symm
    · cases h
  | _ => cases h

lemma closed_of_resume? (h : m.resume? caller = some (m', caller')) : m'.closed = m.closed := by
  obtain henter | ⟨outcome, hlearnt⟩ := resume?_cases h
  · exact (congrArg (fun r => r.1.closed) henter).trans m.enter_closed
  · exact congrArg (fun r => r.1.closed) hlearnt

/-- Once a link is closed nobody who looks gets further than to its error. -/
lemma enter_of_closed {e : HubError} (h : m.closed = some e) :
    m.enter = (m, .returned (.error e)) := by
  rw [enter, h]

/-- Who goes on after the link was closed has come to an outcome. -/
lemma resume?_of_closed {e : HubError} (h : m.closed = some e)
    (hresume : m.resume? caller = some (m', caller')) :
    ∃ outcome, caller' = .returned outcome := by
  obtain henter | ⟨outcome, hlearnt⟩ := resume?_cases hresume
  · exact ⟨.error e, congrArg Prod.snd (henter.trans (enter_of_closed h))⟩
  · exact ⟨outcome, congrArg Prod.snd hlearnt⟩

end Multiplexer

def ClientEvent.call? : ClientEvent → Option Nat
  | resume id | answer id _ | cancel id | drop id => some id
  | _ => none

def Operation.isData : Operation → Bool
  | connect | close => false
  | _ => true

namespace Phase

def isUnderLock : Phase → Bool
  | awaitingLock | connecting | closing => true
  | _ => false

/-- At an operation on data, or at setting up a link. -/
def isUnderway : Phase → Bool
  | operating operation => operation.isData
  | settingUp _ => true
  | _ => false

def isOver : Phase → Bool
  | returned _ | dropped => true
  | _ => false

variable {phase : Phase}

lemma isOver_of_isUnderLock (h : phase.isUnderLock = true) : phase.isOver = false := by
  cases phase <;> simp_all [isUnderLock, isOver]

lemma isUnderLock_of_isUnderway (h : phase.isUnderway = true) : phase.isUnderLock = false := by
  cases phase <;> simp_all [isUnderLock, isUnderway]

lemma isUnderLock_of_isOver (h : phase.isOver = true) : phase.isUnderLock = false := by
  cases phase <;> simp_all [isUnderLock, isOver]

end Phase

lemma Call.isOver_of_isCancellable {state : ConnectionState} {c : Call}
    (h : c.isCancellable state = true) : c.phase.isOver = false := by
  cases hphase : c.phase <;> simp_all [isCancellable, Phase.isOver]

lemma SendOptions.toEvent_error {o : SendOptions} {payload : Bytes} {e : HubError}
    (h : o.toEvent payload = .error e) : ∃ reason, e = .invalidInput reason := by
  simp only [toEvent, validate] at h
  split at h
  · exact ⟨_, (Except.error.inj h).symm⟩
  · split at h
    · exact ⟨_, (Except.error.inj h).symm⟩
    · split at h
      · exact ⟨_, (Except.error.inj h).symm⟩
      · cases h

namespace Client

variable {s t u : Client}

def run (events : List ClientEvent) : Client :=
  events.foldl step {}

@[simp] lemma run_append (events : List ClientEvent) (event : ClientEvent) :
    run (events ++ [event]) = (run events).step event :=
  List.foldl_append

def closed? (link : SharedLink) (s : Client) : Option HubError :=
  match link with
  | .events => s.events.closed
  | .twinUpdates => s.twinUpdates.closed
  | .methods => s.methods.closed

/-- Nothing has changed but what is behind the shared links. -/
structure Keeps (s t : Client) : Prop where
  state : t.state = s.state
  lock : t.lock = s.lock
  fired : t.fired = s.fired
  calls : t.calls = s.calls
  closed (link : SharedLink) : t.closed? link = s.closed? link

lemma Keeps.refl (s : Client) : s.Keeps s :=
  ⟨rfl, rfl, rfl, rfl, fun _ => rfl⟩

lemma Keeps.trans (h : s.Keeps t) (h' : t.Keeps u) : s.Keeps u :=
  ⟨h'.state.trans h.state, h'.lock.trans h.lock, h'.fired.trans h.fired, h'.calls.trans h.calls,
    fun link => (h'.closed link).trans (h.closed link)⟩

/-- A caller's part in a setup closes nothing, and what becomes of the caller is told by the
multiplexer of its link. -/
lemma withLink_cases {α : Type} {link : SharedLink} {a : α}
    {act : {δ : Type} → Multiplexer δ → Multiplexer δ × α}
    (h : s.withLink link act = (u, a))
    (hact : ∀ {δ : Type} (m : Multiplexer δ), (act m).1.closed = m.closed) :
    s.Keeps u ∧ ∃ (δ : Type) (m : Multiplexer δ), m.closed = s.closed? link ∧ (act m).2 = a := by
  cases link with
  | events =>
    cases h
    exact ⟨⟨rfl, rfl, rfl, rfl, fun l => by cases l <;> [exact hact _; rfl; rfl]⟩,
      _, s.events, rfl, rfl⟩
  | twinUpdates =>
    cases h
    exact ⟨⟨rfl, rfl, rfl, rfl, fun l => by cases l <;> [rfl; exact hact _; rfl]⟩,
      _, s.twinUpdates, rfl, rfl⟩
  | methods =>
    cases h
    exact ⟨⟨rfl, rfl, rfl, rfl, fun l => by cases l <;> [rfl; rfl; exact hact _]⟩,
      _, s.methods, rfl, rfl⟩

lemma join_keeps (request : Request) (s : Client) : s.Keeps (s.join request).1 := by
  cases request with
  | subscribeEvents =>
    cases hclosed : s.events.closed <;> simp only [join, Multiplexer.subscribe, hclosed]
    · exact ⟨rfl, rfl, rfl, rfl, fun link => by cases link <;> simp [closed?, hclosed]⟩
    · exact .refl s
  | subscribeTwin =>
    cases hclosed : s.twinUpdates.closed <;> simp only [join, Multiplexer.subscribe, hclosed]
    · exact ⟨rfl, rfl, rfl, rfl, fun link => by cases link <;> simp [closed?, hclosed]⟩
    · exact .refl s
  | register name handler =>
    cases hclosed : s.methods.closed <;> simp only [join, Multiplexer.handle, hclosed]
    · cases s.methods.dispatch.find? name
      · exact ⟨rfl, rfl, rfl, rfl, fun link => by cases link <;> simp [closed?, hclosed]⟩
      · exact .refl s
    · exact .refl s
  | _ => exact .refl s

lemma join_of_closed {request : Request} {link : SharedLink} {e : HubError}
    (needs : request.link? = some link) (h : s.closed? link = some e) :
    (s.join request).2 = .error e := by
  cases request with
  | subscribeEvents | subscribeTwin | register name handler =>
    cases needs
    simp only [closed?] at h
    simp [join, Multiplexer.subscribe, Multiplexer.handle, h]
  | _ => cases needs

/-- Where a call stands that has become a caller of a setup, or was one. -/
inductive Follows (s : Client) (request : Request) : Once → Phase → Prop
  | joined : Follows s request (.returned (.ok ())) (.returned (s.join request).2)
  | failed (e : HubError) : Follows s request (.returned (.error e)) (.returned (.error e))
  | still {caller : Once} (unsettled : ∀ outcome, caller ≠ .returned outcome) :
      Follows s request caller (.settingUp caller)

lemma follow_eq (id : Nat) (request : Request) (s : Client) (caller : Once) :
    ∃ u phase, s.Keeps u ∧ s.Follows request caller phase ∧
      s.follow id request caller = u.setPhase id phase := by
  cases caller with
  | returned outcome =>
    cases outcome with
    | ok _ => exact ⟨_, _, join_keeps request s, .joined, rfl⟩
    | error e => exact ⟨s, _, .refl s, .failed e, rfl⟩
  | _ => exact ⟨s, _, .refl s, .still (by nofun), rfl⟩

lemma Follows.cases {request : Request} {caller : Once} {phase : Phase}
    (h : s.Follows request caller phase) :
    (∃ caller', phase = .settingUp caller') ∨ ∃ outcome, phase = .returned outcome := by
  cases h with
  | joined => exact .inr ⟨_, rfl⟩
  | failed e => exact .inr ⟨_, rfl⟩
  | still _ => exact .inl ⟨_, rfl⟩

/-- Whoever gets to an outcome after the link was closed fails. -/
lemma Follows.of_closed {request : Request} {link : SharedLink} {e : HubError}
    {outcome : HubResult Unit} {phase : Phase} (needs : request.link? = some link)
    (closed : s.closed? link = some e) (h : s.Follows request (.returned outcome) phase) :
    ∃ e', phase = .returned (.error e') := by
  cases h with
  | joined => exact ⟨e, congrArg Phase.returned (join_of_closed needs closed)⟩
  | failed e' => exact ⟨e', rfl⟩
  | still unsettled => exact absurd rfl (unsettled outcome)

inductive Move (s : Client) : ClientEvent → Client → Prop
  | idle {event} : Move s event s
  | wait {request token} (data : request.isData = true) :
      Move s (.start request token)
        { s with calls := s.calls ++ [⟨request, token, .awaitingReady⟩] }
  | ask {request token} (transition : request.isData = false) :
      Move s (.start request token)
        { s with
          calls := s.calls ++ [⟨request, token, .awaitingLock⟩]
          lock := s.lock.ask s.calls.length }
  | connect {i c} (call : s.calls[i]? = some c) (phase : c.phase = .awaitingLock)
      (holds : s.lock.holder = some i) (request : c.request = .connect)
      (unready : s.state = .unready) : Move s (.resume i) (s.setPhase i .connecting)
  | close {i c} (call : s.calls[i]? = some c) (phase : c.phase = .awaitingLock)
      (holds : s.lock.holder = some i) (request : c.request = .close)
      (opened : s.state ≠ .closed) :
      Move s (.resume i) (({ s with state := .closed }.closeLinks).setPhase i .closing)
  | connected {i c answer} (call : s.calls[i]? = some c) (phase : c.phase = .connecting) :
      Move s (.answer i (.ok answer)) (({ s with state := .ready }.unlock i).finish i (.ok .done))
  | letGo {event i c phase} (own : event.call? = some i) (call : s.calls[i]? = some c)
      (under : c.phase.isUnderLock = true) (quits : phase.isOver = true) :
      Move s event ((s.unlock i).setPhase i phase)
  | refuse {i c} (call : s.calls[i]? = some c) (phase : c.phase = .awaitingReady)
      (closed : s.state = .closed) : Move s (.resume i) (s.finish i (.error .closed))
  | begin {i c phase} (call : s.calls[i]? = some c) (waits : c.phase = .awaitingReady)
      (ready : s.state = .ready)
      (begun : phase.isUnderway = true ∨
        ∃ reason, phase = .returned (.error (.invalidInput reason))) :
      Move s (.resume i) (s.setPhase i phase)
  | settle {event i c u caller link phase} (own : event.call? = some i)
      (call : s.calls[i]? = some c) (sets : c.phase = .settingUp caller)
      (needs : c.request.link? = some link) (keeps : s.Keeps u)
      (settled : (∃ caller', phase = .settingUp caller') ∨ ∃ outcome, phase = .returned outcome)
      (late : ∀ e, s.closed? link = some e → ∃ e', phase = .returned (.error e')) :
      Move s event (u.setPhase i phase)
  | reply {i c operation answer outcome} (call : s.calls[i]? = some c)
      (phase : c.phase = .operating operation) : Move s (.answer i answer) (s.finish i outcome)
  | cancel {i c u} (call : s.calls[i]? = some c) (free : c.phase.isUnderLock = false)
      (fired : c.token ∈ s.fired) (cancellable : c.isCancellable s.state = true)
      (keeps : s.Keeps u) : Move s (.cancel i) (u.finish i (.error .cancelled))
  | drop {i c u} (call : s.calls[i]? = some c) (free : c.phase.isUnderLock = false)
      (going : c.phase.isOver = false) (keeps : s.Keeps u) :
      Move s (.drop i) (u.setPhase i .dropped)
  | fire (token : Token) : Move s (.fire token) { s with fired := token :: s.fired }
  | receive {event u} (nobody : event.call? = none) (keeps : s.Keeps u) : Move s event u

/-- A request about data gets under way, or fails for what it asks. -/
lemma begin_move {i : Nat} {c : Call} (call : s.calls[i]? = some c)
    (waits : c.phase = .awaitingReady) (ready : s.state = .ready) :
    s.Move (.resume i) (s.begin i c.request) := by
  have hunderway {phase : Phase} (h : phase.isUnderway = true) :
      s.Move (.resume i) (s.setPhase i phase) :=
    .begin call waits ready (.inl h)
  have hinvalid (reason : String) :
      s.Move (.resume i) (s.finish i (.error (.invalidInput reason))) :=
    .begin call waits ready (.inr ⟨reason, rfl⟩)
  cases hrequest : c.request with
  | connect => exact .idle
  | close => exact .idle
  | send payload options =>
    simp only [begin]
    split
    · exact hinvalid _
    · split
      · exact hunderway rfl
      next e he =>
        obtain ⟨reason, rfl⟩ := options.toEvent_error he
        exact hinvalid _
  | subscribeEvents | subscribeTwin => exact hunderway rfl
  | register name handler =>
    simp only [begin]
    split
    · exact hinvalid _
    · exact hunderway rfl
  | retrieveTwin => exact hunderway rfl
  | updateTwin state => exact hunderway rfl

lemma locked_move {i : Nat} {c : Call} (call : s.calls[i]? = some c)
    (phase : c.phase = .awaitingLock) (holds : s.lock.holder = some i) :
    s.Move (.resume i) (s.locked i c.request) := by
  have hletGo (outcome : HubResult Reply) :
      s.Move (.resume i) ((s.unlock i).finish i outcome) :=
    .letGo rfl call (by rw [phase]; rfl) rfl
  cases hrequest : c.request with
  | connect =>
    cases hstate : s.state with
    | unready => simpa only [locked, hstate] using .connect call phase holds hrequest hstate
    | ready => simpa only [locked, hstate] using hletGo _
    | closed => simpa only [locked, hstate] using hletGo _
  | close =>
    have hclose (h : s.state ≠ .closed) := Move.close call phase holds hrequest h
    cases hstate : s.state with
    | unready => simpa only [locked, hstate] using hclose (by simp [hstate])
    | ready => simpa only [locked, hstate] using hclose (by simp [hstate])
    | closed => simpa only [locked, hstate] using hletGo _
  | _ => exact .idle

/-- A caller of a setup goes on from what its part has become. -/
lemma follow_move {event : ClientEvent} {i : Nat} {c : Call} {caller caller' : Once}
    {link : SharedLink} (own : event.call? = some i) (call : s.calls[i]? = some c)
    (sets : c.phase = .settingUp caller) (needs : c.request.link? = some link) (keeps : s.Keeps u)
    (late : ∀ e, s.closed? link = some e → ∃ outcome, caller' = .returned outcome) :
    s.Move event (u.follow i c.request caller') := by
  obtain ⟨t, phase, ht, hfollows, heq⟩ := follow_eq i c.request u caller'
  rw [heq]
  refine .settle own call sets needs (keeps.trans ht) hfollows.cases fun e he => ?_
  obtain ⟨outcome, rfl⟩ := late e he
  exact hfollows.of_closed needs ((keeps.closed link).trans he)

lemma resume_move (i : Nat) : s.Move (.resume i) ((s.resume? i).getD s) := by
  cases call : s.calls[i]? with
  | none => simpa [resume?, call] using Move.idle
  | some c =>
    cases phase : c.phase with
    | awaitingLock =>
      by_cases holds : s.lock.holder = some i
      · simpa [resume?, call, phase, holds] using locked_move call phase holds
      · simpa [resume?, call, phase, holds] using Move.idle
    | awaitingReady =>
      cases hstate : s.state with
      | unready => simpa [resume?, call, phase, hstate, ConnectionState.readiness?] using Move.idle
      | ready =>
        simpa [resume?, call, phase, hstate, ConnectionState.readiness?]
          using begin_move call phase hstate
      | closed =>
        simpa [resume?, call, phase, hstate, ConnectionState.readiness?]
          using Move.refuse call phase hstate
    | settingUp caller =>
      cases needs : c.request.link? with
      | none => simpa [resume?, call, phase, needs] using Move.idle
      | some link =>
        simp only [resume?, call, phase, needs, Option.bind_some]
        split
        next u caller' hlink =>
          obtain ⟨hkeeps, δ, m, hclosed, hcaller⟩ := withLink_cases hlink fun m => by
            cases hresume : m.resume? caller with
            | none => rfl
            | some r => exact Multiplexer.closed_of_resume? hresume
          refine follow_move rfl call phase needs hkeeps fun e he => ?_
          cases hresume : m.resume? caller with
          | none => simp [hresume] at hcaller
          | some r =>
            rw [hresume] at hcaller
            cases hcaller
            exact Multiplexer.resume?_of_closed (hclosed.trans he) hresume
        next => exact .idle
    | _ => simpa [resume?, call, phase] using Move.idle

lemma answer_move (i : Nat) (outcome : HubResult Answer) :
    s.Move (.answer i outcome) ((s.answer? i outcome).getD s) := by
  cases call : s.calls[i]? with
  | none => simpa [answer?, call] using Move.idle
  | some c =>
    have hletGo (under : c.phase.isUnderLock = true) (result : HubResult Reply) :
        s.Move (.answer i outcome) ((s.unlock i).finish i result) :=
      .letGo rfl call under rfl
    cases phase : c.phase with
    | connecting =>
      cases outcome with
      | ok a => simpa [answer?, call, phase] using Move.connected call phase
      | error e => simpa [answer?, call, phase] using hletGo (by rw [phase]; rfl) _
    | closing => simpa [answer?, call, phase] using hletGo (by rw [phase]; rfl) _
    | operating operation => simpa [answer?, call, phase] using Move.reply call phase
    | settingUp caller =>
      cases caller with
      | running run =>
        cases needs : c.request.link? with
        | none => simpa [answer?, call, phase, needs] using Move.idle
        | some link =>
          simp only [answer?, call, phase, needs, Option.bind_some, Option.map_some,
            Option.getD_some]
          obtain ⟨hkeeps, δ, m, -, hcaller⟩ :=
            withLink_cases rfl fun m => m.finish_closed (outcome.map fun _ => ()) (.running run)
          exact follow_move rfl call phase needs hkeeps fun _ _ => ⟨_, hcaller.symm⟩
      | _ => simpa [answer?, call, phase] using Move.idle
    | _ => simpa [answer?, call, phase] using Move.idle

/-- What a call does not hold under the lock it lets go of behind the links. -/
lemma release_keeps {i : Nat} {c : Call} (free : c.phase.isUnderLock = false) :
    s.Keeps (s.release i c) := by
  cases phase : c.phase with
  | awaitingLock | connecting | closing => simp [phase, Phase.isUnderLock] at free
  | settingUp caller =>
    simp only [release, phase]
    split
    next link _ => exact (withLink_cases (Prod.eta _).symm fun m => m.abandon_closed caller).1
    next => exact .refl s
  | _ => simpa only [release, phase] using .refl s

lemma release_of_underLock {i : Nat} {c : Call} (under : c.phase.isUnderLock = true) :
    s.release i c = s.unlock i := by
  cases phase : c.phase with
  | awaitingLock | connecting | closing => simp only [release, phase]
  | _ => simp [phase, Phase.isUnderLock] at under

lemma cancel_move (i : Nat) : s.Move (.cancel i) ((s.cancel? i).getD s) := by
  cases call : s.calls[i]? with
  | none => simpa [cancel?, call] using Move.idle
  | some c =>
    simp only [cancel?, call, Option.bind_some]
    split
    next h =>
      simp only [Bool.and_eq_true, List.contains_iff_mem] at h
      cases free : c.phase.isUnderLock with
      | false => exact .cancel call free h.1 h.2 (release_keeps free)
      | true => exact release_of_underLock free ▸ .letGo rfl call free rfl
    next => exact .idle

lemma drop_move (i : Nat) : s.Move (.drop i) (s.drop i) := by
  cases call : s.calls[i]? with
  | none => simpa [drop, call] using Move.idle
  | some c =>
    cases going : c.phase.isOver with
    | true =>
      have hsame : s.drop i = s := by
        cases phase : c.phase <;> simp_all [drop, Phase.isOver]
      rw [hsame]
      exact .idle
    | false =>
      have hdrop : s.drop i = (s.release i c).setPhase i .dropped := by
        cases phase : c.phase <;> simp_all [drop, Phase.isOver]
      rw [hdrop]
      cases free : c.phase.isUnderLock with
      | false => exact .drop call free going (release_keeps free)
      | true => exact release_of_underLock free ▸ .letGo rfl call free rfl

theorem step_move (s : Client) (event : ClientEvent) : s.Move event (s.step event) := by
  cases event with
  | start request token =>
    cases data : request.isData with
    | true => simpa [step, start, data] using Move.wait data
    | false => simpa [step, start, data] using Move.ask data
  | resume i => exact resume_move i
  | answer i outcome => exact answer_move i outcome
  | cancel i => exact cancel_move i
  | fire token => exact .fire token
  | drop i => exact drop_move i
  | inboundEvent event =>
    exact .receive rfl ⟨rfl, rfl, rfl, rfl, fun link => by cases link <;> rfl⟩
  | inboundTwin payload =>
    refine .receive rfl ?_
    simp only [step, inboundTwin]
    split
    · exact ⟨rfl, rfl, rfl, rfl, fun link => by cases link <;> rfl⟩
    · exact .refl s

end Client
end DeviceHub
