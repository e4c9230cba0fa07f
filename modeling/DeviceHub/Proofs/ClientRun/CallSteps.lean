import DeviceHub.Proofs.ClientRun
import DeviceHub.Proofs.SharedSetup.Attempts

/-!
What an event of a call does to a `Client`, told once.  A caller of `once` touches nothing of the
link it needs but the setup, and of other links nothing at all.
-/
namespace DeviceHub

namespace Multiplexer

variable {δ : Type} (m : Multiplexer δ)

/-- A link without what is behind it. -/
def bare : Multiplexer Unit :=
  { setup := m.setup, closed := m.closed, dispatch := () }

/-- What a caller does to a link is done to the setup, whatever is behind the link. -/
def OnSetup {α : Type} (act : {δ : Type} → Multiplexer δ → Multiplexer δ × α) : Prop :=
  ∀ {δ : Type} (m : Multiplexer δ),
    act m = ({ m with setup := (act m.bare).1.setup }, (act m.bare).2)

lemma onSetup_enter : OnSetup fun m => m.enter := by
  intro δ m
  obtain ⟨⟨memo, runs⟩, closed, dispatch⟩ := m
  cases closed with
  | some e => rfl
  | none => cases memo <;> rfl

lemma resume?_eq (caller : Once) :
    m.resume? caller =
      (m.bare.resume? caller).map fun r => ({ m with setup := r.1.setup }, r.2) := by
  have henter := congrArg some (onSetup_enter m)
  cases caller with
  | entering => exact henter
  | waiting run =>
    have hruns : m.bare.setup.runs = m.setup.runs := rfl
    simp only [resume?, hruns]
    split
    · rfl
    · exact henter
    · rfl
  | _ => rfl

lemma onSetup_resume? (caller : Once) :
    OnSetup fun m =>
      match m.resume? caller with
      | some (m, caller) => (m, some caller)
      | none => (m, none) := by
  intro δ m
  simp only [m.resume?_eq caller]
  cases m.bare.resume? caller <;> rfl

lemma onSetup_finish (outcome : HubResult Unit) (caller : Once) :
    OnSetup fun m => m.finish outcome caller := by
  intro δ m
  cases caller <;> rfl

lemma onSetup_abandon (caller : Once) : OnSetup fun m => (m.abandon caller, ()) := by
  intro δ m
  cases caller <;> rfl

end Multiplexer

/-- The part of a call in the setup of a link: it will look at the memo, has looked, or has no part
in it. -/
def Call.part (link : SharedLink) (c : Call) : Once :=
  if c.request.link? = some link then
    match c.phase with
    | .awaitingReady => .entering
    | .settingUp caller => caller
    | _ => .dropped
  else .dropped

lemma Call.part_of_ne {link : SharedLink} {c : Call} (h : c.request.link? ≠ some link) :
    c.part link = .dropped :=
  if_neg h

lemma Call.part_of_isOver {phase : Phase} (h : phase.isOver = true) (link : SharedLink) (c : Call) :
    Call.part link { c with phase } = .dropped := by
  cases phase <;> simp_all [part, Phase.isOver]

namespace Client

def bare (link : SharedLink) (s : Client) : Multiplexer Unit :=
  match link with
  | .events => s.events.bare
  | .twinUpdates => s.twinUpdates.bare
  | .methods => s.methods.bare

/-- The state, the subscribers and the handlers are the same, and so is what is closed. -/
structure Intact (s t : Client) : Prop where
  state : t.state = s.state
  events : t.events.dispatch = s.events.dispatch
  twinUpdates : t.twinUpdates.dispatch = s.twinUpdates.dispatch
  methods : t.methods.dispatch = s.methods.dispatch
  closed (link : SharedLink) : t.closed? link = s.closed? link

/-- Nothing has changed but the setup of a link, which is now as another one. -/
structure Reaches (s : Client) (link : SharedLink) (m : Multiplexer Unit) (u : Client) : Prop where
  calls : u.calls = s.calls
  bare : u.bare link = m
  others (other : SharedLink) : other ≠ link → u.bare other = s.bare other
  intact : s.Intact u

/-- A call that runs no attempt turns to a phase in which it has no part in a setup, or the same. -/
structure Quiet (c : Call) (phase : Phase) : Prop where
  before (link : SharedLink) : (c.part link).IsQuiet
  after (link : SharedLink) : Call.part link { c with phase } = .dropped ∨
    Call.part link { c with phase } = c.part link

inductive CallStep (s : Client) (i : Nat) (c : Call) : ClientEvent → Client → Prop
  | idle {event} : CallStep s i c event s
  | turns {event phase} (quiet : Quiet c phase) : CallStep s i c event (s.setPhase i phase)
  | letsGo {event phase} (quiet : Quiet c phase) :
      CallStep s i c event ((s.unlock i).setPhase i phase)
  | connected {answer} (phase : c.phase = .connecting) :
      CallStep s i c (.answer i (.ok answer))
        (({ s with state := .ready }.unlock i).finish i (.ok .done))
  | closes (request : c.request = .close) (phase : c.phase = .awaitingLock) :
      CallStep s i c (.resume i) (({ s with state := .closed }.closeLinks).setPhase i .closing)
  | resumes {u link m caller caller'} (needs : c.request.link? = some link)
      (sets : c.phase = .settingUp caller)
      (resume : (s.bare link).resume? caller = some (m, caller'))
      (reaches : s.Reaches link m u) : CallStep s i c (.resume i) (u.follow i c.request caller')
  | settles {u link m run outcome caller} (needs : c.request.link? = some link)
      (sets : c.phase = .settingUp (.running run))
      (finish : (s.bare link).finish (outcome.map fun _ => ()) (.running run) = (m, caller))
      (reaches : s.Reaches link m u) :
      CallStep s i c (.answer i outcome) (u.follow i c.request caller)
  | leaves {event u link caller phase} (needs : c.request.link? = some link)
      (sets : c.phase = .settingUp caller)
      (reaches : s.Reaches link ((s.bare link).abandon caller) u) (quits : phase.isOver = true) :
      CallStep s i c event (u.setPhase i phase)

variable {s t u : Client} {i : Nat} {c : Call} {link : SharedLink} {event : ClientEvent}

lemma reaches_withLink {α : Type} {a : α} {act : {δ : Type} → Multiplexer δ → Multiplexer δ × α}
    (h : s.withLink link act = (u, a)) (hact : Multiplexer.OnSetup act) :
    s.Reaches link (act (s.bare link)).1 u ∧ (act (s.bare link)).2 = a := by
  have heq {δ : Type} (m : Multiplexer δ) :
      act m = ({ m with setup := (act m.bare).1.setup }, (act m.bare).2) := hact m
  have hbare {δ : Type} (m : Multiplexer δ) : (act m).1.bare = (act m.bare).1 := by
    rw [heq m, heq m.bare]
    rfl
  have hdispatch {δ : Type} (m : Multiplexer δ) : (act m).1.dispatch = m.dispatch := by rw [heq m]
  have hclosed {δ : Type} (m : Multiplexer δ) : (act m).1.closed = m.closed := by rw [heq m]
  have hsnd {δ : Type} (m : Multiplexer δ) : (act m.bare).2 = (act m).2 := by rw [heq m]
  cases link with
  | events | twinUpdates | methods =>
    cases h
    refine ⟨⟨rfl, hbare _, fun other hother => ?_, ?_⟩, hsnd _⟩
    · cases other <;> first | rfl | exact absurd rfl hother
    · refine ⟨rfl, ?_, ?_, ?_, fun other => ?_⟩
      any_goals first | exact hdispatch _ | rfl
      cases other <;> first | exact hclosed _ | rfl

lemma quiet_of_phase {phase : Phase} (before : ∀ caller, c.phase ≠ .settingUp caller)
    (after : ∀ link, Call.part link { c with phase } = .dropped) : Quiet c phase := by
  refine ⟨fun link => ?_, fun link => .inl (after link)⟩
  unfold Call.part
  split
  · cases hphase : c.phase with
    | settingUp caller => exact absurd hphase (before caller)
    | _ => nofun
  · nofun

/-- Before the gate and behind it a call has not looked at its link. -/
lemma quiet_of_entering (waits : c.phase = .awaitingReady) : Quiet c (.settingUp .entering) := by
  have hpart (link : SharedLink) : Call.part link { c with phase := .settingUp .entering } =
      c.part link := by
    simp only [Call.part, waits]
  refine ⟨fun link => ?_, fun link => .inr (hpart link)⟩
  rw [Call.part, waits]
  split <;> nofun

lemma callStep_begin (waits : c.phase = .awaitingReady) :
    s.CallStep i c (.resume i) (s.begin i c.request) := by
  have hturns {phase : Phase} (after : ∀ link, Call.part link { c with phase } = .dropped) :
      s.CallStep i c (.resume i) (s.setPhase i phase) :=
    .turns (quiet_of_phase (by simp [waits]) after)
  have hfinish (outcome : HubResult Reply) : s.CallStep i c (.resume i) (s.finish i outcome) :=
    hturns fun link => by simp [Call.part]
  have hoperate (operation : Operation) :
      s.CallStep i c (.resume i) (s.setPhase i (.operating operation)) :=
    hturns fun link => by simp [Call.part]
  have henter : s.CallStep i c (.resume i) (s.setPhase i (.settingUp .entering)) :=
    .turns (quiet_of_entering waits)
  cases hrequest : c.request with
  | connect => exact .idle
  | close => exact .idle
  | send payload options =>
    simp only [begin]
    split
    · exact hfinish _
    · split
      · exact hoperate _
      · exact hfinish _
  | subscribeEvents | subscribeTwin => exact henter
  | register name handler =>
    simp only [begin]
    split
    · exact hfinish _
    · exact henter
  | retrieveTwin => exact hoperate _
  | updateTwin state => exact hoperate _

lemma callStep_locked (waits : c.phase = .awaitingLock) :
    s.CallStep i c (.resume i) (s.locked i c.request) := by
  have hquiet {phase : Phase} (after : ∀ link, Call.part link { c with phase } = .dropped) :
      Quiet c phase :=
    quiet_of_phase (by simp [waits]) after
  have hletsGo (outcome : HubResult Reply) :
      s.CallStep i c (.resume i) ((s.unlock i).finish i outcome) :=
    .letsGo (hquiet fun link => by simp [Call.part])
  cases hrequest : c.request with
  | connect =>
    cases hstate : s.state with
    | unready =>
      have hconnecting : s.CallStep i c (.resume i) (s.setPhase i .connecting) :=
        .turns (hquiet fun link => by simp [Call.part])
      simpa only [locked, hstate] using hconnecting
    | ready => simpa only [locked, hstate] using hletsGo _
    | closed => simpa only [locked, hstate] using hletsGo _
  | close =>
    have hcloses := CallStep.closes (s := s) (i := i) hrequest waits
    cases hstate : s.state with
    | unready => simpa only [locked, hstate] using hcloses
    | ready => simpa only [locked, hstate] using hcloses
    | closed => simpa only [locked, hstate] using hletsGo _
  | _ => exact .idle

lemma callStep_resume (call : s.calls[i]? = some c) :
    s.CallStep i c (.resume i) ((s.resume? i).getD s) := by
  have hidle : s.CallStep i c (.resume i) s := .idle
  cases phase : c.phase with
  | awaitingLock =>
    by_cases holds : s.lock.holder = some i
    · simpa [resume?, call, phase, holds] using callStep_locked phase
    · simpa [resume?, call, phase, holds] using hidle
  | awaitingReady =>
    have hrefuse (e : HubError) : s.CallStep i c (.resume i) (s.finish i (.error e)) :=
      .turns (quiet_of_phase (by simp [phase]) fun link => by simp [Call.part])
    cases hstate : s.state with
    | unready => simpa [resume?, call, phase, hstate, ConnectionState.readiness?] using hidle
    | ready =>
      simpa [resume?, call, phase, hstate, ConnectionState.readiness?] using callStep_begin phase
    | closed => simpa [resume?, call, phase, hstate, ConnectionState.readiness?] using hrefuse _
  | settingUp caller =>
    cases needs : c.request.link? with
    | none => simpa [resume?, call, phase, needs] using hidle
    | some link =>
      simp only [resume?, call, phase, needs, Option.bind_some]
      split
      next u caller' hlink =>
        obtain ⟨hreaches, hcaller⟩ := reaches_withLink hlink (Multiplexer.onSetup_resume? caller)
        cases hresume : (s.bare link).resume? caller with
        | none => simp [hresume] at hcaller
        | some r =>
          obtain ⟨m, next⟩ := r
          simp only [hresume, Option.some.injEq] at hreaches hcaller
          exact .resumes needs phase (hcaller ▸ hresume) hreaches
      next => exact hidle
  | _ => simpa [resume?, call, phase] using hidle

lemma callStep_answer (call : s.calls[i]? = some c) (outcome : HubResult Answer) :
    s.CallStep i c (.answer i outcome) ((s.answer? i outcome).getD s) := by
  have hidle : s.CallStep i c (.answer i outcome) s := .idle
  have hquiet (sets : ∀ caller, c.phase ≠ .settingUp caller) (reply : HubResult Reply) :
      Quiet c (.returned reply) :=
    quiet_of_phase sets fun link => by simp [Call.part]
  have hletsGo (sets : ∀ caller, c.phase ≠ .settingUp caller) (reply : HubResult Reply) :
      s.CallStep i c (.answer i outcome) ((s.unlock i).finish i reply) :=
    .letsGo (hquiet sets reply)
  cases phase : c.phase with
  | connecting =>
    cases outcome with
    | ok a => simpa [answer?, call, phase] using CallStep.connected phase
    | error e => simpa [answer?, call, phase] using hletsGo (by simp [phase]) _
  | closing => simpa [answer?, call, phase] using hletsGo (by simp [phase]) _
  | operating operation =>
    have hturns (reply : HubResult Reply) :
        s.CallStep i c (.answer i outcome) (s.finish i reply) :=
      .turns (hquiet (by simp [phase]) reply)
    simpa [answer?, call, phase] using hturns _
  | settingUp caller =>
    cases caller with
    | running run =>
      cases needs : c.request.link? with
      | none => simpa [answer?, call, phase, needs] using hidle
      | some link =>
        simp only [answer?, call, phase, needs, Option.bind_some, Option.map_some,
          Option.getD_some]
        obtain ⟨u, caller, hlink⟩ : ∃ u caller, (s.withLink link fun m =>
            m.finish (outcome.map fun _ => ()) (.running run)) = (u, caller) := ⟨_, _, rfl⟩
        obtain ⟨hreaches, rfl⟩ := reaches_withLink hlink (Multiplexer.onSetup_finish _ _)
        rw [hlink]
        exact .settles needs phase rfl hreaches
    | _ => simpa [answer?, call, phase] using hidle
  | _ => simpa [answer?, call, phase] using hidle

/-- A call ends early and lets go of what it holds. -/
lemma callStep_release {phase : Phase} (quits : phase.isOver = true) :
    s.CallStep i c event ((s.release i c).setPhase i phase) := by
  have hafter (link : SharedLink) := Call.part_of_isOver quits link c
  have hquiet (sets : ∀ caller, c.phase ≠ .settingUp caller) : Quiet c phase :=
    quiet_of_phase sets hafter
  cases hphase : c.phase with
  | awaitingLock | connecting | closing =>
    simpa only [release, hphase] using .letsGo (hquiet (by simp [hphase]))
  | settingUp caller =>
    simp only [release, hphase]
    cases needs : c.request.link? with
    | none =>
      -- without a link it has no part in any setup
      have hpart (link : SharedLink) : c.part link = .dropped := Call.part_of_ne (by simp [needs])
      exact .turns ⟨fun link => by simp [hpart, Once.IsQuiet], fun link => .inl (hafter link)⟩
    | some link =>
      obtain ⟨u, a, hlink⟩ : ∃ u a, (s.withLink link fun m => (m.abandon caller, ())) = (u, a) :=
        ⟨_, _, rfl⟩
      obtain ⟨hreaches, -⟩ := reaches_withLink hlink (Multiplexer.onSetup_abandon caller)
      simp only [hlink]
      exact .leaves needs hphase hreaches quits
  | _ => simpa only [release, hphase] using .turns (hquiet (by simp [hphase]))

lemma step_of_absent (absent : s.calls[i]? = none) (own : event.call? = some i) :
    s.step event = s := by
  cases event <;> cases own <;> simp [step, resume?, answer?, cancel?, drop, absent]

theorem callStep (call : s.calls[i]? = some c) (own : event.call? = some i) :
    s.CallStep i c event (s.step event) := by
  cases event with
  | resume k =>
    cases own
    exact callStep_resume call
  | answer k outcome =>
    cases own
    exact callStep_answer call outcome
  | cancel k =>
    cases own
    simp only [step, cancel?, call, Option.bind_some]
    split
    · exact callStep_release rfl
    · exact .idle
  | drop k =>
    cases own
    have hdropped : s.CallStep i c (.drop i) ((s.release i c).setPhase i .dropped) :=
      callStep_release rfl
    have hidle : s.CallStep i c (.drop i) s := .idle
    cases hphase : c.phase with
    | returned outcome => simpa [step, drop, call, hphase] using hidle
    | dropped => simpa [step, drop, call, hphase] using hidle
    | _ => simpa [step, drop, call, hphase] using hdropped
  | _ => cases own

end Client
end DeviceHub
