import DeviceHub.Proofs.ClientRun.Course
import DeviceHub.Proofs.ClientRun.Setups

/-!
Calls that come to nothing.  Beside the events of its calls a `Client` sees what their callers do
with the subscriptions and handlers they got.  A call that fails, or is dropped, has changed neither
the state nor what is behind the links, and a setup it was at may be begun again at once.
-/
namespace DeviceHub

inductive SubscriberAct where
  | unsubscribe
  | receive
  | release

def SubscriberAct.perform {α : Type} (id : Nat) (m : Multiplexer (FanOut α)) :
    SubscriberAct → Multiplexer (FanOut α)
  | unsubscribe => m.unsubscribe id
  | receive => ((m.receive? id).map Prod.snd).getD m
  | release => m.release id

/-- Whatever can be done with a client: an event of its calls, or something with what they gave. -/
inductive ClientAct where
  | event (event : ClientEvent)
  | events (id : Nat) (act : SubscriberAct)
  | twinUpdates (id : Nat) (act : SubscriberAct)
  | unregister (name : String)

/-- Ended without success, or dropped. -/
def Call.Failed (c : Call) : Prop :=
  c.phase = .dropped ∨ ∃ e, c.phase = .returned (.error e)

namespace Client

def perform (s : Client) : ClientAct → Client
  | .event event => s.step event
  | .events id act => { s with events := act.perform id s.events }
  | .twinUpdates id act => { s with twinUpdates := act.perform id s.twinUpdates }
  | .unregister name => { s with methods := s.methods.remove name }

def course (acts : List ClientAct) : Client :=
  acts.foldl perform {}

@[simp] lemma course_append (acts : List ClientAct) (act : ClientAct) :
    course (acts ++ [act]) = (course acts).perform act :=
  List.foldl_append

/-- An act is one of a call: the call begins with it, or is moved by it. -/
def IsOf (s : Client) (i : Nat) : ClientAct → Prop
  | .event (.start _ _) => i = s.calls.length
  | .event event => event.call? = some i
  | _ => False

variable {s t u : Client} {i : Nat} {c : Call} {link : SharedLink} {event : ClientEvent}

/-! ### Acts beside the calls -/

lemma perform_aside {α : Type} (id : Nat) (m : Multiplexer (FanOut α)) (act : SubscriberAct) :
    (act.perform id m).bare = m.bare := by
  cases act with
  | unsubscribe => rfl
  | receive =>
    simp only [SubscriberAct.perform, Multiplexer.receive?]
    cases m.dispatch.receive? id <;> rfl
  | release => rfl

lemma closed?_eq_bare (link : SharedLink) (s : Client) : s.closed? link = (s.bare link).closed := by
  cases link <;> rfl

/-- An act that is no event changes only what is behind the links. -/
lemma perform_cases (s : Client) (act : ClientAct) :
    (∃ event, act = .event event ∧ s.perform act = s.step event) ∨
      (s.Keeps (s.perform act) ∧ ∀ link, (s.perform act).bare link = s.bare link) := by
  have hkeeps {t : Client} (state : t.state = s.state) (lock : t.lock = s.lock)
      (fired : t.fired = s.fired) (calls : t.calls = s.calls)
      (bare : ∀ link, t.bare link = s.bare link) :
      s.Keeps t ∧ ∀ link, t.bare link = s.bare link :=
    ⟨⟨state, lock, fired, calls, fun link => by rw [closed?_eq_bare, closed?_eq_bare, bare]⟩, bare⟩
  cases act with
  | event event => exact .inl ⟨event, rfl, rfl⟩
  | events id act =>
    refine .inr (hkeeps rfl rfl rfl rfl fun link => ?_)
    cases link <;> [exact perform_aside id s.events act; rfl; rfl]
  | twinUpdates id act =>
    refine .inr (hkeeps rfl rfl rfl rfl fun link => ?_)
    cases link <;> [rfl; exact perform_aside id s.twinUpdates act; rfl]
  | unregister name => exact .inr (hkeeps rfl rfl rfl rfl fun link => by cases link <;> rfl)

theorem coherent_course (acts : List ClientAct) : (course acts).Coherent := by
  induction acts using List.reverseRecOn with
  | nil => exact coherent_run []
  | append_singleton acts act ih =>
    rw [course_append]
    obtain ⟨event, -, heq⟩ | ⟨hkeeps, -⟩ := (course acts).perform_cases act
    · rw [heq]
      exact ih.move (step_move _ event)
    · exact ih.keeps hkeeps

theorem settled_course (acts : List ClientAct) : (course acts).Settled := by
  induction acts using List.reverseRecOn with
  | nil =>
    intro link
    cases link <;> exact SharedSetup.Consistent.run () []
  | append_singleton acts act ih =>
    rw [course_append]
    obtain ⟨event, -, heq⟩ | ⟨hkeeps, hbare⟩ := (course acts).perform_cases act
    · rw [heq]
      exact ih.step event
    · exact ih.behind hkeeps.calls hbare

lemma course_call (before after : List ClientAct) (call : (course before).calls[i]? = some c) :
    ∃ phase, (course (before ++ after)).calls[i]? = some { c with phase } ∧
      (c.phase.isOver = true → phase = c.phase) := by
  induction after using List.reverseRecOn with
  | nil => exact ⟨c.phase, by simpa using call, fun _ => rfl⟩
  | append_singleton after act ih =>
    obtain ⟨phase, hcall, hover⟩ := ih
    rw [← List.append_assoc, course_append]
    have hcoherent := coherent_course (before ++ after)
    obtain ⟨event, -, heq⟩ | ⟨hkeeps, -⟩ := (course (before ++ after)).perform_cases act
    · obtain ⟨phase', hcall', -, hover'⟩ := (step_move _ event).call hcall
      rw [heq]
      exact ⟨phase', hcall', fun quits => (hover' (by rwa [hover quits])).trans (hover quits)⟩
    · exact ⟨phase, hkeeps.calls ▸ hcall, hover⟩

/-! ### What a call's own events leave alone -/

lemma Intact.refl (s : Client) : s.Intact s :=
  ⟨rfl, rfl, rfl, rfl, fun _ => rfl⟩

lemma Intact.trans (h : s.Intact t) (h' : t.Intact u) : s.Intact u :=
  ⟨h'.state.trans h.state, h'.events.trans h.events, h'.twinUpdates.trans h.twinUpdates,
    h'.methods.trans h.methods, fun link => (h'.closed link).trans (h.closed link)⟩

lemma intact_setPhase (i : Nat) (phase : Phase) (s : Client) : s.Intact (s.setPhase i phase) :=
  ⟨rfl, rfl, rfl, rfl, fun link => by cases link <;> rfl⟩

lemma intact_unlock (i : Nat) (s : Client) : s.Intact (s.unlock i) :=
  ⟨rfl, rfl, rfl, rfl, fun link => by cases link <;> rfl⟩

lemma join_intact (request : Request) (s : Client) :
    s.Intact (s.join request).1 ∨ ∃ reply, (s.join request).2 = .ok reply := by
  cases request with
  | subscribeEvents =>
    cases hclosed : s.events.closed <;> simp only [join, Multiplexer.subscribe, hclosed]
    · exact .inr ⟨_, rfl⟩
    · exact .inl (.refl s)
  | subscribeTwin =>
    cases hclosed : s.twinUpdates.closed <;> simp only [join, Multiplexer.subscribe, hclosed]
    · exact .inr ⟨_, rfl⟩
    · exact .inl (.refl s)
  | register name handler =>
    cases hclosed : s.methods.closed <;> simp only [join, Multiplexer.handle, hclosed]
    · cases s.methods.dispatch.find? name
      · exact .inr ⟨_, rfl⟩
      · exact .inl (.refl s)
    · exact .inl (.refl s)
  | _ => exact .inl (.refl s)

/-- Everything is left alone, or the call has ended with success. -/
def Harmless (s : Client) (i : Nat) (c : Call) (t : Client) : Prop :=
  s.Intact t ∨ ∃ reply, t.calls[i]? = some { c with phase := .returned (.ok reply) }

lemma harmless_follow {m : Multiplexer Unit} (call : s.calls[i]? = some c)
    (reaches : s.Reaches link m u) (caller : Once) :
    s.Harmless i c (u.follow i c.request caller) := by
  have hintact (phase : Phase) : s.Harmless i c (u.setPhase i phase) :=
    .inl (reaches.intact.trans (intact_setPhase i phase u))
  cases caller with
  | returned outcome =>
    cases outcome with
    | ok _ =>
      obtain hjoin | ⟨reply, hreply⟩ := join_intact c.request u
      · exact .inl ((reaches.intact.trans hjoin).trans (intact_setPhase i _ _))
      · refine .inr ⟨reply, ?_⟩
        have hcall : (u.join c.request).1.calls[i]? = some c := by
          rw [(join_keeps c.request u).calls, reaches.calls, call]
        rw [← hreply]
        exact getElem?_setPhase_self hcall _
    | error e => exact hintact _
  | _ => exact hintact _

/-- A call other than a close leaves everything alone, or ends with success. -/
theorem CallStep.harmless (step : s.CallStep i c event t) (call : s.calls[i]? = some c)
    (data : c.request ≠ .close) : s.Harmless i c t := by
  cases step with
  | idle => exact .inl (.refl s)
  | turns quiet => exact .inl (intact_setPhase i _ s)
  | letsGo quiet => exact .inl ((intact_unlock i s).trans (intact_setPhase i _ _))
  | connected phase => exact .inr ⟨.done, getElem?_setPhase_self call _⟩
  | closes request phase => exact absurd request data
  | resumes needs sets resume reaches => exact harmless_follow call reaches _
  | settles needs sets finish reaches => exact harmless_follow call reaches _
  | leaves needs sets reaches quits => exact .inl (reaches.intact.trans (intact_setPhase i _ _))

/-! ### Where an attempt leaves the memo -/

/-- As a call leaves the attempt it is at, the memo is idle again, unless the attempt has
succeeded. -/
lemma CallStep.memo_of_attempt {run : Nat} (step : s.CallStep i c event t)
    (needs : c.request.link? = some link) (runs : c.phase = .settingUp (.running run)) :
    t = s ∨ t.memo link = .idle ∨
      ∃ answer, event = .answer i (.ok answer) ∧ t.memo link = .done := by
  have hpart : c.part link = .running run := by rw [Call.part, if_pos needs, runs]
  cases step with
  | idle => exact .inl rfl
  | turns quiet => exact absurd hpart (quiet.before link run)
  | letsGo quiet => exact absurd hpart (quiet.before link run)
  | connected phase => cases runs.symm.trans phase
  | closes _ phase => cases runs.symm.trans phase
  | resumes _ sets resume =>
    obtain rfl := Phase.settingUp.inj (runs.symm.trans sets)
    cases resume
  | @settles u link' m run' outcome caller needs' sets finish reaches =>
    obtain rfl := Option.some.inj (needs.symm.trans needs')
    obtain rfl : m = _ := (congrArg Prod.fst finish).symm
    have hmemo : (u.follow i c.request caller).memo link =
        if (outcome.map fun _ => ()).isOk then .done else .idle := by
      rw [memo, bare_follow, reaches.bare]
      rfl
    rw [hmemo]
    cases outcome with
    | ok answer => exact .inr (.inr ⟨answer, rfl, rfl⟩)
    | error e => exact .inr (.inl rfl)
  | @leaves _ u link' caller phase needs' sets reaches quits =>
    obtain rfl := Option.some.inj (needs.symm.trans needs')
    obtain rfl := Phase.settingUp.inj (runs.symm.trans sets)
    refine .inr (.inl ?_)
    rw [memo, bare_setPhase, reaches.bare]
    rfl

lemma intact_start (request : Request) (token : Token) (s : Client) :
    s.Intact (s.start request token) := by
  unfold start
  split <;> exact ⟨rfl, rfl, rfl, rfl, fun link => by cases link <;> rfl⟩

/-- An event of a call that comes to nothing in the end. -/
lemma intact_of_failed {before after : List ClientAct}
    (call : (course (before ++ .event event :: after)).calls[i]? = some c)
    (data : c.request ≠ .close) (failed : c.Failed) (own : event.call? = some i) :
    (course before).Intact ((course before).step event) := by
  have hnext : course (before ++ [.event event]) = (course before).step event :=
    course_append before _
  have hsplit : before ++ .event event :: after = (before ++ [.event event]) ++ after := by simp
  cases hbefore : (course before).calls[i]? with
  | none => rw [step_of_absent hbefore own]; exact .refl _
  | some c' =>
    obtain ⟨phase, hend, -⟩ := course_call before (.event event :: after) hbefore
    have hsame : c = { c' with phase } := Option.some.inj (call.symm.trans hend)
    have hrequest : c'.request ≠ .close := by simpa [hsame] using data
    obtain hintact | ⟨reply, hreply⟩ := (callStep hbefore own).harmless hbefore hrequest
    · exact hintact
    · -- who has ended with success has not failed later
      rw [hsplit] at call
      obtain ⟨phase', hend', hover⟩ := course_call (before ++ [.event event]) after (hnext ▸ hreply)
      have hsame' : c = _ := Option.some.inj (call.symm.trans hend')
      have hphase : c.phase = .returned (.ok reply) :=
        (congrArg Call.phase hsame').trans (hover rfl)
      obtain hdropped | ⟨e, he⟩ := failed
      · cases hphase.symm.trans hdropped
      · cases hphase.symm.trans he

/-- In whatever order calls and other acts come: of a call that was dropped or has failed, a close
apart, no event has changed the state or anything behind the links; as it left an attempt to set a
link up the memo was idle again, unless the attempt had succeeded; and the memo of a link names an
attempt only while one call, and no other, is at it. -/
theorem failed_calls_leave_intact (acts : List ClientAct) :
    (∀ (i : Nat) (c : Call), (course acts).calls[i]? = some c → c.request ≠ .close → c.Failed →
      ∀ before own after, acts = before ++ own :: after → (course before).IsOf i own →
        (course before).Intact (course (before ++ [own])) ∧
        ∀ link run, (course before).SetsUp link run i →
          ¬ (course (before ++ [own])).SetsUp link run i →
          (course (before ++ [own])).memo link = .idle ∨
            ∃ answer, own = .event (.answer i (.ok answer)) ∧
              (course (before ++ [own])).memo link = .done) ∧
    ∀ link run, (course acts).memo link = .running run ↔ ∃! i, (course acts).SetsUp link run i := by
  refine ⟨fun i c call data failed => ?_, (settled_course acts).running_iff⟩
  rintro before own after rfl hown
  cases own with
  | event event =>
    rw [course_append]
    cases hcall : event.call? with
    | none =>
      cases event with
      | start request token =>
        refine ⟨intact_start request token _, fun link run hsets => ?_⟩
        obtain ⟨c', hbefore, -⟩ := hsets
        have hfresh : i = (course before).calls.length := hown
        simp [hfresh] at hbefore
      | _ => cases hcall.symm.trans hown
    | some k =>
      have hown : event.call? = some i := by
        cases event <;> first | exact hown | cases hcall
      refine ⟨intact_of_failed call data failed hown, fun link run hsets hleft => ?_⟩
      obtain ⟨c', hbefore, needs, runs⟩ := hsets
      obtain hidle | hmemo := (callStep hbefore hown).memo_of_attempt needs runs
      · exact absurd ⟨c', by rwa [perform, hidle], needs, runs⟩ hleft
      · obtain hidle | ⟨answer, hevent, hdone⟩ := hmemo
        · exact .inl hidle
        · exact .inr ⟨answer, congrArg ClientAct.event hevent, hdone⟩
  | _ => cases hown

/-- A subscriber's call is dropped at the setup it runs, while another waits for it. -/
def droppedRunner : List ClientAct :=
  [.event (.start .connect "a"), .event (.resume 0), .event (.answer 0 (.ok .done)),
    .event (.start .subscribeEvents "b"), .event (.start .subscribeEvents "c"),
    .event (.resume 1), .event (.resume 1), .event (.resume 2), .event (.resume 2)]

theorem failed_calls_leave_intact_of_dropped :
    let acts := droppedRunner ++ [.event (.drop 1)]
    (course droppedRunner).Intact (course acts) ∧
      (course droppedRunner).memo .events = .running 0 ∧ (course acts).memo .events = .idle := by
  intro acts
  obtain ⟨hfailed, -⟩ := failed_calls_leave_intact acts
  have hruns : (course droppedRunner).SetsUp .events 0 1 := ⟨_, rfl, rfl, rfl⟩
  have hleft : ¬ (course acts).SetsUp .events 0 1 := by
    rintro ⟨c, call, -, phase⟩
    cases call
    cases phase
  obtain ⟨hintact, hmemo⟩ :=
    hfailed 1 _ rfl (by nofun) (.inl rfl) droppedRunner (.event (.drop 1)) [] rfl rfl
  refine ⟨hintact, rfl, ?_⟩
  obtain hidle | ⟨answer, hevent, -⟩ := hmemo .events 0 hruns hleft
  · exact hidle
  · cases hevent

end Client
end DeviceHub
