import DeviceHub.Proofs.ClientRun.CallSteps

/-!
The setups of a client's links.  A link and the calls that need it make the moves of `once`,
whatever else happens to the `Client`, so that the `SetupState` names an attempt exactly while one
call is at it.
-/
namespace DeviceHub

instance : Dispatch Unit where
  closeAll _ _ := ()

namespace SharedSetup

variable {δ : Type} {s : SharedSetup δ} {i : Nat} {c : Once}

lemma Consistent.abandon (h : s.Consistent) (caller : s.callers[i]? = some c) :
    (s.put i (s.mux.abandon c, .dropped)).Consistent := by
  cases c with
  | running r => exact h.settle caller (by nofun) (by nofun) (by nofun) (by nofun) (by simp)
  | _ => exact h.set_quiet caller (by nofun) (by nofun) (by nofun)

end SharedSetup

namespace Client

variable {s t u : Client} {i : Nat} {c : Call} {link : SharedLink} {phase : Phase}

def part (link : SharedLink) (s : Client) : SharedSetup Unit :=
  { mux := s.bare link, callers := s.calls.map (Call.part link) }

def memo (link : SharedLink) (s : Client) : SetupMemo :=
  (s.bare link).setup.memo

/-- Every link with its calls is a shared setup that hangs together. -/
def Settled (s : Client) : Prop :=
  ∀ link, (s.part link).Consistent

lemma callers_part (call : s.calls[i]? = some c) :
    (s.part link).callers[i]? = some (c.part link) := by
  simp [part, call]

@[simp] lemma bare_setPhase (i : Nat) (phase : Phase) (link : SharedLink) (s : Client) :
    (s.setPhase i phase).bare link = s.bare link := by
  cases link <;> rfl

lemma part_setPhase (calls : u.calls = s.calls) (call : s.calls[i]? = some c) :
    (u.setPhase i phase).part link =
      { mux := u.bare link,
        callers := (s.part link).callers.set i (Call.part link { c with phase }) } := by
  have hcallers : (u.setPhase i phase).calls.map (Call.part link) =
      (s.part link).callers.set i (Call.part link { c with phase }) := by
    refine List.ext_getElem? fun k => ?_
    by_cases hk : i = k
    · subst hk
      obtain ⟨hlength, rfl⟩ := List.getElem?_eq_some_iff.1 call
      simp [setPhase, part, calls, hlength]
    · simp [setPhase, part, calls, hk]
  rw [part, bare_setPhase, hcallers]

/-- A call goes from one part to another that are no attempts, and the setup stays as it is. -/
lemma Settled.quiet (h : s.Settled) (calls : u.calls = s.calls)
    (setup : (u.bare link).setup = (s.bare link).setup) (call : s.calls[i]? = some c)
    (before : Once.IsQuiet (c.part link)) (after : Call.part link { c with phase } = .dropped ∨
      Call.part link { c with phase } = c.part link) :
    ((u.setPhase i phase).part link).Consistent := by
  rw [part_setPhase calls call]
  obtain hdropped | hsame := after
  · rw [hdropped]
    have hquiet :=
      (h link).set_quiet (callers_part call) before (c := .dropped) (by nofun) (by nofun)
    exact hquiet.keep setup (fun k r => Iff.rfl) fun k r hk => hquiet.waiting hk
  · have hcall : (s.part link).callers[i]? = some (c.part link) := callers_part call
    obtain ⟨hlength, hcaller⟩ := List.getElem?_eq_some_iff.1 hcall
    rw [hsame, ← hcaller, List.set_getElem_self hlength]
    exact (h link).keep setup (fun k r => Iff.rfl) fun k r hk => (h link).waiting hk

/-- What joining does to a link is behind it. -/
lemma bare_join (request : Request) (s : Client) (link : SharedLink) :
    (s.join request).1.calls = s.calls ∧ (s.join request).1.bare link = s.bare link := by
  cases request with
  | subscribeEvents =>
    cases hclosed : s.events.closed <;> simp only [join, Multiplexer.subscribe, hclosed]
    · cases link <;> simp [bare, Multiplexer.bare, hclosed]
    · simp
  | subscribeTwin =>
    cases hclosed : s.twinUpdates.closed <;> simp only [join, Multiplexer.subscribe, hclosed]
    · cases link <;> simp [bare, Multiplexer.bare, hclosed]
    · simp
  | register name handler =>
    cases hclosed : s.methods.closed <;> simp only [join, Multiplexer.handle, hclosed]
    · cases s.methods.dispatch.find? name
      · cases link <;> simp [bare, Multiplexer.bare, hclosed]
      · simp
    · simp
  | _ => exact ⟨rfl, rfl⟩

/-- Who follows a caller has its part, or none any more. -/
lemma follow_part (id : Nat) (request : Request) (s : Client) (caller : Once) :
    ∃ (u : Client) (phase : Phase), u.calls = s.calls ∧ (∀ link, u.bare link = s.bare link) ∧
      s.follow id request caller = u.setPhase id phase ∧
      ((∃ outcome reply, caller = .returned outcome ∧ phase = .returned reply) ∨
        phase = .settingUp caller) := by
  cases caller with
  | returned outcome =>
    cases outcome with
    | ok _ =>
      exact ⟨_, _, (bare_join request s .events).1, fun link => (bare_join request s link).2, rfl,
        .inl ⟨_, _, rfl, rfl⟩⟩
    | error e => exact ⟨s, _, rfl, fun _ => rfl, rfl, .inl ⟨_, _, rfl, rfl⟩⟩
  | _ => exact ⟨s, _, rfl, fun _ => rfl, rfl, .inr rfl⟩

lemma bare_follow (id : Nat) (request : Request) (s : Client) (caller : Once) (link : SharedLink) :
    (s.follow id request caller).bare link = s.bare link := by
  obtain ⟨u, phase, -, hbare, heq, -⟩ := follow_part id request s caller
  rw [heq, bare_setPhase, hbare]

/-- A call that was at no attempt turns to something else, and nothing becomes of any setup. -/
lemma Settled.turn (h : s.Settled) (calls : u.calls = s.calls)
    (setup : ∀ link, (u.bare link).setup = (s.bare link).setup) (call : s.calls[i]? = some c)
    (quiet : Quiet c phase) : (u.setPhase i phase).Settled :=
  fun link => h.quiet calls (setup link) call (quiet.before link) (quiet.after link)

/-- A call moves within the setup of its link; others are not concerned. -/
lemma Settled.reach {m : Multiplexer Unit} (h : s.Settled) (needs : c.request.link? = some link)
    (call : s.calls[i]? = some c) (reaches : s.Reaches link m u) (calls : t.calls = s.calls)
    (bare : ∀ link, t.bare link = u.bare link)
    (own : ((s.part link).put i (m, Call.part link { c with phase })).Consistent) :
    (t.setPhase i phase).Settled := by
  intro other
  by_cases hother : other = link
  · subst hother
    rw [part_setPhase calls call, bare, reaches.bare]
    exact own
  · have hne (phase : Phase) : Call.part other { c with phase } = .dropped :=
      Call.part_of_ne (by simpa [needs] using Ne.symm hother)
    refine h.quiet calls (by rw [bare, reaches.others other hother]) call ?_ (.inl (hne phase))
    simp [hne c.phase, Once.IsQuiet]

lemma Settled.follow {m : Multiplexer Unit} {caller : Once} (h : s.Settled)
    (needs : c.request.link? = some link) (call : s.calls[i]? = some c)
    (reaches : s.Reaches link m u) (own : ((s.part link).put i (m, caller)).Consistent) :
    (u.follow i c.request caller).Settled := by
  obtain ⟨t, phase, hcalls, hbare, heq, hphase⟩ := follow_part i c.request u caller
  rw [heq]
  refine h.reach needs call reaches (hcalls.trans reaches.calls) hbare ?_
  obtain ⟨outcome, reply, rfl, rfl⟩ | rfl := hphase
  · have hover : Call.part link { c with phase := .returned reply } = .dropped :=
      Call.part_of_isOver rfl link c
    have hlength : i < (s.part link).callers.length :=
      (List.getElem?_eq_some_iff.1 (callers_part call)).1
    have hreturned : ((s.part link).put i (m, .returned outcome)).callers[i]? =
        some (.returned outcome) := by
      simp [SharedSetup.put, hlength]
    have hdropped := own.set_quiet (c := .dropped) hreturned (by nofun) (by nofun) (by nofun)
    simpa [hover, SharedSetup.put] using hdropped
  · have hpart : Call.part link { c with phase := .settingUp caller } = caller := by
      simp [Call.part, needs]
    rwa [hpart]

lemma setup_closeLinks (s : Client) (link : SharedLink) :
    (s.closeLinks.bare link).setup = (s.bare link).setup := by
  cases link <;> simp only [closeLinks, bare, Multiplexer.bare, Multiplexer.close] <;>
    split <;> rfl

lemma Settled.callStep {event : ClientEvent} (h : s.Settled) (call : s.calls[i]? = some c)
    (step : s.CallStep i c event t) : t.Settled := by
  have hsets {link : SharedLink} {caller : Once} (needs : c.request.link? = some link)
      (sets : c.phase = .settingUp caller) : (s.part link).callers[i]? = some caller := by
    rw [callers_part call, Call.part, if_pos needs, sets]
  cases step with
  | idle => exact h
  | turns quiet => exact h.turn rfl (fun _ => rfl) call quiet
  | letsGo quiet => exact h.turn rfl (fun link => by cases link <;> rfl) call quiet
  | connected phase =>
    have hquiet : Quiet c (.returned (.ok .done)) :=
      quiet_of_phase (by simp [phase]) fun link => by simp [Call.part]
    exact h.turn rfl (fun link => by cases link <;> rfl) call hquiet
  | closes _ phase =>
    have hquiet : Quiet c .closing :=
      quiet_of_phase (by simp [phase]) fun link => by simp [Call.part]
    refine h.turn rfl (fun link => (setup_closeLinks _ link).trans ?_) call hquiet
    cases link <;> rfl
  | @resumes u link m caller caller' needs sets resume reaches =>
    have hmoved := (h link).move (SharedSetup.resume_move (hsets needs sets))
    have hput : (s.part link).resume i caller = (s.part link).put i (m, caller') := by
      simp only [SharedSetup.resume, part, resume, Option.map_some, Option.getD_some]
    exact h.follow needs call reaches (hput ▸ hmoved)
  | @settles u link m run outcome caller needs sets finish reaches =>
    have hmove : (s.part link).Move (.finish i (outcome.map fun _ => ())) _ :=
      .finish (hsets needs sets)
    exact h.follow needs call reaches (finish ▸ (h link).move hmove)
  | @leaves _ u link caller phase needs sets reaches quits =>
    have habandoned := (h link).abandon (hsets needs sets)
    refine h.reach needs call reaches reaches.calls (fun _ => rfl) ?_
    rwa [Call.part_of_isOver quits]

/-- What happens behind the links is no matter of their setups. -/
lemma Settled.behind (h : s.Settled) (calls : t.calls = s.calls)
    (bare : ∀ link, t.bare link = s.bare link) : t.Settled := by
  intro link
  have hpart : t.part link = s.part link := by rw [part, part, calls, bare]
  rw [hpart]
  exact h link

/-- A call begins: it will look at its link, if it needs one. -/
lemma Settled.start (h : s.Settled) (request : Request) (token : Token) :
    (s.start request token).Settled := by
  intro link
  have happend (phase : Phase) (begins : phase = .awaitingReady ∨ phase = .awaitingLock)
      (calls : (s.start request token).calls = s.calls ++ [⟨request, token, phase⟩]) :
      ((s.start request token).part link).Consistent := by
    have hbare : (s.start request token).bare link = s.bare link := by
      unfold Client.start
      cases link <;> split <;> rfl
    have hpart : Call.part link ⟨request, token, phase⟩ = .entering ∨
        Call.part link ⟨request, token, phase⟩ = .dropped := by
      unfold Call.part
      obtain rfl | rfl := begins <;> split <;> simp
    have hconcat : (s.start request token).part link =
        { s.part link with
          callers := (s.part link).callers ++ [Call.part link ⟨request, token, phase⟩] } := by
      rw [part, hbare, calls, List.map_append]
      rfl
    rw [hconcat]
    obtain hpart | hpart := hpart <;> rw [hpart] <;> exact (h link).concat (by nofun) (by nofun)
  cases data : request.isData with
  | true => exact happend .awaitingReady (.inl rfl) (by simp [Client.start, data])
  | false => exact happend .awaitingLock (.inr rfl) (by simp [Client.start, data])

theorem Settled.step (h : s.Settled) (event : ClientEvent) : (s.step event).Settled := by
  have hcall {event : ClientEvent} {i : Nat} (own : event.call? = some i) :
      (s.step event).Settled := by
    cases call : s.calls[i]? with
    | none => rwa [step_of_absent call own]
    | some c => exact h.callStep call (Client.callStep call own)
  cases event with
  | start request token => exact h.start request token
  | resume i => exact hcall rfl
  | answer i outcome => exact hcall rfl
  | cancel i => exact hcall rfl
  | fire token => exact h.behind rfl fun link => by cases link <;> rfl
  | drop i => exact hcall rfl
  | inboundEvent event => exact h.behind rfl fun link => by cases link <;> rfl
  | inboundTwin payload =>
    simp only [Client.step, inboundTwin]
    split
    · exact h.behind rfl fun link => by cases link <;> rfl
    · exact h

/-- A call is at an attempt to set a link up. -/
def SetsUp (link : SharedLink) (run : Nat) (s : Client) (i : Nat) : Prop :=
  ∃ c, s.calls[i]? = some c ∧ c.request.link? = some link ∧ c.phase = .settingUp (.running run)

lemma setsUp_iff {run : Nat} : s.SetsUp link run i ↔
    (s.part link).callers[i]? = some (.running run) := by
  constructor
  · rintro ⟨c, call, needs, phase⟩
    rw [callers_part call, Call.part, if_pos needs, phase]
  · intro h
    rw [part, List.getElem?_map, Option.map_eq_some_iff] at h
    obtain ⟨c, call, hpart⟩ := h
    unfold Call.part at hpart
    split at hpart
    next needs =>
      cases phase : c.phase with
      | settingUp caller =>
        simp only [phase] at hpart
        exact ⟨c, call, needs, by rw [phase, hpart]⟩
      | _ => simp [phase] at hpart
    next => cases hpart

/-- The memo of a link names an attempt exactly while one call, and no other, is at it. -/
theorem Settled.running_iff (h : s.Settled) (link : SharedLink) (run : Nat) :
    s.memo link = .running run ↔ ∃! i, s.SetsUp link run i := by
  simp only [setsUp_iff]
  constructor
  · intro hmemo
    obtain ⟨-, i, hi⟩ := (h link).attempt hmemo
    exact ⟨i, hi, fun j hj => (h link).unique hj hi⟩
  · rintro ⟨i, hi, -⟩
    exact (h link).runner hi

end Client
end DeviceHub
