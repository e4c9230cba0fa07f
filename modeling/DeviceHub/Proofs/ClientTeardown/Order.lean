import DeviceHub.Proofs.ClientTeardown

/-!
The end of an `EventHubClient`.  Whatever is called and however the broker answers, the record of
what was closed is told by how far `dial` is, and from the first call of `close` on by that call.
-/
namespace DeviceHub.EventHub.Client

variable {s : Client} {record : List ClosingStep}

/-- Nobody has been asked to close anything, and nobody is about to be. -/
structure Early (s : Client) (record : List ClosingStep) : Prop where
  quiet : s.Quiet
  record : record = []
  not_closed : s.phase ≠ .closed
  not_abandoning : ∀ e, s.phase ≠ .abandoning e

/-- There was no session, for a reason that `dial` returns: the connection is closed. -/
structure Abandoned (e : HubError) (s : Client) (record : List ClosingStep) : Prop where
  quiet : s.Quiet
  told : (s.phase = .abandoning e ∧ record = [.asked .connection]) ∨
    (s.phase = .failed e ∧
      ∃ outcome, record = [.asked .connection, .answered .connection outcome])

/-- The client is closed, and this close tells the record. -/
structure Closes (first : Nat) (s : Client) (record : List ClosingStep) : Prop where
  phase : s.phase = .closed
  told : ∃ a, s.calls[first]? = some a ∧ Tells a record
  others : ∀ call a, call ≠ first → s.calls[call]? = some a → a.Quiet

lemma Closes.step {first : Nat} (h : Closes first s record) (event : ClientEvent) :
    Closes first (s.step event) (record ++ s.closingSteps event) := by
  obtain ⟨a, ha, htells⟩ := h.told
  refine ⟨step_closed h.phase event, ⟨event.act s first a, getElem?_step ha event, ?_⟩, ?_⟩
  · by_cases hevent : event.call? = some first
    · exact htells.step ha hevent
    · have hsteps : s.closingSteps event = [] := by
        refine closingSteps_eq_nil (fun outcome _ => ?_) (fresh_quiet (by simp [h.phase])) ?_
        · simp [dialClosing?, dialRequest?, h.phase, step_closed h.phase]
        · intro call b hcall hb
          exact h.others call b (fun heq => hevent (heq ▸ hcall)) hb
      rw [act_of_call?_ne hevent, hsteps, List.append_nil]
      exact htells
  · intro call b hne hb
    obtain ⟨c, hc, rfl⟩ | ⟨-, hmem⟩ := getElem?_step_cases hb
    · exact (h.others call c hne hc).act s call event
    · exact fresh_quiet (by simp [h.phase]) b hmem

lemma Closes.run {first : Nat} (h : Closes first s record) (events : List ClientEvent) :
    Closes first (s.run events) (record ++ s.record events) := by
  induction events generalizing s record with
  | nil => simpa [Client.run, Client.record] using h
  | cons event events ih =>
    simpa [Client.run, Client.record] using ih (h.step event)

lemma Closes.dropped {first : Nat} (h : Closes first s record) (events : List ClientEvent)
    (hdropped : (s.run events).calls[first]? = some .dropped) :
    s.calls[first]? = some .dropped ∨ .drop first ∈ events := by
  induction events generalizing s record with
  | nil => exact .inl hdropped
  | cons event events ih =>
    obtain hstep | hmem := ih (h.step event) hdropped
    · obtain ⟨a, ha, htells⟩ := h.told
      have hact : event.act s first a = .dropped :=
        Option.some.inj ((getElem?_step ha event).symm.trans hstep)
      by_cases hevent : event.call? = some first
      · obtain rfl | rfl := htells.act_dropped hevent hact
        · exact .inl ha
        · exact .inr List.mem_cons_self
      · rw [act_of_call?_ne hevent] at hact
        subst hact
        exact .inl ha
    · exact .inr (List.mem_cons_of_mem _ hmem)

lemma Early.abandoned (h : Early s record) (hphase : s.phase = .openingSession) (e : HubError) :
    Abandoned e (s.step (.dialed (.error e))) (record ++ s.closingSteps (.dialed (.error e))) := by
  have hnext : (s.step (.dialed (.error e))).phase = .abandoning e := by
    simp [step, hphase, dialed?]
  refine ⟨h.quiet.step (by simp [fresh]), .inl ⟨hnext, ?_⟩⟩
  simp [h.record, closingSteps, dialClosing?, dialRequest?, hphase, hnext, ClosingStep.between,
    PeerRequest.closing?]

/-- The first close of a live client asks for the session to be closed. -/
lemma Early.closes (h : Early s record) (hphase : s.phase = .live) (token : Token) :
    Closes s.calls.length (s.step (.start .close token))
      (record ++ s.closingSteps (.start .close token)) := by
  have hcalls : (s.step (.start .close token)).calls = s.calls ++ [.closingSession] := by
    simp [step, start, hphase]
  have hcall : (s.step (.start .close token)).calls[s.calls.length]? = some .closingSession := by
    simp [hcalls]
  refine ⟨by simp [step, start, hphase], ⟨_, hcall, ?_⟩, fun call a hne ha => ?_⟩
  · rw [h.record, closingSteps, closing?, hcall]
    exact .session
  · obtain hlt | heq | hgt := Nat.lt_trichotomy call s.calls.length
    · rw [hcalls, List.getElem?_append_left hlt] at ha
      exact h.quiet call a ha
    · exact absurd heq hne
    · rw [hcalls, List.getElem?_eq_none (by simp; omega)] at ha
      cases ha

lemma Early.step (h : Early s record) (event : ClientEvent) :
    Early (s.step event) (record ++ s.closingSteps event) ∨
    (∃ e, event = .dialed (.error e) ∧ s.phase = .openingSession) ∨
    ∃ token, event = .start .close token ∧ s.phase = .live := by
  by_cases hlive : ∃ token, event = .start .close token ∧ s.phase = .live
  · exact .inr (.inr hlive)
  by_cases hlost : ∃ e, event = .dialed (.error e) ∧ s.phase = .openingSession
  · exact .inr (.inl hlost)
  have hclose : ∀ token, event = .start .close token → s.phase ≠ .live :=
    fun token hevent hphase => hlive ⟨token, hevent, hphase⟩
  have hfresh := fresh_quiet hclose
  -- closed and given up are reached by the two events set aside only
  have hphase : (s.step event).phase ≠ .closed ∧ ∀ e, (s.step event).phase ≠ .abandoning e := by
    cases event with
    | dialed outcome =>
      simp only [Client.step]
      cases hphase : s.phase with
      | dialing => cases outcome <;> simp [dialed?]
      | openingSession =>
        cases outcome with
        | ok answer => simp [dialed?]
        | error e => exact absurd ⟨e, rfl, hphase⟩ hlost
      | abandoning e => exact absurd hphase (h.not_abandoning e)
      | failed e => simp [dialed?]
      | live => simp [dialed?]
      | closed => exact absurd hphase h.not_closed
    | _ =>
      rw [step_phase (by simp) hclose]
      exact ⟨h.not_closed, h.not_abandoning⟩
  refine .inl ⟨h.quiet.step hfresh, ?_, hphase.1, hphase.2⟩
  rw [h.record, List.nil_append]
  refine closingSteps_eq_nil (fun outcome _ => ?_) hfresh fun call a _ ha => h.quiet call a ha
  have hno {t : Client} (habandoning : ∀ e, t.phase ≠ .abandoning e) :
      t.dialClosing? = none := by
    unfold dialClosing? dialRequest?
    split <;> first | rfl | exact absurd ‹_› (habandoning _)
  exact ⟨hno h.not_abandoning, hno hphase.2⟩

lemma Abandoned.step {e : HubError} (h : Abandoned e s record) (event : ClientEvent) :
    Abandoned e (s.step event) (record ++ s.closingSteps event) := by
  have hclose : ∀ token, event = .start .close token → s.phase ≠ .live := by
    intro token _
    obtain ⟨hphase, -⟩ | ⟨hphase, -⟩ := h.told <;> simp [hphase]
  have hfresh := fresh_quiet hclose
  refine ⟨h.quiet.step hfresh, ?_⟩
  by_cases hdialed : ∃ outcome, event = .dialed outcome
  · obtain ⟨outcome, rfl⟩ := hdialed
    -- the first answer ends the dialing, and those after it find it ended
    obtain ⟨hphase, hrecord⟩ | ⟨hphase, last, hrecord⟩ := h.told
    · have hnext : (s.step (.dialed outcome)).phase = .failed e := by
        simp [Client.step, hphase, dialed?]
      refine .inr ⟨hnext, outcome, ?_⟩
      simp [hrecord, closingSteps, dialClosing?, dialRequest?, hphase, hnext, ClosingStep.between,
        PeerRequest.closing?]
    · have hnext : (s.step (.dialed outcome)).phase = .failed e := by
        simp [Client.step, hphase, dialed?]
      refine .inr ⟨hnext, last, ?_⟩
      simp [hrecord, closingSteps, dialClosing?, dialRequest?, hphase, hnext]
  · have hne : ∀ outcome, event ≠ .dialed outcome := fun outcome heq => hdialed ⟨outcome, heq⟩
    have hsteps : s.closingSteps event = [] :=
      closingSteps_eq_nil (fun outcome heq => absurd heq (hne outcome)) hfresh
        fun call a _ ha => h.quiet call a ha
    rw [step_phase hne hclose, hsteps, List.append_nil]
    exact h.told

lemma Abandoned.run {e : HubError} (h : Abandoned e s record) (events : List ClientEvent) :
    Abandoned e (s.run events) (record ++ s.record events) := by
  induction events generalizing s record with
  | nil => simpa [Client.run, Client.record] using h
  | cons event events ih =>
    simpa [Client.run, Client.record] using ih (h.step event)

def dialing (hostname : String) : Client :=
  { hostname }

/-- The events after which `new_session` failed. -/
def SessionFailed (hostname : String) (events : List ClientEvent) (e : HubError) : Prop :=
  ∃ before after, events = before ++ .dialed (.error e) :: after ∧
    ((dialing hostname).run before).phase = .openingSession

/-- A call of `close` on a client that was dialed, by number. -/
def CloseCall (hostname : String) (events : List ClientEvent) (call : Nat) : Prop :=
  ∃ before token after, events = before ++ .start .close token :: after ∧
    (((dialing hostname).run before).phase = .live ∨
      ((dialing hostname).run before).phase = .closed) ∧
    call = ((dialing hostname).run before).calls.length

/-- The first such call. -/
def FirstClose (hostname : String) (events : List ClientEvent) (call : Nat) : Prop :=
  ∃ before token after, events = before ++ .start .close token :: after ∧
    ((dialing hostname).run before).phase = .live ∧
    call = ((dialing hostname).run before).calls.length

variable {hostname : String} {events : List ClientEvent}

lemma SessionFailed.append {e : HubError} (h : SessionFailed hostname events e)
    (more : List ClientEvent) : SessionFailed hostname (events ++ more) e := by
  obtain ⟨before, after, rfl, hphase⟩ := h
  exact ⟨before, after ++ more, by simp, hphase⟩

lemma FirstClose.append {call : Nat} (h : FirstClose hostname events call)
    (more : List ClientEvent) : FirstClose hostname (events ++ more) call := by
  obtain ⟨before, token, after, rfl, hphase, hcall⟩ := h
  exact ⟨before, token, after ++ more, by simp, hphase, hcall⟩

lemma early_dialing (hostname : String) : Early (dialing hostname) [] :=
  ⟨fun _ _ h => by simp [dialing] at h, rfl, by simp [dialing], by simp [dialing]⟩

/-- How far a client has come: its connection was given up, or a first close tells the record, or
nothing was asked to be closed. -/
lemma course (hostname : String) (events : List ClientEvent) :
    let s := (dialing hostname).run events
    let record := (dialing hostname).record events
    Early s record ∨ (∃ e, SessionFailed hostname events e ∧ Abandoned e s record) ∨
      ∃ first, FirstClose hostname events first ∧ Closes first s record := by
  induction events using List.reverseRecOn with
  | nil => exact .inl (early_dialing hostname)
  | append_singleton events event ih =>
    have hrun : (dialing hostname).run (events ++ [event]) =
        ((dialing hostname).run events).step event := by simp [run]
    have hrecord : (dialing hostname).record (events ++ [event]) =
        (dialing hostname).record events ++ ((dialing hostname).run events).closingSteps event := by
      simp [record_append, Client.record]
    simp only [hrun, hrecord]
    obtain hearly | ⟨e, hfailed, habandoned⟩ | ⟨first, hfirst, hcloses⟩ := ih
    · obtain h | ⟨e, rfl, hphase⟩ | ⟨token, rfl, hphase⟩ := hearly.step event
      · exact .inl h
      · exact .inr (.inl ⟨e, ⟨events, [], rfl, hphase⟩, hearly.abandoned hphase e⟩)
      · exact .inr (.inr ⟨_, ⟨events, token, [], rfl, hphase, rfl⟩, hearly.closes hphase token⟩)
    · exact .inr (.inl ⟨e, hfailed.append _, habandoned.step event⟩)
    · exact .inr (.inr ⟨first, hfirst.append _, hcloses.step event⟩)

/-- Before a session is there, and while the client is live, nothing was asked to be closed. -/
lemma early_of_phase (h : ((dialing hostname).run events).phase = .openingSession ∨
      ((dialing hostname).run events).phase = .live) :
    Early ((dialing hostname).run events) ((dialing hostname).record events) := by
  obtain hearly | ⟨e, -, habandoned⟩ | ⟨first, -, hcloses⟩ := course hostname events
  · exact hearly
  · obtain ⟨hphase, -⟩ | ⟨hphase, -⟩ := habandoned.told <;> simp [hphase] at h
  · simp [hcloses.phase] at h

lemma SessionFailed.abandoned {e : HubError} (h : SessionFailed hostname events e) :
    Abandoned e ((dialing hostname).run events) ((dialing hostname).record events) := by
  obtain ⟨before, after, rfl, hphase⟩ := h
  have hbefore := early_of_phase (.inl hphase)
  have h := (hbefore.abandoned hphase e).run after
  simpa [run, record_append, Client.record] using h

lemma FirstClose.closes {first : Nat} (h : FirstClose hostname events first) :
    Closes first ((dialing hostname).run events) ((dialing hostname).record events) := by
  obtain ⟨before, token, after, rfl, hphase, rfl⟩ := h
  have hbefore := early_of_phase (.inr hphase)
  have h := (hbefore.closes hphase token).run after
  simpa [run, record_append, Client.record] using h

/-- A first close that is given up was dropped. -/
lemma FirstClose.drop_mem {first : Nat} (h : FirstClose hostname events first)
    (hdropped : ((dialing hostname).run events).calls[first]? = some .dropped) :
    .drop first ∈ events := by
  obtain ⟨before, token, after, rfl, hphase, rfl⟩ := h
  have hcloses := (early_of_phase (.inr hphase)).closes hphase token
  have hcall : (((dialing hostname).run before).step (.start .close token)).calls[
      ((dialing hostname).run before).calls.length]? = some .closingSession := by
    simp [step, start, hphase]
  obtain h | hmem := hcloses.dropped after (by simpa [run] using hdropped)
  · rw [hcall] at h
    cases h
  · simp [hmem]

lemma run_returned {call : Nat} {outcome : HubResult ClientReply}
    (h : s.calls[call]? = some (.returned outcome)) (events : List ClientEvent) :
    (s.run events).calls[call]? = some (.returned outcome) := by
  induction events generalizing s with
  | nil => exact h
  | cons event events ih =>
    have hstep := getElem?_step h event
    rw [Activity.act_returned] at hstep
    exact ih hstep

lemma run_closed (h : s.phase = .closed) (events : List ClientEvent) :
    (s.run events).phase = .closed := by
  induction events generalizing s with
  | nil => exact h
  | cons event events ih => exact ih (step_closed h event)

lemma CloseCall.closed {call : Nat} (h : CloseCall hostname events call) :
    ((dialing hostname).run events).phase = .closed := by
  obtain ⟨before, token, after, rfl, hphase, -⟩ := h
  have hstep : (((dialing hostname).run before).step (.start .close token)).phase = .closed := by
    obtain hphase | hphase := hphase <;> simp [step, start, hphase]
  simpa [run] using run_closed hstep after

/-- What a call comes to that begins after the client was closed. -/
lemma begins_closed (h : s.phase = .closed) (request : ClientRequest) (token : Token)
    (after : List ClientEvent) :
    ((s.step (.start request token)).run after).calls[s.calls.length]? =
      some (s.begun token request) ∧
    (request = .close ∧ s.begun token request = .returned (.ok .done) ∨
      request ≠ .close ∧ s.begun token request = .returned (.error .closed)) := by
  have hbegun : request = .close ∧ s.begun token request = .returned (.ok .done) ∨
      request ≠ .close ∧ s.begun token request = .returned (.error .closed) := by
    cases request <;> simp [begun, h]
  have hcall : (s.step (.start request token)).calls[s.calls.length]? =
      some (s.begun token request) := by simp [step, start_calls]
  refine ⟨?_, hbegun⟩
  obtain ⟨-, hreturned⟩ | ⟨-, hreturned⟩ := hbegun
  all_goals
    rw [hreturned] at hcall ⊢
    exact run_returned hcall after

/-- A client is closed for the first time once. -/
lemma FirstClose.eq {first other : Nat} (h : FirstClose hostname events first)
    (h' : FirstClose hostname events other) : first = other := by
  -- the later of two would close a closed client
  have hlater {before rest : List ClientEvent} {token : Token} {event : ClientEvent}
      (hlive : ((dialing hostname).run (before ++ event :: rest)).phase = .live)
      (hphase : ((dialing hostname).run before).phase = .live)
      (hevent : event = .start .close token) : False := by
    have hclosed : CloseCall hostname (before ++ event :: rest) _ :=
      ⟨before, token, rest, by rw [hevent], .inl hphase, rfl⟩
    rw [hclosed.closed] at hlive
    cases hlive
  obtain ⟨before, token, after, hevents, hphase, rfl⟩ := h
  obtain ⟨before', token', after', hevents', hphase', rfl⟩ := h'
  rw [hevents] at hevents'
  obtain ⟨rest, rfl, hrest⟩ | ⟨rest, rfl, hrest⟩ := List.append_eq_append_iff.1 hevents'
  · cases rest with
    | nil => rw [List.append_nil]
    | cons event rest => exact (hlater hphase' hphase (List.cons.inj hrest).1.symm).elim
  · cases rest with
    | nil => rw [List.append_nil]
    | cons event rest => exact (hlater hphase hphase' (List.cons.inj hrest).1.symm).elim

lemma CloseCall.existsUnique {call : Nat} (h : CloseCall hostname events call) :
    ∃! first, FirstClose hostname events first := by
  obtain hearly | ⟨e, -, habandoned⟩ | ⟨first, hfirst, -⟩ := course hostname events
  · exact absurd h.closed hearly.not_closed
  · obtain ⟨hphase, -⟩ | ⟨hphase, -⟩ := habandoned.told <;>
      cases hphase.symm.trans h.closed
  · exact ⟨first, hfirst, fun other hother => hother.eq hfirst⟩

lemma CloseCall.first_or_done {call : Nat} (h : CloseCall hostname events call) :
    FirstClose hostname events call ∨
      ((dialing hostname).run events).calls[call]? = some (.returned (.ok .done)) := by
  obtain ⟨before, token, after, rfl, hphase | hphase, rfl⟩ := h
  · exact .inl ⟨before, token, after, rfl, hphase, rfl⟩
  · obtain ⟨hcall, ⟨-, hbegun⟩ | ⟨hne, -⟩⟩ := begins_closed hphase .close token after
    · rw [hbegun] at hcall
      exact .inr (by simpa [run] using hcall)
    · exact absurd rfl hne

lemma first_of_closing (hostname : String) (events : List ClientEvent) {call part : Nat}
    (h : (((dialing hostname).run events).calls[call]?.bind (Activity.request? part)).bind
      PeerRequest.closing? ≠ none) : FirstClose hostname events call ∧ part = 0 := by
  cases hcall : ((dialing hostname).run events).calls[call]? with
  | none => simp [hcall] at h
  | some a =>
    rw [hcall, Option.bind_some] at h
    cases part with
    | succ part => exact absurd (a.not_closing_succ part) h
    | zero =>
      have hquiet : ¬a.Quiet := fun quiet => h quiet.closing?_eq_none
      obtain hearly | ⟨e, -, habandoned⟩ | ⟨first, hfirst, hcloses⟩ := course hostname events
      · exact absurd (hearly.quiet call a hcall) hquiet
      · exact absurd (habandoned.quiet call a hcall) hquiet
      · by_cases heq : call = first
        · exact ⟨heq ▸ hfirst, rfl⟩
        · exact absurd (hcloses.others call a heq hcall) hquiet

/-- What is asked to be closed by a close is the session and then the connection. -/
lemma Tells.asked_prefix {a : Activity} (h : Tells a record) :
    record.filterMap ClosingStep.asked? <+: [.session, .connection] := by
  cases h with
  | session => exact ⟨[.connection], rfl⟩
  | connection outcome => exact ⟨[], rfl⟩
  | returned outcome last => exact ⟨[], rfl⟩
  | sessionDropped => exact ⟨[.connection], rfl⟩
  | connectionDropped outcome => exact ⟨[], rfl⟩

/-- A close that returns has closed both, and tells what came of the connection. -/
lemma Tells.of_returned {outcome : HubResult ClientReply} (h : Tells (.returned outcome) record) :
    ∃ early last, record = [.asked .session, .answered .session early, .asked .connection,
      .answered .connection last] ∧ outcome = last.map fun _ => .done := by
  cases h with
  | returned early last => exact ⟨early, last, rfl, rfl⟩

/-- If opening the session fails, the connection is closed once, and the dialing comes to that
failure.  Otherwise the session and then the connection are closed, at most once each.  The first
close call has closed both when it returns, and it alone closes anything or returns an error.  What
begins after a close call has begun fails and asks the broker for nothing. -/
theorem closes_in_order (hostname : String) (events : List ClientEvent) :
    let s := (dialing hostname).run events
    let record := (dialing hostname).record events
    (∀ e, SessionFailed hostname events e →
      (s.phase = .abandoning e ∧ record = [.asked .connection]) ∨
      (s.phase = .failed e ∧
        ∃ outcome, record = [.asked .connection, .answered .connection outcome])) ∧
    ((∀ e, ¬SessionFailed hostname events e) →
      record.filterMap ClosingStep.asked? <+: [.session, .connection]) ∧
    (∀ first, FirstClose hostname events first → ∃ a, s.calls[first]? = some a ∧
      Tells a record ∧ (a = .dropped → .drop first ∈ events) ∧
      ∀ outcome, a = .returned outcome → ∃ early last,
        record = [.asked .session, .answered .session early, .asked .connection,
          .answered .connection last] ∧ outcome = last.map fun _ => .done) ∧
    (∀ call part, (s.calls[call]?.bind (Activity.request? part)).bind PeerRequest.closing? ≠ none →
      FirstClose hostname events call ∧ part = 0) ∧
    (∀ call, CloseCall hostname events call →
      (∃! first, FirstClose hostname events first) ∧ s.session = .error .closed ∧
      ∀ e, s.calls[call]? = some (.returned (.error e)) → FirstClose hostname events call) ∧
    ∀ before request token after close, events = before ++ .start request token :: after →
      CloseCall hostname before close → request ≠ .close →
      ∃ a, s.calls[((dialing hostname).run before).calls.length]? = some a ∧
        a = .returned (.error .closed) ∧ ∀ part, a.request? part = none := by
  intro s record
  refine ⟨fun e hfailed => hfailed.abandoned.told, fun hopened => ?_, fun first hfirst => ?_,
    fun call part => first_of_closing hostname events,
    fun call hclose => ⟨hclose.existsUnique, ?_, fun e herror => ?_⟩, ?_⟩
  · obtain hearly | ⟨e, hfailed, -⟩ | ⟨first, -, hcloses⟩ := course hostname events
    · rw [show record = [] from hearly.record]
      exact List.nil_prefix
    · exact absurd hfailed (hopened e)
    · obtain ⟨a, -, htells⟩ := hcloses.told
      exact htells.asked_prefix
  · obtain ⟨a, ha, htells⟩ := hfirst.closes.told
    refine ⟨a, ha, htells, fun hdropped => hfirst.drop_mem (hdropped ▸ ha), ?_⟩
    rintro outcome rfl
    exact htells.of_returned
  · have hphase : s.phase = .closed := hclose.closed
    simp [session, hphase]
  · obtain hfirst | hdone := hclose.first_or_done
    · exact hfirst
    · cases herror.symm.trans hdone
  · rintro before request token after close rfl hclose hrequest
    obtain ⟨hcall, ⟨heq, -⟩ | ⟨-, hbegun⟩⟩ := begins_closed hclose.closed request token after
    · exact absurd heq hrequest
    · rw [hbegun] at hcall
      exact ⟨_, by simpa [run, s] using hcall, rfl, fun part => rfl⟩

/-- A client whose session and connection both fail to close, with a second close and another call
meanwhile. -/
def failing : List ClientEvent :=
  [.dialed (.ok .done), .dialed (.ok .done), .start .close "first", .start .close "second",
    .start (.partitions "hub" "reply" "1") "third", .answer 0 0 (.error (.transport "session")),
    .answer 0 0 (.error (.transport "connection"))]

theorem closes_in_order_of_failing :
    ((dialing "host").run failing).calls[0]? =
      some (.returned (.error (.transport "connection"))) ∧
    (dialing "host").record failing = [.asked .session,
      .answered .session (.error (.transport "session")), .asked .connection,
      .answered .connection (.error (.transport "connection"))] ∧
    FirstClose "host" failing 0 ∧ ((dialing "host").run failing).session = .error .closed ∧
    ((dialing "host").run failing).calls[2]? = some (.returned (.error .closed)) ∧
    ∃ outcome, (dialing "host").record [.dialed (.ok .done), .dialed (.error .cancelled),
      .dialed (.ok .done)] = [.asked .connection, .answered .connection outcome] := by
  have hclose : CloseCall "host" failing 0 :=
    ⟨failing.take 2, "first", failing.drop 3, rfl, .inl rfl, rfl⟩
  have hclosed : CloseCall "host" (failing.take 4) 0 :=
    ⟨failing.take 2, "first", [.start .close "second"], rfl, .inl rfl, rfl⟩
  have hfailed : SessionFailed "host" [.dialed (.ok .done), .dialed (.error .cancelled),
      .dialed (.ok .done)] .cancelled :=
    ⟨[.dialed (.ok .done)], [.dialed (.ok .done)], rfl, rfl⟩
  obtain ⟨-, -, -, -, hcloses, hlater⟩ := closes_in_order "host" failing
  obtain ⟨-, hsession, hfirst⟩ := hcloses 0 hclose
  have hreturned : ((dialing "host").run failing).calls[0]? =
      some (.returned (.error (.transport "connection"))) := rfl
  obtain ⟨b, hb, rfl, -⟩ :=
    hlater (failing.take 4) (.partitions "hub" "reply" "1") "third" (failing.drop 5) 0 rfl hclosed
      (by simp)
  refine ⟨hreturned, rfl, hfirst _ hreturned, hsession, hb, ?_⟩
  obtain ⟨hphase, -⟩ | ⟨-, hrecord⟩ := (closes_in_order "host" [.dialed (.ok .done),
    .dialed (.error .cancelled), .dialed (.ok .done)]).1 .cancelled hfailed
  · cases hphase
  · exact hrecord

end DeviceHub.EventHub.Client
