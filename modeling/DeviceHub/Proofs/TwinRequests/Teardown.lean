import DeviceHub.Proofs.TwinRequests.Correlation

/-!
`twin_request` when its connection ends.  `run_event_loop` first fails whatever waits and only then
refuses packets.  A request that is entered between the two is handed over all the same, and nobody
answers it; whatever was entered before or after comes to its return.
-/
namespace DeviceHub.Mqtt.Transport

variable {δ : Type} {s t : Transport δ} {event : TransportEvent δ}
  {events : List (TransportEvent δ)} {i n : Nat} {c : Call δ} {id : String} {loop : Option Loop}

/-- A call was entered over a connection whose loop was that far. -/
def EnteredOver (events : List (TransportEvent δ)) (i n : Nat) (loop : Option Loop) : Prop :=
  ∃ before id, before ++ [.resume i id] <+: events ∧
    (run before).phase? i = some (.entering n) ∧ (run before).loop? n = loop

lemma EnteredOver.entered (h : EnteredOver events i n loop) : ∃ id, Entered events i id := by
  obtain ⟨before, id, hpre, hphase, -⟩ := h
  exact ⟨id, before, n, hpre, hphase⟩

lemma enteredOver_append_iff : EnteredOver (events ++ [event]) i n loop ↔
    EnteredOver events i n loop ∨ (∃ id, event = .resume i id) ∧
      (run events).phase? i = some (.entering n) ∧ (run events).loop? n = loop := by
  constructor
  · rintro ⟨before, id, hpre, hphase, hloop⟩
    obtain heq | hpre := List.prefix_concat_iff.1 hpre
    · obtain ⟨rfl, hlast⟩ := List.append_inj' heq rfl
      cases hlast
      exact .inr ⟨⟨id, rfl⟩, hphase, hloop⟩
    · exact .inl ⟨before, id, hpre, hphase, hloop⟩
  · rintro (⟨before, id, hpre, hphase, hloop⟩ | ⟨⟨id, rfl⟩, hphase, hloop⟩)
    · exact ⟨before, id, hpre.trans (List.prefix_append _ _), hphase, hloop⟩
    · exact ⟨events, id, List.prefix_refl _, hphase, hloop⟩

/-- The loop of a connection is not past failing the requests yet, or the request of a call is still
to be handed over to one that is at its end. -/
def Covered (s : Transport δ) (i n : Nat) : Prop :=
  s.AtWork n ∨ s.loop? n = some .finished ∧ ∃ id, s.phase? i = some (.asking n id)

/-- Every entry that was not made while the loop was between the two is covered. -/
def Tended (events : List (TransportEvent δ)) : Prop :=
  ∀ id i n loop, (run events).pending.find? id = some i → EnteredOver events i n loop →
    loop ≠ some .drained → (run events).Covered i n

lemma step_entering_loop? (h : s.phase? i = some (.entering n)) (id : String) (m : Nat) :
    (s.step (.resume i id)).loop? m = s.loop? m := by
  obtain ⟨c, hc, hphase⟩ := phase?_eq_some.1 h
  simp [step, resume?, hc, hphase, setPhase, loop?]

/-- A loop at its end takes nothing. -/
lemma step_asking_finished (hc : s.calls[i]? = some c) (asks : c.phase = .asking n id)
    (finished : s.loop? n = some .finished) (id' : String) :
    (s.step (.resume i id')).phase? i =
      some (.returned (.error (.transport Connection.gone))) := by
  obtain ⟨d, hd, hloop⟩ := Option.map_eq_some_iff.1 finished
  simp [step, resume?, hc, asks, hand?, hd, Connection.takes?, hloop, settle, finish, setPhase,
    phase?]

lemma KeepsLoops.atWork (h : s.KeepsLoops t) (atWork : s.AtWork n) : t.AtWork n := by
  obtain heq | ⟨-, h⟩ := h n
  · unfold AtWork
    rwa [heq]
  · exact h

lemma KeepsLoops.finished (h : s.KeepsLoops t) (finished : s.loop? n = some .finished) :
    t.loop? n = some .finished := by
  obtain heq | ⟨hwork, -⟩ := h n
  · rw [heq, finished]
  · exact absurd finished hwork.2

lemma find?_of_find?_erase {pending : KeyMap Nat} (h : pending.Sorted) {id' : String}
    (entry : (pending.erase id').find? id = some i) : pending.find? id = some i := by
  rw [h.find?_erase, Option.ite_none_left_eq_some] at entry
  exact entry.2

lemma Turn.entry {j : Nat} {phase : Phase} {pending : KeyMap Nat} (h : s.pending.Sorted)
    (call : s.calls[j]? = some c) (turn : s.Turn j c event phase pending)
    (entry : pending.find? id = some i) :
    s.pending.find? id = some i ∨ event = .resume i id ∧ ∃ n, s.phase? i = some (.entering n) := by
  cases turn.edits with
  | keeps => exact .inl entry
  | @inserts n id' _ enters =>
    by_cases hid : id = id'
    · subst hid
      rw [KeyMap.find?_insert_self] at entry
      cases entry
      exact .inr ⟨rfl, n, phase?_eq_some.2 ⟨c, call, enters⟩⟩
    · rw [KeyMap.find?_insert_of_ne hid] at entry
      exact .inl entry
  | erases => exact .inl (find?_of_find?_erase h entry)

/-- An entry that is there now was there before, unless it has just been made. -/
lemma Move.entry (h : s.pending.Sorted) (m : s.Move event t)
    (entry : t.pending.find? id = some i) :
    s.pending.find? id = some i ∨ event = .resume i id ∧ ∃ n, s.phase? i = some (.entering n) := by
  cases m with
  | still _ pending | finish _ _ pending => exact .inl (pending ▸ entry)
  | start request => exact .inl entry
  | turn call turn => exact turn.entry h call entry
  | complete _ _ _ pending => exact .inl (find?_of_find?_erase h (pending ▸ entry))
  | fail _ _ pending =>
    rw [pending] at entry
    cases entry

lemma Turn.asking {phase : Phase} {pending : KeyMap Nat} (turn : s.Turn i c event phase pending)
    (asks : c.phase = .asking n id) (finished : s.loop? n = some .finished) :
    phase.id? = none := by
  cases turn with
  | plain _ after => exact after
  | approach _ _ after => exact after
  | enter enters =>
    rw [asks] at enters
    cases enters
  | take asks' taken =>
    rw [asks] at asks'
    cases asks'
    exact absurd finished taken
  | refuse | answer | lose | leave => rfl

lemma Move.asking (m : s.Move event t) (leads : t.Leads id i) {id' : String}
    (asks : s.phase? i = some (.asking n id')) (finished : s.loop? n = some .finished) :
    ∃ id, t.phase? i = some (.asking n id) := by
  obtain ⟨c', hc', hid, -⟩ := leads
  obtain ⟨c, hc, hasks⟩ := phase?_eq_some.1 asks
  have hsame {c' : Call δ} (hc' : t.calls[i]? = some c') (hphase : c'.phase = c.phase) :
      ∃ id, t.phase? i = some (.asking n id) :=
    ⟨id', phase?_eq_some.2 ⟨c', hc', hphase.trans hasks⟩⟩
  cases m.fate_of_call hc hc' with
  | turned turn => exact absurd hid (by simp [turn.asking hasks finished])
  | same => exact hsame hc' rfl
  | answered => exact hsame hc' rfl
  | failed => exact hsame hc' rfl

lemma Move.covered (m : s.Move event t) (entry : t.pending.find? id = some i)
    (leads : t.Leads id i) (covered : s.Covered i n) : t.Covered i n := by
  have hkeep (loops : s.KeepsLoops t) : t.Covered i n := by
    obtain hwork | ⟨hfinished, id', hasks⟩ := covered
    · exact .inl (loops.atWork hwork)
    · exact .inr ⟨loops.finished hfinished, m.asking leads hasks hfinished⟩
  cases m with
  | still _ _ loops => exact hkeep loops
  | start request => exact hkeep (keepsLoops_of_eq rfl)
  | turn _ _ _ loops => exact hkeep loops
  | complete _ _ _ _ loops => exact hkeep loops
  | fail _ _ pending =>
    rw [pending] at entry
    cases entry
  | @finish n' _ drained calls pending loop others =>
    have hne : n ≠ n' := by
      rintro rfl
      obtain hwork | ⟨hfinished, -⟩ := covered
      · exact hwork.1 drained
      · rw [hfinished] at drained
        cases drained
    unfold Covered AtWork phase?
    rw [others n hne, calls]
    exact covered

theorem run_tended (events : List (TransportEvent δ)) : Tended events := by
  induction events using List.reverseRecOn with
  | nil =>
    intro id i n loop entry
    cases entry
  | append_singleton events event ih =>
    intro id i n loop entry entered hloop
    have hsound := run_sound events
    have m := step_move (run events) event
    have leads := (run_sound (events ++ [event])).leads id i entry
    rw [run_append] at entry leads ⊢
    obtain entered | ⟨⟨id', rfl⟩, hphase, hover⟩ := enteredOver_append_iff.1 entered
    · obtain hentry | ⟨-, n', hphase⟩ := m.entry hsound.sorted entry
      · exact m.covered entry leads (ih id i n loop hentry entered hloop)
      · obtain ⟨id', hentered⟩ := entered.entered
        exact absurd hphase hentered.not_entering
    · -- it has just been entered
      by_cases hfinished : (run events).loop? n = some .finished
      · exact .inr ⟨by rw [step_entering_loop? hphase, hfinished], id', step_entering hphase id'⟩
      · left
        unfold AtWork
        rw [step_entering_loop? hphase]
        exact ⟨hover ▸ hloop, hfinished⟩

/-- A response that is an error tells why the connection was left. -/
lemma response?_error {e : HubError} (h : (run events).response? i = some (.error e)) :
    ∃ reason, e = .transport reason := by
  induction events using List.reverseRecOn with
  | nil => cases h
  | append_singleton events event ih =>
    rw [run_append] at h
    obtain ⟨c', hc', hr⟩ := Option.bind_eq_some_iff.1 h
    obtain ⟨request, -, -, rfl⟩ | ⟨c, hc, fate⟩ := (step_move (run events) event).fate hc'
    · cases hr
    · have hsame (hresponse : c.response = some (.error e)) : ∃ reason, e = .transport reason :=
        ih (by rw [response?, hc]; exact hresponse)
      cases fate with
      | same => exact hsame hr
      | turned => exact hsame hr
      | answered => cases hr
      | failed =>
        cases hr
        exact ⟨_, rfl⟩

/-- Who has lost its entry waits no longer. -/
lemma step_lost (hc : s.calls[i]? = some c) (waits : c.phase = .awaiting id)
    (unanswered : c.response = none) (lost : s.pending.find? id ≠ some i) (id' : String) :
    (s.step (.resume i id')).phase? i =
      some (.returned (.error (.transport "connection closed before twin response"))) := by
  simp [step, resume?, hc, waits, respond?, unanswered, lost, settle, finish, setPhase, phase?]

/-- When the loop of a connection is at its end, a request about the twin that has still to be
handed over is refused, and one that was handed over comes to its return: with what came in for it,
or with an error.  Only a request that was entered after the others had failed and before the end
does not. -/
theorem returned_after_teardown (finished : (run events).loop? n = some .finished)
    (hc : (run events).calls[i]? = some c) (entered : EnteredOver events i n loop)
    (timely : loop ≠ some .drained) :
    (∀ id id', c.phase = .asking n id → (run (events ++ [.resume i id'])).phase? i =
      some (.returned (.error (.transport Connection.gone)))) ∧
    ∀ id, c.phase = .awaiting id → ∃ outcome,
      ((∃ r, Received events i r ∧ outcome = c.request.answer r) ∨
        ∃ reason, outcome = .error (.transport reason)) ∧
      ∀ id', (run (events ++ [.resume i id'])).phase? i = some (.returned outcome) := by
  refine ⟨fun id id' asks => ?_, fun id waits => ?_⟩
  · rw [run_append]
    exact step_asking_finished hc asks finished id'
  · simp only [run_append]
    cases hr : c.response with
    | some response =>
      have hresponse : (run events).response? i = some response := by rw [response?, hc]; exact hr
      refine ⟨response.bind c.request.answer, ?_, step_awaiting hc waits hr⟩
      cases response with
      | ok r => exact .inl ⟨r, received_of_response hresponse, rfl⟩
      | error e =>
        obtain ⟨reason, rfl⟩ := response?_error hresponse
        exact .inr ⟨reason, rfl⟩
    | none =>
      refine ⟨_, .inr ⟨_, rfl⟩, step_lost hc waits hr fun entry => ?_⟩
      -- what still has its entry is covered, but neither way is left
      obtain hwork | ⟨-, id', hasks⟩ := run_tended events id i n loop entry entered timely
      · exact hwork.2 finished
      · rw [phase?_iff_of_call hc, waits] at hasks
        cases hasks

def lostLater : List (TransportEvent Unit) :=
  comingUp ++ [.resume 1 "a", .resume 1 "", .fail 0 "broken", .unwind 0, .unwind 0]

theorem returned_after_teardown_of_lost :
    (run lostLater).loop? 0 = some .finished ∧ EnteredOver lostLater 1 0 (some .running) ∧
      some Loop.running ≠ some .drained ∧
      ∃ c, (run lostLater).calls[1]? = some c ∧ c.phase = .awaiting "a" ∧ ∃ outcome,
        ((∃ r, Received lostLater 1 r ∧ outcome = c.request.answer r) ∨
          ∃ reason, outcome = .error (.transport reason)) ∧
        ∀ id', (run (lostLater ++ [.resume 1 id'])).phase? 1 = some (.returned outcome) := by
  have finished : (run lostLater).loop? 0 = some .finished := rfl
  have entered : EnteredOver lostLater 1 0 (some .running) :=
    ⟨comingUp, "a", ⟨_, rfl⟩, rfl, rfl⟩
  have timely : some Loop.running ≠ some .drained := by decide
  exact ⟨finished, entered, timely, _, rfl, rfl,
    (returned_after_teardown finished rfl entered timely).2 "a" rfl⟩

/-- The connection is lost and what waits is failed, then the request is entered and handed over,
and then the loop comes to its end. -/
def lostBefore : List (TransportEvent Unit) :=
  comingUp ++ [.fail 0 "broken", .unwind 0, .resume 1 "a", .resume 1 "", .unwind 0]

/-- The loop is at its end, and the request waits.  It waits for ever: whatever happens, nothing is
changed any more but by a new request or by its caller's going away. -/
theorem waits_after_teardown :
    (run lostBefore).loop? 0 = some .finished ∧
      (run lostBefore).phase? 1 = some (.awaiting "a") ∧ (run lostBefore).response? 1 = none ∧
      ∀ later, (∀ event ∈ later, (∀ request, event ≠ .start request) ∧ event ≠ .drop 1) →
        run (lostBefore ++ later) = run lostBefore := by
  refine ⟨rfl, rfl, rfl, fun later => ?_⟩
  have hstep (event : TransportEvent Unit) (hstart : ∀ request, event ≠ .start request)
      (hdrop : event ≠ .drop 1) : (run lostBefore).step event = run lostBefore := by
    cases event with
    | start request => exact absurd rfl (hstart request)
    | resume i _ | timeout i => obtain _ | _ | i := i <;> rfl
    | drop i =>
      obtain _ | _ | i := i
      · rfl
      · exact absurd rfl hdrop
      · rfl
    | report n _ | stop n | unwind n | reply n => cases n <;> rfl
    | fail n _ | transmit n =>
      obtain _ | n := n
      · rfl
      · have hlength : (run lostBefore).connections.length = 1 := rfl
        have hsame (change : Connection → Connection) :
            (run lostBefore).connections.modify (n + 1) change = (run lostBefore).connections :=
          List.modify_eq_self (by omega)
        exact congrArg (fun connections => { run lostBefore with connections }) (hsame _)
  induction later using List.reverseRecOn with
  | nil => simp
  | append_singleton later event ih =>
    intro hlater
    have hevent := hlater event (by simp)
    rw [← List.append_assoc, run_append, ih fun event h => hlater event (by simp [h]),
      hstep event hevent.1 hevent.2]

end DeviceHub.Mqtt.Transport
