import DeviceHub.Proofs.ClientRun.Course

/-!
The transitions of a `Client`.  However calls interleave, the transport is never at two connects,
nor at a connect and a close; a client gets ready once at most, by a connect that the transport
answered, and closed once at most, with the one close the transport is asked for; and a connect that
comes to nothing leaves the state alone and lets go of the lock.
-/
namespace DeviceHub.Client

variable {s t : Client} {event : ClientEvent} {i j : Nat} {c : Call}

lemma Coherent.enters_ready_iff (h : s.Coherent) :
    s.Enters event .ready ↔ ∃ i c answer, event = .answer i (.ok answer) ∧
      s.calls[i]? = some c ∧ c.request = .connect ∧ c.operation? = some .connect := by
  constructor
  · rintro ⟨hnow, hbefore⟩
    obtain hsame | ⟨i, c, answer, hevent, call, connects, -⟩ | ⟨-, -, -, -, -, -, -, closed, -⟩ :=
      (step_move s event).state_cases
    · exact absurd (hsame.symm.trans hnow) hbefore
    · exact ⟨i, c, answer, hevent, call, (h.connecting call connects).2.1,
        by simp [Call.operation?, connects]⟩
    · cases hnow.symm.trans closed
  · rintro ⟨i, c, answer, rfl, call, -, flies⟩
    obtain ⟨connects, -⟩ | ⟨-, ⟨⟩⟩ | ⟨-, ⟨⟩⟩ := h.operation?_cases call flies
    have unready := (h.connecting call connects).2.2
    refine ⟨?_, by simp [unready]⟩
    simp [step, answer?, call, connects, finish, Client.setPhase, unlock]

lemma Coherent.enters_closed_iff (h : s.Coherent) :
    s.Enters event .closed ↔ ∃ i, s.Invokes event i .close := by
  have hmove := step_move s event
  have hnext := h.move hmove
  simp only [Invokes, h.inFlight_close_iff, hnext.inFlight_close_iff]
  constructor
  · rintro ⟨hnow, hbefore⟩
    obtain hsame | ⟨-, -, -, -, -, -, ready, -⟩ | ⟨i, c, -, call, waits, -, -, -, call'⟩ :=
      hmove.state_cases
    · exact absurd (hsame.symm.trans hnow) hbefore
    · cases hnow.symm.trans ready
    · refine ⟨i, ⟨_, call', rfl⟩, ?_⟩
      rintro ⟨c', hc', closing⟩
      cases Option.some.inj (call.symm.trans hc')
      cases waits.symm.trans closing
  · rintro ⟨i, ⟨c', call', closing⟩, hbefore⟩
    refine ⟨(hnext.closing call' closing).2.2, ?_⟩
    obtain hsame | hreached := hmove.reached call'
    · exact absurd ⟨c', hsame, closing⟩ hbefore
    · rw [closing] at hreached
      cases hreached with
      | closes opened => exact opened
      | begins _ _ _ _ underway => cases underway

lemma state_of_failed_connect {before after : List ClientEvent} {own : ClientEvent}
    (call : (run (before ++ own :: after)).calls[i]? = some c) (asks : c.request = .connect)
    (fails : c.phase = .dropped ∨ ∃ e, c.phase = .returned (.error e)) (mine : own.call? = some i) :
    (run (before ++ [own])).state = (run before).state := by
  have hlater {c' : Call} (call' : (run (before ++ [own])).calls[i]? = some c') :
      c.request = c'.request ∧ (c'.phase.isOver = true → c.phase = c'.phase) := by
    obtain ⟨phase, hcall, hover⟩ := run_call (before ++ [own]) after call'
    rw [List.append_assoc] at hcall
    cases Option.some.inj (hcall.symm.trans call)
    exact ⟨rfl, hover⟩
  obtain hsame | ⟨k, c₀, answer, rfl, -, -, -, returned⟩ |
    ⟨k, c₀, rfl, -, -, closes, -, -, closing⟩ := (run_move before own).state_cases
  · exact hsame
  · cases mine
    have hphase := (hlater returned).2 rfl
    simp [hphase] at fails
  · cases mine
    have hrequest := (hlater closing).1
    cases (asks.symm.trans hrequest).trans closes

/-- At any moment of any run of calls: the state goes forward only; the client gets ready at most
once, and just when the transport has connected for a connect; it is at one connect at most; it is
asked to close at most once, just when the client gets closed, while it is at no connect, and is
not asked to connect from then on; and a connect that was dropped or has failed is neither at the
lock nor waiting for it, and has not changed the state. -/
theorem transitions_exclusive (events : List ClientEvent) :
    let s := run events
    (∀ event, (s.step event).state = s.state ∨ s.state.precedes (s.step event).state = true) ∧
    (∀ event, s.Enters event .ready ↔ ∃ i c answer, event = .answer i (.ok answer) ∧
      s.calls[i]? = some c ∧ c.request = .connect ∧ c.operation? = some .connect) ∧
    (∀ event later event', s.Enters event .ready →
      ¬ (run (events ++ event :: later)).Enters event' .ready) ∧
    (∀ i j, s.InFlight i .connect → s.InFlight j .connect → i = j) ∧
    (∀ event, s.Enters event .closed ↔ ∃ i, s.Invokes event i .close) ∧
    (∀ i, s.InFlight i .close → s.state = .closed ∧ ∀ j, ¬ s.InFlight j .connect) ∧
    (∀ event i later event' j, s.Invokes event i .close →
      ¬ (run (events ++ event :: later)).Invokes event' j .close ∧
      ¬ (run (events ++ event :: later)).Invokes event' j .connect) ∧
    ∀ i c, s.calls[i]? = some c → c.request = .connect →
      (c.phase = .dropped ∨ ∃ e, c.phase = .returned (.error e)) →
      i ∉ s.lock.queue ∧ ∀ before own after, events = before ++ own :: after →
        own.call? = some i → (run (before ++ [own])).state = (run before).state := by
  intro s
  have h : s.Coherent := coherent_run events
  have hafter (event : ClientEvent) (later : List ClientEvent) :
      run (events ++ event :: later) = run ((events ++ [event]) ++ later) := by simp
  have hnext (event : ClientEvent) : run (events ++ [event]) = s.step event := run_append _ _
  refine ⟨fun event => (step_move s event).state_precedes h, fun event => h.enters_ready_iff,
    fun event later event' hready hagain => ?_, fun i j hi hj => ?_,
    fun event => h.enters_closed_iff, fun i hi => ?_, fun event i later event' j hclose => ?_,
    fun i c call asks fails => ⟨fun hqueue => ?_, ?_⟩⟩
  · -- a second connect would find the client unready
    obtain ⟨k, c, answer, -, call, -, flies⟩ :=
      (coherent_run (events ++ event :: later)).enters_ready_iff.1 hagain
    obtain ⟨c', call', connects⟩ :=
      (coherent_run (events ++ event :: later)).inFlight_connect_iff.1 ⟨c, call, flies⟩
    have unready := ((coherent_run _).connecting call' connects).2.2
    have hstate := run_state (events ++ [event]) later
    rw [← hafter, unready, hnext, hready.1] at hstate
    simp [ConnectionState.precedes] at hstate
  · obtain ⟨c, call, connects⟩ := h.inFlight_connect_iff.1 hi
    obtain ⟨c', call', connects'⟩ := h.inFlight_connect_iff.1 hj
    exact h.eq_of_holder (h.connecting call' connects').1 call (.inl connects)
  · obtain ⟨c, call, closing⟩ := h.inFlight_close_iff.1 hi
    have closed := (h.closing call closing).2.2
    refine ⟨closed, fun j hj => ?_⟩
    obtain ⟨c', call', connects⟩ := h.inFlight_connect_iff.1 hj
    cases closed.symm.trans (h.connecting call' connects).2.2
  · have closed : (run (events ++ event :: later)).state = .closed := by
      rw [hafter]
      exact run_closed _ _ ((hnext event).symm ▸ (h.enters_closed_iff.2 ⟨i, hclose⟩).1)
    have hlater := coherent_run (events ++ event :: later)
    refine ⟨fun hagain => ?_, fun hconnect => ?_⟩
    · exact (hlater.enters_closed_iff.2 ⟨j, hagain⟩).2 closed
    · have hthen := hlater.move (step_move _ event')
      obtain ⟨c, call, connects⟩ := hthen.inFlight_connect_iff.1 hconnect.1
      have stays := run_closed _ [event'] closed
      rw [run_append] at stays
      cases stays.symm.trans (hthen.connecting call connects).2.2
  · obtain ⟨c', call', under⟩ := (h.queue i).1 hqueue
    cases Option.some.inj (call.symm.trans call')
    obtain hphase | ⟨e, hphase⟩ := fails <;> simp [hphase, Phase.isUnderLock] at under
  · rintro before own after rfl mine
    exact state_of_failed_connect call asks fails mine

/-- A connect waits for another that the transport refuses, then gets the lock and connects; a close
meanwhile waits for both. -/
def refusedThenReady : List ClientEvent :=
  [.start .connect "a", .start .connect "b", .start .close "c", .resume 0,
    .answer 0 (.error .notReady), .resume 1]

theorem transitions_exclusive_of_refused :
    (run refusedThenReady).Enters (.answer 1 (.ok .done)) .ready ∧
      0 ∉ (run refusedThenReady).lock.queue ∧
      ¬ (run (refusedThenReady ++ [.answer 1 (.ok .done)])).Enters (.answer 1 (.ok .done))
        .ready := by
  obtain ⟨-, hready, honce, -, -, -, -, hfailed⟩ := transitions_exclusive refusedThenReady
  have hnow : (run refusedThenReady).Enters (.answer 1 (.ok .done)) .ready :=
    (hready _).2 ⟨1, _, .done, rfl, rfl, rfl, rfl⟩
  exact ⟨hnow, (hfailed 0 _ rfl rfl (.inr ⟨.notReady, rfl⟩)).1, honce _ [] _ hnow⟩

end DeviceHub.Client
