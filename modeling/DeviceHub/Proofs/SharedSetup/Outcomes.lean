import DeviceHub.Multiplexer.Registry
import DeviceHub.Proofs.SharedSetup.Attempts

/-!
What callers of `once` get, told by the events alone: the error of the first close, success once an
attempt has succeeded, or the outcome of the attempt they ran or waited for.
-/
namespace DeviceHub
namespace SharedSetup

variable {δ : Type} [Dispatch δ] {s t : SharedSetup δ} {event : SetupEvent}

/-- A caller begins an attempt of its own. -/
def Begins (s : SharedSetup δ) (event : SetupEvent) (i r : Nat) : Prop :=
  (s.step event).callers[i]? = some (.running r) ∧ s.callers[i]? ≠ some (.running r)

/-- A caller returns, with an outcome. -/
def Returns (s : SharedSetup δ) (event : SetupEvent) (i : Nat) (outcome : HubResult Unit) : Prop :=
  (s.step event).callers[i]? = some (.returned outcome) ∧
    s.callers[i]? ≠ some (.returned outcome)

lemma Finished.append_iff {dispatch : δ} {events : List SetupEvent} {r : Nat}
    {outcome : HubResult Unit} :
    Finished dispatch (events ++ [event]) r outcome ↔
      Finished dispatch events r outcome ∨
        ∃ i, event = .finish i outcome ∧
          ((start dispatch).run events).callers[i]? = some (.running r) := by
  constructor
  · rintro ⟨before, i, after, hsplit, hruns⟩
    obtain rfl | ⟨after, last, rfl⟩ := after.eq_nil_or_concat
    · obtain ⟨rfl, hevent⟩ := List.append_inj' hsplit rfl
      exact .inr ⟨i, by simpa using hevent, hruns⟩
    · have hsplit : events ++ [event] = (before ++ .finish i outcome :: after) ++ [last] := by
        simpa using hsplit
      obtain ⟨rfl, -⟩ := List.append_inj' hsplit rfl
      exact .inl ⟨before, i, after, rfl, hruns⟩
  · rintro (⟨before, i, after, rfl, hruns⟩ | ⟨i, rfl, hruns⟩)
    · exact ⟨before, i, after ++ [event], by simp, hruns⟩
    · exact ⟨events, i, [], rfl, hruns⟩

lemma Move.closed (m : s.Move event t) :
    t.mux.closed = s.mux.closed.or (Closes.error? event) := by
  cases m with
  | idle closing finishing =>
    cases event with
    | close e =>
      obtain ⟨e', he'⟩ := Option.ne_none_iff_exists'.1 (closing e rfl)
      simp [he']
    | _ => exact Option.or_none.symm
  | close => exact s.mux.closed_close _
  | _ => exact Option.or_none.symm

/-- The outcome of an attempt is put down when its caller finishes it, and stays. -/
lemma Move.finished_iff (h : s.Consistent) (m : s.Move event t) {r : Nat}
    {outcome : HubResult Unit} :
    t.attempts[r]? = some (.finished outcome) ↔
      s.attempts[r]? = some (.finished outcome) ∨
        ∃ i, event = .finish i outcome ∧ s.callers[i]? = some (.running r) := by
  cases m with
  | idle closing finishing =>
    refine (or_iff_left ?_).symm
    rintro ⟨i, hevent, hruns⟩
    exact finishing i outcome r hevent hruns
  | begin looks closed memo =>
    change (s.attempts ++ [SetupRun.live])[r]? = _ ↔ _
    rw [List.getElem?_append]
    split
    next => simp
    next hr => simp [List.getElem?_eq_none (Nat.le_of_not_lt hr), List.getElem?_singleton]
  | @finish i r' outcome' runs =>
    have hlive := (h.attempt (h.runner runs)).1
    change (s.attempts.set r' (.finished outcome'))[r]? = _ ↔ _
    rw [List.getElem?_set]
    split
    next hr =>
      subst hr
      rw [if_pos (List.getElem?_eq_some_iff.1 hlive).1, hlive]
      simp [runs]
    next hr => simp [runs, hr]
  | @abandon i r' runs =>
    have hlive := (h.attempt (h.runner runs)).1
    change (s.attempts.set r' .abandoned)[r]? = _ ↔ _
    rw [List.getElem?_set]
    split
    next hr =>
      subst hr
      simp [hlive]
    next => simp
  | close opened => simp [Multiplexer.close, opened, attempts]
  | _ => simp [attempts]

theorem run_closed (dispatch : δ) (events : List SetupEvent) :
    ((start dispatch).run events).mux.closed = firstClose? events :=
  closed_foldl (fun s : SharedSetup δ => s.mux.closed)
    (fun s event => (step_move s event).closed) rfl
    events

theorem run_finished_iff (dispatch : δ) (events : List SetupEvent) {r : Nat}
    {outcome : HubResult Unit} :
    ((start dispatch).run events).attempts[r]? = some (.finished outcome) ↔
      Finished dispatch events r outcome := by
  induction events using List.reverseRecOn with
  | nil => simp [run, start, attempts, Finished]
  | append_singleton events event ih =>
    rw [run_append, (step_move _ event).finished_iff (.run dispatch events), ih,
      Finished.append_iff]

/-- What is new in a list after one entry was set is that entry. -/
lemma eq_of_getElem?_set {α : Type} {xs : List α} {i j : Nat} {x y : α}
    (now : (xs.set j y)[i]? = some x) (before : xs[i]? ≠ some x) : j = i ∧ y = x := by
  rw [List.getElem?_set] at now
  split at now
  next hij =>
    simp only [Option.ite_none_right_eq_some, Option.some.injEq] at now
    exact ⟨hij, now.2⟩
  next => exact absurd now before

lemma eq_of_getElem?_concat {α : Type} {xs : List α} {i : Nat} {x y : α}
    (now : (xs ++ [y])[i]? = some x) (before : xs[i]? ≠ some x) : y = x := by
  rw [List.getElem?_append] at now
  split at now
  next => exact absurd now before
  next => simp_all [List.getElem?_singleton]

/-- Attempts begin only while the link is open and not set up. -/
lemma Begins.memo {i r : Nat} (h : s.Begins event i r) :
    s.mux.closed = none ∧ s.memo = .idle := by
  obtain ⟨hnow, hbefore⟩ := h
  have m := step_move s event
  generalize s.step event = t at m hnow
  cases m with
  | begin looks closed memo => exact ⟨closed, memo⟩
  | idle closing finishing => exact absurd hnow hbefore
  | close opened => exact absurd hnow hbefore
  | call => cases eq_of_getElem?_concat hnow hbefore
  | _ => cases (eq_of_getElem?_set hnow hbefore).2

/-- What a caller returns it has been told by the link, or by the attempt it ran or waited for. -/
lemma Returns.cases {i : Nat} {outcome : HubResult Unit} (h : s.Returns event i outcome) :
    (∃ e, s.mux.closed = some e ∧ outcome = .error e) ∨
    (s.memo = .done ∧ outcome = .ok ()) ∨
    (event = .finish i outcome ∧ ∃ r, s.callers[i]? = some (.running r)) ∨
    ∃ r, s.callers[i]? = some (.waiting r) ∧ s.attempts[r]? = some (.finished outcome) := by
  obtain ⟨hnow, hbefore⟩ := h
  have m := step_move s event
  generalize s.step event = t at m hnow
  cases m with
  | idle closing finishing => exact absurd hnow hbefore
  | close opened => exact absurd hnow hbefore
  | call => cases eq_of_getElem?_concat hnow hbefore
  | refuse looks closed =>
    cases (eq_of_getElem?_set hnow hbefore).2
    exact .inl ⟨_, closed, rfl⟩
  | pass looks memo =>
    cases (eq_of_getElem?_set hnow hbefore).2
    exact .inr (.inl ⟨memo, rfl⟩)
  | finish runs =>
    obtain ⟨rfl, ⟨⟩⟩ := eq_of_getElem?_set hnow hbefore
    exact .inr (.inr (.inl ⟨rfl, _, runs⟩))
  | learn waits finished =>
    obtain ⟨rfl, ⟨⟩⟩ := eq_of_getElem?_set hnow hbefore
    exact .inr (.inr (.inr ⟨_, waits, finished⟩))
  | _ => cases (eq_of_getElem?_set hnow hbefore).2

/-- However callers, outcomes, drops and a close come in turn: one attempt at most is under way; no
attempt begins after a close or a success; a caller returns the error of the first close, success
that was there, or the outcome of the attempt it ran or waited for; and who waits does so for an
attempt under way, or can learn its outcome, or can look again. -/
theorem once_shared (dispatch : δ) (events : List SetupEvent) :
    let s := (start dispatch).run events
    (∀ i j r r' : Nat, s.callers[i]? = some (.running r) → s.callers[j]? = some (.running r') →
      i = j ∧ r = r') ∧
    (∀ event i r, s.Begins event i r →
      firstClose? events = none ∧ ∀ r', ¬ Finished dispatch events r' (.ok ())) ∧
    (∀ event i outcome, s.Returns event i outcome →
      (∃ e, firstClose? events = some e ∧ outcome = .error e) ∨
      ((∃ r, Finished dispatch events r (.ok ())) ∧ outcome = .ok ()) ∨
      (event = .finish i outcome ∧ ∃ r, s.callers[i]? = some (.running r)) ∨
      ∃ r, s.callers[i]? = some (.waiting r) ∧ Finished dispatch events r outcome) ∧
    ∀ i r : Nat, s.callers[i]? = some (.waiting r) →
      (∃ k : Nat, s.callers[k]? = some (.running r)) ∨
      (∃ outcome, Finished dispatch events r outcome ∧
        s.mux.resume? (.waiting r) = some (s.mux, .returned outcome)) ∨
      s.mux.resume? (.waiting r) = some s.mux.enter := by
  have hclosed := run_closed dispatch events
  have hfinished := @run_finished_iff _ _ dispatch events
  have h := Consistent.run dispatch events
  have hdone : ((start dispatch).run events).memo = .done ↔
      ∃ r, Finished dispatch events r (.ok ()) := by
    rw [h.done]
    exact exists_congr fun r => hfinished
  intro s
  refine ⟨fun i j r r' hi hj => ?_, fun event i r hbegins => ?_,
    fun event i outcome hreturns => ?_, fun i r hwaits => ?_⟩
  · cases (h.runner hi).symm.trans (h.runner hj)
    exact ⟨h.unique hi hj, rfl⟩
  · obtain ⟨hopen, hidle⟩ := hbegins.memo
    refine ⟨hclosed.symm.trans hopen, fun r' hr' => ?_⟩
    cases hidle.symm.trans (hdone.2 ⟨r', hr'⟩)
  · obtain ⟨e, he, ho⟩ | ⟨hmemo, ho⟩ | hown | ⟨r, hwaits, hr⟩ := hreturns.cases
    · exact .inl ⟨e, hclosed.symm.trans he, ho⟩
    · exact .inr (.inl ⟨hdone.1 hmemo, ho⟩)
    · exact .inr (.inr (.inl hown))
    · exact .inr (.inr (.inr ⟨r, hwaits, hfinished.1 hr⟩))
  · obtain hruns | ⟨outcome, hr, hresume⟩ | hresume := h.waits hwaits
    · exact .inl hruns
    · exact .inr (.inl ⟨outcome, hfinished.1 hr, hresume⟩)
    · exact .inr (.inr hresume)

/-- The second of two callers waits for the attempt of the first, which fails. -/
def failedForTwo : List SetupEvent :=
  [.call, .call, .resume 0, .resume 1, .finish 0 (.error .closed)]

theorem once_shared_of_two :
    ∃ r, ((start ([] : Registry)).run failedForTwo).callers[1]? = some (.waiting r) ∧
      Finished ([] : Registry) failedForTwo r (.error .closed) := by
  have hreturns : ((start ([] : Registry)).run failedForTwo).Returns (.resume 1) 1
      (.error .closed) := ⟨rfl, by nofun⟩
  obtain ⟨e, he, -⟩ | ⟨-, ho⟩ | ⟨hown, -⟩ | hwaited :=
    (once_shared ([] : Registry) failedForTwo).2.2.1 _ _ _ hreturns
  · cases he
  · cases ho
  · cases hown
  · exact hwaited

end SharedSetup
end DeviceHub
