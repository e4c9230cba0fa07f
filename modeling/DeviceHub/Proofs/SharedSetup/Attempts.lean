import DeviceHub.Proofs.SharedSetup
import Mathlib.Data.List.Induction

/-!
The attempts of `once`.  `SetupState` names the attempt under way exactly while one caller runs it,
it is done exactly when an attempt has succeeded, and who waits does so for an attempt that has
begun.
-/
namespace DeviceHub

/-- At no attempt of its own. -/
def Once.IsQuiet (c : Once) : Prop :=
  ∀ r, c ≠ .running r

namespace SharedSetup

variable {δ : Type} {s t : SharedSetup δ}

/-- How the memo, the attempts and the callers hang together. -/
structure Consistent (s : SharedSetup δ) : Prop where
  runner {i r : Nat} : s.callers[i]? = some (.running r) → s.memo = .running r
  unique {i j r : Nat} :
    s.callers[i]? = some (.running r) → s.callers[j]? = some (.running r) → i = j
  attempt {r : Nat} : s.memo = .running r →
    s.attempts[r]? = some .live ∧ ∃ i : Nat, s.callers[i]? = some (.running r)
  live {r : Nat} : s.attempts[r]? = some .live → s.memo = .running r
  waiting {i r : Nat} : s.callers[i]? = some (.waiting r) → r < s.attempts.length
  done : s.memo = .done ↔ ∃ r : Nat, s.attempts[r]? = some (.finished (.ok ()))

lemma Looks.exists_quiet {i : Nat} (h : s.Looks i) :
    ∃ c, s.callers[i]? = some c ∧ Once.IsQuiet c := by
  obtain hc | ⟨r, hc, -⟩ := h
  · exact ⟨_, hc, by nofun⟩
  · exact ⟨_, hc, by nofun⟩

namespace Consistent

/-- Only who runs an attempt matters to the attempts. -/
lemma keep (h : s.Consistent) (setup : t.mux.setup = s.mux.setup)
    (running : ∀ k r : Nat, t.callers[k]? = some (.running r) ↔ s.callers[k]? = some (.running r))
    (waiting : ∀ k r : Nat, t.callers[k]? = some (.waiting r) → r < s.attempts.length) :
    t.Consistent := by
  have hmemo : t.memo = s.memo := by rw [memo, memo, setup]
  have hattempts : t.attempts = s.attempts := by rw [attempts, attempts, setup]
  constructor
  · intro i r hi
    rw [hmemo]
    exact h.runner ((running i r).1 hi)
  · intro i j r hi hj
    exact h.unique ((running i r).1 hi) ((running j r).1 hj)
  · intro r hr
    rw [hattempts]
    obtain ⟨hlive, i, hi⟩ := h.attempt (hmemo ▸ hr)
    exact ⟨hlive, i, (running i r).2 hi⟩
  · intro r hr
    rw [hmemo]
    exact h.live (hattempts ▸ hr)
  · intro i r hi
    rw [hattempts]
    exact waiting i r hi
  · rw [hmemo, hattempts]
    exact h.done

lemma set_quiet (h : s.Consistent) {i : Nat} {old c : Once} (caller : s.callers[i]? = some old)
    (quiet : Once.IsQuiet old) (quiet' : Once.IsQuiet c)
    (waiting : ∀ r, c = .waiting r → r < s.attempts.length) :
    Consistent { s with callers := s.callers.set i c } := by
  refine h.keep rfl (fun k r => ?_) (fun k r hk => ?_)
  · rw [List.getElem?_set]
    split
    next hik =>
      subst hik
      simp [caller, quiet r, quiet' r]
    next => rfl
  · rw [List.getElem?_set] at hk
    split at hk
    next hik =>
      simp only [Option.ite_none_right_eq_some, Option.some.injEq] at hk
      exact waiting r hk.2
    next => exact h.waiting hk

lemma concat (h : s.Consistent) {c : Once} (quiet : Once.IsQuiet c)
    (notWaiting : ∀ r, c ≠ .waiting r) :
    Consistent { s with callers := s.callers ++ [c] } := by
  refine h.keep rfl (fun k r => ?_) (fun k r hk => ?_)
  · rw [List.getElem?_append]
    split
    next => rfl
    next hk =>
      have hnew : [c][k - s.callers.length]? ≠ some (.running r) := fun hc =>
        quiet r (List.mem_singleton.1 (List.mem_of_getElem? hc)).symm
      simp [List.getElem?_eq_none (Nat.le_of_not_lt hk), hnew]
  · rw [List.getElem?_append] at hk
    split at hk
    next => exact h.waiting hk
    next => exact absurd (List.mem_singleton.1 (List.mem_of_getElem? hk)).symm (notWaiting r)

/-- Before an attempt begins nobody runs one. -/
lemma not_running_of_memo (h : s.Consistent) (idle : ∀ r, s.memo ≠ .running r) (i r : Nat) :
    s.callers[i]? ≠ some (.running r) :=
  fun hi => idle r (h.runner hi)

lemma begin (h : s.Consistent) {i : Nat} (caller : i < s.callers.length) (idle : s.memo = .idle) :
    Consistent
      { mux := { s.mux with setup := ⟨.running s.attempts.length, s.attempts ++ [.live]⟩ }
        callers := s.callers.set i (.running s.attempts.length) } := by
  have hnone := h.not_running_of_memo (by simp [idle])
  -- the only caller who runs an attempt is the one who begins
  have honly : ∀ {k r : Nat},
      (s.callers.set i (.running s.attempts.length))[k]? = some (.running r) →
        k = i ∧ r = s.attempts.length := by
    intro k r hk
    rw [List.getElem?_set] at hk
    split at hk
    next hik => simp_all
    next => exact absurd hk (hnone k r)
  constructor
  · intro k r hk
    rw [(honly hk).2]
    rfl
  · intro k j r hk hj
    exact (honly hk).1.trans (honly hj).1.symm
  · intro r hr
    cases hr
    exact ⟨by simp [attempts], i, by simp [attempts, caller]⟩
  · intro r hr
    change (s.attempts ++ [.live])[r]? = _ at hr
    rw [List.getElem?_append] at hr
    split at hr
    next => exact absurd (h.live hr) (by simp [idle])
    next hlength =>
      have := (List.getElem?_eq_some_iff.1 hr).1
      have hr : r = s.attempts.length := by simp only [List.length_singleton] at this; omega
      rw [hr]
      rfl
  · intro k r hk
    change r < (s.attempts ++ [SetupRun.live]).length
    rw [List.length_append]
    rw [List.getElem?_set] at hk
    split at hk
    next => simp at hk
    next => exact Nat.lt_add_right _ (h.waiting hk)
  · refine ⟨by nofun, fun ⟨r, hr⟩ => ?_⟩
    change (s.attempts ++ [.live])[r]? = _ at hr
    rw [List.getElem?_append] at hr
    split at hr
    next => exact absurd (h.done.2 ⟨r, hr⟩) (by simp [idle])
    next => simp [List.getElem?_singleton] at hr

/-- The attempt under way comes to its end, of whatever kind. -/
lemma settle (h : s.Consistent) {i r : Nat} {memo : SetupMemo} {run : SetupRun} {c : Once}
    (runs : s.callers[i]? = some (.running r)) (quiet : Once.IsQuiet c)
    (notWaiting : ∀ r, c ≠ .waiting r) (ended : ∀ r, memo ≠ .running r) (notLive : run ≠ .live)
    (succeeded : memo = .done ↔ run = .finished (.ok ())) :
    Consistent
      { mux := { s.mux with setup := ⟨memo, s.attempts.set r run⟩ }
        callers := s.callers.set i c } := by
  have hmemo := h.runner runs
  have hlength := (List.getElem?_eq_some_iff.1 (h.attempt hmemo).1).1
  have hnone : ∀ {k r' : Nat}, (s.callers.set i c)[k]? ≠ some (.running r') := by
    intro k r' hk
    rw [List.getElem?_set] at hk
    split at hk
    next => simp [quiet r'] at hk
    next hik =>
      cases hmemo.symm.trans (h.runner hk)
      exact hik (h.unique runs hk)
  constructor
  · intro k r' hk
    exact absurd hk hnone
  · intro k j r' hk
    exact absurd hk hnone
  · intro r' hr'
    exact absurd hr' (ended r')
  · intro r' hr'
    change (s.attempts.set r run)[r']? = _ at hr'
    rw [List.getElem?_set] at hr'
    split at hr'
    next => simp [notLive] at hr'
    next hne =>
      cases hmemo.symm.trans (h.live hr')
      exact absurd rfl hne
  · intro k r' hk
    change r' < (s.attempts.set r run).length
    rw [List.length_set]
    rw [List.getElem?_set] at hk
    split at hk
    next => simp [notWaiting r'] at hk
    next => exact h.waiting hk
  · change memo = .done ↔ ∃ r', (s.attempts.set r run)[r']? = _
    rw [succeeded]
    refine ⟨fun hrun => ⟨r, by simp [hrun, hlength]⟩, fun ⟨r', hr'⟩ => ?_⟩
    rw [List.getElem?_set] at hr'
    split at hr'
    next => simpa [hlength] using hr'
    next => exact absurd (h.done.2 ⟨r', hr'⟩) (by simp [hmemo])

/-- Who waits can learn the outcome or look again, unless the attempt is still under way. -/
lemma waits (h : s.Consistent) {i r : Nat} (hwaits : s.callers[i]? = some (.waiting r)) :
    (∃ k : Nat, s.callers[k]? = some (.running r)) ∨
    (∃ outcome, s.attempts[r]? = some (.finished outcome) ∧
      s.mux.resume? (.waiting r) = some (s.mux, .returned outcome)) ∨
    s.mux.resume? (.waiting r) = some s.mux.enter := by
  obtain ⟨run, hr⟩ : ∃ run, s.mux.setup.runs[r]? = some run :=
    ⟨_, List.getElem?_eq_getElem (h.waiting hwaits)⟩
  cases run with
  | live => exact .inl (h.attempt (h.live hr)).2
  | finished outcome => exact .inr (.inl ⟨outcome, hr, by rw [Multiplexer.resume?, hr]⟩)
  | abandoned => exact .inr (.inr (by rw [Multiplexer.resume?, hr]))

variable [Dispatch δ]

theorem move {event : SetupEvent} (h : s.Consistent) (m : s.Move event t) : t.Consistent := by
  cases m with
  | idle closing finishing => exact h
  | call => exact h.concat (by nofun) (by nofun)
  | refuse looks closed =>
    obtain ⟨c, hc, hquiet⟩ := looks.exists_quiet
    exact h.set_quiet hc hquiet (by nofun) (by nofun)
  | pass looks memo =>
    obtain ⟨c, hc, hquiet⟩ := looks.exists_quiet
    exact h.set_quiet hc hquiet (by nofun) (by nofun)
  | wait looks memo =>
    obtain ⟨c, hc, hquiet⟩ := looks.exists_quiet
    refine h.set_quiet hc hquiet (by nofun) ?_
    rintro _ ⟨⟩
    exact (List.getElem?_eq_some_iff.1 (h.attempt memo).1).1
  | begin looks closed memo =>
    obtain ⟨c, hc, -⟩ := looks.exists_quiet
    exact h.begin (List.getElem?_eq_some_iff.1 hc).1 memo
  | learn waits finished => exact h.set_quiet waits (by nofun) (by nofun) (by nofun)
  | @finish i r outcome runs =>
    refine h.settle runs (by nofun) (by nofun) ?_ (by nofun) ?_
    · cases outcome <;> simp [Except.isOk, Except.toBool]
    · cases outcome <;> simp [Except.isOk, Except.toBool]
  | abandon runs => exact h.settle runs (by nofun) (by nofun) (by nofun) (by nofun) (by simp)
  | leave idles =>
    obtain hc | ⟨r, hc⟩ := idles
    · exact h.set_quiet hc (by nofun) (by nofun) (by nofun)
    · exact h.set_quiet hc (by nofun) (by nofun) (by nofun)
  | @close e opened =>
    have hsetup : (s.mux.close e).setup = s.mux.setup := by simp [Multiplexer.close, opened]
    exact h.keep hsetup (fun k r => Iff.rfl) (fun k r hk => h.waiting hk)

theorem run (dispatch : δ) (events : List SetupEvent) :
    ((start dispatch).run events).Consistent := by
  induction events using List.reverseRecOn with
  | nil => constructor <;> simp [SharedSetup.run, start, memo, attempts]
  | append_singleton events event ih =>
    rw [run_append]
    exact ih.move (step_move _ event)

end Consistent
end SharedSetup
end DeviceHub
