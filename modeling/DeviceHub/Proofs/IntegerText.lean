import DeviceHub.Text.Integer
import Mathlib.Tactic.Common

/-!
Whole numbers in decimal, written and read.  What is written is read again, so two numbers with one
text are the same.
-/
namespace DeviceHub.Text

lemma digitValue?_of_isDigit {c : Char} (h : c.isDigit = true) :
    digitValue? c = some (c.toNat - '0'.toNat) := by
  simp only [Char.isDigit, Bool.and_eq_true, decide_eq_true_eq] at h
  exact if_pos h

lemma readDigits_of_isDigit {chars : List Char} (h : ∀ c ∈ chars, c.isDigit = true) (n : Nat) :
    readDigits n chars = some (Nat.ofDigitChars 10 chars n) := by
  induction chars generalizing n with
  | nil => rfl
  | cons c chars ih =>
    rw [readDigits, digitValue?_of_isDigit (h c List.mem_cons_self), Option.bind_some,
      ih fun d hd => h d (List.mem_cons_of_mem c hd), Nat.ofDigitChars_cons, Nat.mul_comm]

lemma isDigit_of_mem_repr {n : Nat} {c : Char} (h : c ∈ n.repr.toList) : c.isDigit = true := by
  rw [Nat.toList_repr] at h
  exact Nat.isDigit_of_mem_toDigits (by decide) (by decide) h

/-- A number begins with a digit. -/
lemma exists_repr_cons (n : Nat) : ∃ c rest, n.repr.toList = c :: rest ∧ c.isDigit = true := by
  cases hchars : n.repr.toList with
  | nil =>
    rw [Nat.toList_repr] at hchars
    exact absurd hchars Nat.toDigits_ne_nil
  | cons c rest => exact ⟨c, rest, rfl, isDigit_of_mem_repr (hchars ▸ List.mem_cons_self)⟩

lemma readNat?_repr (n : Nat) : readNat? n.repr.toList = some n := by
  have hread : readDigits 0 n.repr.toList = some n := by
    rw [readDigits_of_isDigit fun c hc => isDigit_of_mem_repr hc, Nat.toList_repr,
      Nat.ofDigitChars_ten_toDigits]
  obtain ⟨c, rest, hchars, -⟩ := exists_repr_cons n
  rw [hchars] at hread ⊢
  exact hread

/-- Without a sign in front a number is read as it stands. -/
lemma readInt?_of_isDigit {c : Char} {rest : List Char} {n : Nat} (h : c.isDigit = true)
    (hread : readNat? (c :: rest) = some n) : readInt? (c :: rest) = some (n : Int) := by
  rw [readInt?, hread]
  · rfl
  · rintro _ ⟨⟩
    cases h
  · rintro _ ⟨⟩
    cases h

theorem readInt?_toString (i : Int) : readInt? (toString i).toList = some i := by
  rw [Int.toString_eq_repr, Int.repr_eq_if]
  split
  next hnonneg =>
    obtain ⟨c, rest, hchars, hdigit⟩ := exists_repr_cons i.toNat
    have hread := readNat?_repr i.toNat
    rw [hchars] at hread ⊢
    rw [readInt?_of_isDigit hdigit hread, Int.toNat_of_nonneg hnonneg]
  next hneg =>
    have hsign : ("-" ++ (-i).toNat.repr).toList = '-' :: (-i).toNat.repr.toList := by
      rw [String.toList_append]
      rfl
    rw [hsign, readInt?, readNat?_repr]
    change some (-((-i).toNat : Int)) = some i
    congr 1
    omega

lemma toString_inj {i j : Int} : toString i = toString j ↔ i = j := by
  refine ⟨fun h => ?_, congrArg _⟩
  have hread := congrArg (fun s : String => readInt? s.toList) h
  simp only [readInt?_toString] at hread
  exact Option.some.inj hread

lemma mem_toString {i : Int} {c : Char} (h : c ∈ (toString i).toList) :
    c.isDigit = true ∨ c = '-' := by
  rw [Int.toString_eq_repr, Int.repr_eq_if] at h
  split at h
  next => exact .inl (isDigit_of_mem_repr h)
  next =>
    rw [String.toList_append] at h
    obtain h | h := List.mem_append.1 h
    · exact .inr (List.mem_singleton.1 h)
    · exact .inl (isDigit_of_mem_repr h)

end DeviceHub.Text
