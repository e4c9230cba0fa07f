import DeviceHub.Json.Parser
import DeviceHub.Json.Printer
import Mathlib.Data.List.Basic

/-!
Strings and integers of JSON text.  What was printed is read back, whatever comes after the closing
quote of a string, and an integer up to what may follow a value in its container.
-/
namespace DeviceHub.Json

/-! ### Strings -/

lemma hexDigit?_hexDigit : ∀ n < 16, hexDigit? (hexDigit n) = some n := by
  decide

lemma not_half {unit : Nat} (h : unit < 0x20) :
    isHighHalf unit = false ∧ isLowHalf unit = false := by
  simp only [isHighHalf, isLowHalf, Bool.and_eq_false_iff, decide_eq_false_iff_not]
  omega

lemma parseStringTail_escapeChar (c : Char) (rest : List Char) :
    parseStringTail (escapeChar c ++ rest) =
      (parseStringTail rest).map fun (cs, rest) => (c :: cs, rest) := by
  unfold escapeChar
  -- the escapes of one letter
  iterate 7
    split
    next h => subst h; rfl
  split
  next hcontrol =>
    have hzero : hexDigit? '0' = some 0 := rfl
    have hunit : hexUnit? '0' '0' (hexDigit (c.toNat / 16)) (hexDigit (c.toNat % 16)) =
        some c.toNat := by
      simp only [hexUnit?, hzero, hexDigit?_hexDigit (c.toNat / 16) (by omega),
        hexDigit?_hexDigit (c.toNat % 16) (by omega)]
      exact congrArg some (by omega)
    simp only [List.cons_append, List.nil_append]
    rw [parseStringTail, hunit, Option.bind_some, (not_half hcontrol).1, (not_half hcontrol).2,
      Char.ofNat_toNat]
    rfl
  next hquote hbackslash _ _ _ _ _ hcontrol =>
    rw [List.singleton_append, parseStringTail, if_neg (not_or.2 ⟨hcontrol, hbackslash⟩)]
    all_goals grind

lemma parseStringTail_flatMap (cs rest : List Char) :
    parseStringTail (cs.flatMap escapeChar ++ '"' :: rest) = some (cs, rest) := by
  induction cs with
  | nil => rfl
  | cons c cs ih => rw [List.flatMap_cons, List.append_assoc, parseStringTail_escapeChar, ih]; rfl

/-! ### Numbers -/

/-- What may follow a value in a container, or at the end. -/
def Follows (rest : List Char) : Prop :=
  ∀ c ∈ rest.head?, c = ',' ∨ c = ']' ∨ c = '\x7d'

def NoDigit (rest : List Char) : Prop :=
  ∀ c ∈ rest.head?, Text.digitValue? c = none

lemma Follows.noDigit {rest : List Char} (h : Follows rest) : NoDigit rest := by
  intro c hc
  obtain rfl | rfl | rfl := h c hc <;> rfl

lemma digitValue?_digitChar : ∀ d < 10, Text.digitValue? d.digitChar = some d := by
  decide

lemma spanDigits_append {digits : List Nat} {rest : List Char} (hdigits : ∀ d ∈ digits, d < 10)
    (hrest : NoDigit rest) :
    spanDigits (digits.map Nat.digitChar ++ rest) = (digits, rest) := by
  induction digits with
  | nil =>
    cases rest with
    | nil => rfl
    | cons c rest => simp [spanDigits, hrest c rfl]
  | cons d digits ih =>
    simp [spanDigits, digitValue?_digitChar d (hdigits d List.mem_cons_self),
      ih fun d hd => hdigits d (List.mem_cons_of_mem _ hd)]

/-- The digits of a number without zeros in front of others. -/
structure IsDigits (digits : List Nat) : Prop where
  digit : ∀ d ∈ digits, d < 10
  nonempty : digits ≠ []
  leading : digits.head? = some 0 → digits = [0]

lemma wholeDigits?_append {digits : List Nat} {rest : List Char} (h : IsDigits digits)
    (hrest : NoDigit rest) :
    wholeDigits? (digits.map Nat.digitChar ++ rest) = some (digits, rest) := by
  rw [wholeDigits?, spanDigits_append h.digit hrest]
  cases digits with
  | nil => exact absurd rfl h.nonempty
  | cons d digits =>
    cases digits with
    | nil => cases d <;> rfl
    | cons d' digits =>
      cases d with
      | zero => exact absurd (h.leading rfl) (by simp)
      | succ d => rfl

lemma exists_digits (n : Nat) :
    ∃ digits, IsDigits digits ∧ Nat.toDigits 10 n = digits.map Nat.digitChar ∧
      digitsValue digits = n := by
  induction n using Nat.strongRecOn with
  | ind n ih =>
    by_cases hn : n < 10
    · refine ⟨[n], ⟨by simp [hn], by simp, by simp⟩, Nat.toDigits_of_lt_base hn, ?_⟩
      simp [digitsValue]
    · obtain ⟨digits, hdigits, htext, hvalue⟩ := ih (n / 10) (by omega)
      refine ⟨digits ++ [n % 10], ⟨?_, by simp, ?_⟩, ?_, ?_⟩
      · intro d hd
        obtain hd | hd := List.mem_append.1 hd
        · exact hdigits.digit d hd
        · have : d = n % 10 := by simpa using hd
          omega
      · intro hzero
        rw [List.head?_append_of_ne_nil _ hdigits.nonempty] at hzero
        rw [hdigits.leading hzero] at hvalue
        have : n / 10 = 0 := hvalue.symm
        omega
      · rw [Nat.toDigits_of_base_le (by decide) (by omega), htext, List.map_append]
        rfl
      · rw [digitsValue, List.foldl_append]
        change digitsValue digits * 10 + n % 10 = n
        omega

/-- After the digits of an integer comes neither a fraction nor an exponent. -/
lemma Follows.whole {rest : List Char} (h : Follows rest) :
    fractionDigits? rest = some (none, rest) ∧ exponentDigits? rest = some (none, rest) := by
  cases rest with
  | nil => exact ⟨rfl, rfl⟩
  | cons c rest => obtain rfl | rfl | rfl := h c rfl <;> exact ⟨rfl, rfl⟩

/-- The digits of an integer that fits 64 bits, after its sign, are read as it. -/
lemma value?_of_digits {negative : Bool} {digits : List Nat} (i : Int64)
    (h : i.toInt = if negative then -(digitsValue digits : Int) else digitsValue digits)
    (hzero : i.toInt = 0 → negative = false) :
    NumberText.value? ⟨negative, digits, none, none⟩ = some (.int i) := by
  have hsign : ¬(i.toInt = 0 ∧ negative = true) := fun ⟨h0, hneg⟩ => by
    rw [hzero h0] at hneg
    cases hneg
  have hlow : -Int.pow 2 63 ≤ i.toInt := i.le_toInt
  have hhigh : i.toInt < Int.pow 2 63 := i.toInt_lt
  simp only [NumberText.value?, ← h]
  rw [if_neg hsign, if_pos ⟨hlow, hhigh⟩, Int64.ofInt_toInt]

lemma head_ne_sign {digits : List Nat} (h : IsDigits digits) (rest more : List Char) :
    digits.map Nat.digitChar ++ rest ≠ '-' :: more := by
  cases digits with
  | nil => exact absurd rfl h.nonempty
  | cons d digits =>
    intro heq
    have hd := digitValue?_digitChar d (h.digit d List.mem_cons_self)
    rw [(List.cons.inj heq).1] at hd
    cases hd

lemma parseNumber_intText (i : Int64) {rest : List Char} (h : Follows rest) :
    parseNumber (intText i ++ rest) = some (.int i, rest) := by
  rw [intText, Int.toString_eq_repr, Int.repr_eq_if]
  split
  next hnonneg =>
    obtain ⟨digits, hdigits, htext, hvalue⟩ := exists_digits i.toInt.toNat
    have hread := @value?_of_digits false digits i (by simp; omega) fun _ => rfl
    rw [Nat.repr_eq_ofList_toDigits, String.toList_ofList, htext, parseNumber]
    · simp [wholeDigits?_append hdigits h.noDigit, h.whole, hread]
    · exact head_ne_sign hdigits rest
  next hneg =>
    obtain ⟨digits, hdigits, htext, hvalue⟩ := exists_digits (-i.toInt).toNat
    have hread := @value?_of_digits true digits i (by simp; omega) (by omega)
    rw [Nat.repr_eq_ofList_toDigits, htext, String.toList_append, String.toList_ofList,
      String.toList_ofList]
    change parseNumber ('-' :: (digits.map Nat.digitChar ++ rest)) = _
    simp [parseNumber, wholeDigits?_append hdigits h.noDigit, h.whole, hread]

lemma intText_cons (i : Int64) : ∃ c cs, intText i = c :: cs ∧ c ∈ "-0123456789".toList := by
  rw [intText, Int.toString_eq_repr, Int.repr_eq_if]
  split
  next =>
    obtain ⟨digits, hdigits, htext, -⟩ := exists_digits i.toInt.toNat
    rw [Nat.repr_eq_ofList_toDigits, String.toList_ofList, htext]
    cases digits with
    | nil => exact absurd rfl hdigits.nonempty
    | cons d digits =>
      have hd : ∀ d < 10, d.digitChar ∈ "-0123456789".toList := by decide
      exact ⟨_, _, rfl, hd d (hdigits.digit d List.mem_cons_self)⟩
  next => exact ⟨_, _, by rw [String.toList_append]; rfl, List.mem_cons_self⟩

lemma parseValue_of_number {c : Char} (hc : c ∈ "-0123456789".toList) (depth fuel : Nat)
    (cs : List Char) : parseValue depth (fuel + 1) (c :: cs) = parseNumber (c :: cs) := by
  have hcases : c = '-' ∨ c = '0' ∨ c = '1' ∨ c = '2' ∨ c = '3' ∨ c = '4' ∨ c = '5' ∨ c = '6' ∨
      c = '7' ∨ c = '8' ∨ c = '9' := by simpa using hc
  obtain rfl | rfl | rfl | rfl | rfl | rfl | rfl | rfl | rfl | rfl | rfl := hcases <;>
    simp [parseValue, skipBlanks]

end DeviceHub.Json
