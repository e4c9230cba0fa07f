import DeviceHub.Number.Double
import Mathlib.Algebra.Order.Ring.Nat
import Mathlib.Tactic.Common
import Mathlib.Tactic.Ring

/-!
Powers of two and rounding.  The double nearest to a number that is not below a power of two is not
below it either, and so it is with a rounded product; from `2 ^ 52` on every finite double stands
for a whole number.
-/
namespace DeviceHub.Double

variable {d a b : Double} {num den magnitude k l : Nat} {negative : Bool}

/-! ### Bits -/

lemma toNat_bits_ofMagnitude (h : magnitude < 2 ^ 63) (negative : Bool) :
    (ofMagnitude negative magnitude).bits.toNat = magnitude + if negative then 2 ^ 63 else 0 := by
  have hlt : magnitude + (if negative then 2 ^ 63 else 0) < 2 ^ 64 := by
    split <;> omega
  exact UInt64.toNat_ofNat_of_lt' hlt

lemma exponentField_ofMagnitude (h : magnitude < 2 ^ 63) (negative : Bool) :
    (ofMagnitude negative magnitude).exponentField = magnitude / 2 ^ 52 := by
  rw [exponentField, toNat_bits_ofMagnitude h, Nat.pow_eq]
  split <;> omega

lemma isNegative_ofMagnitude (h : magnitude < 2 ^ 63) (negative : Bool) :
    (ofMagnitude negative magnitude).isNegative = negative := by
  rw [isNegative, toNat_bits_ofMagnitude h, Nat.pow_eq]
  cases negative with
  | false => exact decide_eq_false (by simp; omega)
  | true => exact decide_eq_true (by simp)

lemma neg_ofMagnitude (h : magnitude < 2 ^ 63) :
    (ofMagnitude false magnitude).neg = ofMagnitude true magnitude := by
  rw [neg, toNat_bits_ofMagnitude h, Nat.pow_eq, Nat.pow_eq, Nat.mod_eq_of_lt (by simp; omega)]
  rfl

lemma lt_of_le_infinityBits (h : magnitude ≤ infinityBits) : magnitude < 2 ^ 63 := by
  rw [infinityBits, Nat.pow_eq] at h
  omega

/-! ### Rounding a ratio -/

/-- The exponent of the greatest power of two that is not above a ratio. -/
def topExponent (num den : Nat) : Int :=
  let guess : Int := (num.log2 : Int) - den.log2
  let fits : Bool :=
    if 0 ≤ guess then den * 2 ^ guess.toNat ≤ num else den ≤ num * 2 ^ (-guess).toNat
  if fits then guess else guess - 1

lemma ne_zero_of_reaches (hden : 0 < den) (h : den * 2 ^ k ≤ num) : num ≠ 0 :=
  Nat.ne_of_gt (Nat.lt_of_lt_of_le (Nat.mul_pos hden (Nat.two_pow_pos k)) h)

lemma exists_topExponent (hden : 0 < den) (h : den * 2 ^ k ≤ num) :
    ∃ top : Nat, topExponent num den = top ∧ k ≤ top ∧ den * 2 ^ top ≤ num := by
  have hnum := ne_zero_of_reaches hden h
  have hlow : den.log2 + k ≤ num.log2 := by
    rw [Nat.le_log2 hnum, Nat.pow_add]
    exact (Nat.mul_le_mul_right _ (Nat.log2_self_le hden.ne')).trans h
  obtain ⟨guess, hguess⟩ := Nat.exists_eq_add_of_le hlow
  have hdifference : (num.log2 : Int) - den.log2 = (k + guess : Nat) := by omega
  rw [topExponent, hdifference, if_pos (Int.natCast_nonneg _), Int.toNat_natCast]
  by_cases hfits : den * 2 ^ (k + guess) ≤ num
  · exact ⟨k + guess, by simp [hfits], by omega, hfits⟩
  · -- the guess is one too large, so it is not `k` itself
    cases guess with
    | zero => exact absurd h hfits
    | succ guess =>
      refine ⟨k + guess, by simp [hfits]; omega, by omega, ?_⟩
      calc den * 2 ^ (k + guess)
          ≤ 2 ^ (den.log2 + 1) * 2 ^ (k + guess) := Nat.mul_le_mul_right _ Nat.lt_log2_self.le
        _ = 2 ^ num.log2 := by rw [← Nat.pow_add, hguess]; congr 1; omega
        _ ≤ num := Nat.log2_self_le hnum

/-- The significand that a ratio is rounded to, in units of `2 ^ q`. -/
def roundedAt (num den : Nat) (q : Int) : Nat :=
  if 0 ≤ q then roundRatio num (den * 2 ^ q.toNat) else roundRatio (num * 2 ^ (-q).toNat) den

lemma nearestMagnitude_eq (h : num ≠ 0) :
    nearestMagnitude num den =
      let q := max (topExponent num den - 52) (-1074)
      let magnitude := (q + 1074).toNat * 2 ^ 52 + roundedAt num den q
      if magnitude < infinityBits then some magnitude else none := by
  rw [nearestMagnitude, if_neg h]
  rfl

lemma le_roundRatio (num den : Nat) : num / den ≤ roundRatio num den := by
  unfold roundRatio
  dsimp only
  split <;> omega

/-- At 52 places below its top exponent a ratio has a significand with its leading bit. -/
lemma le_roundedAt {top : Nat} (hden : 0 < den) (h : den * 2 ^ top ≤ num) :
    2 ^ 52 ≤ roundedAt num den (top - 52) := by
  unfold roundedAt
  split
  next hq =>
    refine Nat.le_trans ?_ (le_roundRatio _ _)
    rw [Nat.le_div_iff_mul_le (Nat.mul_pos hden (Nat.two_pow_pos _))]
    have hpow : 2 ^ 52 * 2 ^ ((top : Int) - 52).toNat = 2 ^ top := by
      rw [← Nat.pow_add]
      congr 1
      omega
    rw [Nat.mul_left_comm, hpow]
    exact h
  next hq =>
    refine Nat.le_trans ?_ (le_roundRatio _ _)
    rw [Nat.le_div_iff_mul_le hden]
    have hpow : 2 ^ 52 = 2 ^ top * 2 ^ (-((top : Int) - 52)).toNat := by
      rw [← Nat.pow_add]
      congr 1
      omega
    rw [hpow, Nat.mul_comm, ← Nat.mul_assoc]
    exact Nat.mul_le_mul_right _ h

/-- What is rounded does not fall below a power of two. -/
theorem le_nearestMagnitude (h : nearestMagnitude num den = some magnitude) (hden : 0 < den)
    (hk : den * 2 ^ k ≤ num) : (k + 1023) * 2 ^ 52 ≤ magnitude ∧ magnitude < infinityBits := by
  obtain ⟨top, htop, hle, hreach⟩ := exists_topExponent hden hk
  have hmax : max ((top : Int) - 52) (-1074) = top - 52 := by omega
  have hscale : ((top : Int) - 52 + 1074).toNat = top + 1022 := by omega
  have hbound : (k + 1023) * 2 ^ 52 ≤ (top + 1022) * 2 ^ 52 + 2 ^ 52 := by omega
  rw [nearestMagnitude_eq (ne_zero_of_reaches hden hk), htop, hmax] at h
  dsimp only at h
  rw [hscale] at h
  split at h
  next hfinite =>
    have hleading := le_roundedAt hden hreach
    obtain rfl := Option.some.inj h
    exact ⟨hbound.trans (Nat.add_le_add_left hleading _), hfinite⟩
  next => cases h

/-! ### Doubles that are not below a power of two -/

/-- The magnitude is not below `2 ^ k`; infinity counts. -/
def Reaches (d : Double) (k : Nat) : Prop :=
  k + 1023 ≤ d.exponentField

lemma Reaches.exponentField_ne_zero (h : d.Reaches k) : d.exponentField ≠ 0 := by
  unfold Reaches at h
  omega

lemma Reaches.significand (h : d.Reaches k) : 2 ^ 52 ≤ d.significand := by
  rw [Double.significand, if_neg h.exponentField_ne_zero]
  exact Nat.le_add_left _ _

lemma Reaches.exponent (h : d.Reaches k) : (k : Int) - 52 ≤ d.exponent := by
  rw [Double.exponent, if_neg h.exponentField_ne_zero]
  unfold Reaches at h
  omega

lemma reaches_ofMagnitude (h : magnitude ≤ infinityBits) (hk : (k + 1023) * 2 ^ 52 ≤ magnitude)
    (negative : Bool) : (ofMagnitude negative magnitude).Reaches k := by
  rw [Reaches, exponentField_ofMagnitude (lt_of_le_infinityBits h)]
  exact (Nat.le_div_iff_mul_le (by decide)).2 hk

lemma reaches_ofNat {n : Nat} (h : 2 ^ k ≤ n) (hk : k ≤ 1024) :
    (ofInt n).Reaches k ∧ (ofInt n).isNegative = false := by
  have hsign : decide ((n : Int) < 0) = false := decide_eq_false (by omega)
  have hone : 1 * 2 ^ k ≤ n := by omega
  rw [ofInt, hsign, Int.natAbs_natCast, ofScaledRatio?, if_pos (Int.le_refl 0)]
  have hscale : n * Nat.pow 2 (0 : Int).toNat = n := Nat.mul_one n
  rw [hscale]
  cases hround : nearestMagnitude n 1 with
  | none =>
    have hle : (k + 1023) * 2 ^ 52 ≤ infinityBits := by
      rw [infinityBits, Nat.pow_eq]
      omega
    exact ⟨reaches_ofMagnitude (Nat.le_refl _) hle false,
      isNegative_ofMagnitude (lt_of_le_infinityBits (Nat.le_refl _)) false⟩
  | some magnitude =>
    obtain ⟨hle, hlt⟩ := le_nearestMagnitude hround Nat.one_pos hone
    exact ⟨reaches_ofMagnitude hlt.le hle false,
      isNegative_ofMagnitude (lt_of_le_infinityBits hlt.le) false⟩

/-- A finite product reaches the product of the powers of two that its factors reach. -/
theorem exists_mul? (h : a.mul? b = some d) (ha : a.Reaches k) (hb : b.Reaches l) :
    ∃ magnitude, d = ofMagnitude (a.isNegative != b.isNegative) magnitude ∧
      (k + l + 1023) * 2 ^ 52 ≤ magnitude ∧ magnitude < infinityBits := by
  have hproduct : 2 ^ 52 * 2 ^ 52 ≤ a.significand * b.significand :=
    Nat.mul_le_mul ha.significand hb.significand
  have hexponent : (k + l : Int) - 104 ≤ a.exponent + b.exponent := by
    have := ha.exponent
    have := hb.exponent
    omega
  rw [mul?, ofScaledRatio?] at h
  obtain ⟨magnitude, hround, rfl⟩ := Option.map_eq_some_iff.1 h
  refine ⟨magnitude, rfl, ?_⟩
  split at hround
  next hscale =>
    refine le_nearestMagnitude hround Nat.one_pos ?_
    have hpow : 2 ^ (k + l) ≤ 2 ^ 52 * 2 ^ 52 * 2 ^ (a.exponent + b.exponent).toNat := by
      rw [← Nat.pow_add, ← Nat.pow_add]
      exact Nat.pow_le_pow_right (by decide) (by omega)
    rw [Nat.one_mul]
    exact hpow.trans (Nat.mul_le_mul_right _ hproduct)
  next hscale =>
    have hpos : 0 < 1 * 2 ^ (-(a.exponent + b.exponent)).toNat :=
      Nat.mul_pos Nat.one_pos (Nat.two_pow_pos _)
    refine le_nearestMagnitude hround hpos ?_
    refine Nat.le_trans ?_ hproduct
    rw [Nat.one_mul, Nat.pow_eq, ← Nat.pow_add, ← Nat.pow_add]
    exact Nat.pow_le_pow_right (by decide) (by omega)

/-- A finite double that reaches `2 ^ 52` stands for a whole number, as great as the power of two.
-/
theorem toInt?_ofMagnitude (h : magnitude < infinityBits) (hk : (k + 1023) * 2 ^ 52 ≤ magnitude)
    (hfifty : 52 ≤ k) (negative : Bool) :
    ∃ n : Nat, 2 ^ k ≤ n ∧
      (ofMagnitude negative magnitude).toInt? = some (if negative then -(n : Int) else n) := by
  have hbits := lt_of_le_infinityBits h.le
  have hreaches : (ofMagnitude negative magnitude).Reaches k := reaches_ofMagnitude h.le hk negative
  have hfinite : (ofMagnitude negative magnitude).isFinite = true := by
    rw [isFinite, exponentField_ofMagnitude hbits, bne_iff_ne]
    rw [infinityBits, Nat.pow_eq] at h
    omega
  have hexponent : 0 ≤ (ofMagnitude negative magnitude).exponent := by
    have := hreaches.exponent
    omega
  refine ⟨(ofMagnitude negative magnitude).significand *
    2 ^ (ofMagnitude negative magnitude).exponent.toNat, ?_, ?_⟩
  · have hpow : 2 ^ k ≤ 2 ^ 52 * 2 ^ (ofMagnitude negative magnitude).exponent.toNat := by
      have := hreaches.exponent
      rw [← Nat.pow_add]
      exact Nat.pow_le_pow_right (by decide) (by omega)
    exact hpow.trans (Nat.mul_le_mul_right _ hreaches.significand)
  · rw [toInt?, if_pos hfinite, isNegative_ofMagnitude hbits]
    simp only [if_pos hexponent, Nat.pow_eq]
    rfl

end DeviceHub.Double
