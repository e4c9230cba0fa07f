/-!
Binary floating point of 64 bits, kept as its bits and computed in exact whole numbers.  Every
operation finds the exact result as a ratio and then takes the nearest double, the even one of two
that are equally near.
-/
namespace DeviceHub

structure Double where
  bits : UInt64
  deriving DecidableEq, Inhabited

namespace Double

def isNegative (d : Double) : Bool :=
  Nat.pow 2 63 ≤ d.bits.toNat

def exponentField (d : Double) : Nat :=
  d.bits.toNat / Nat.pow 2 52 % 2048

def fraction (d : Double) : Nat :=
  d.bits.toNat % Nat.pow 2 52

def isFinite (d : Double) : Bool :=
  d.exponentField != 2047

def isNaN (d : Double) : Bool :=
  d.exponentField == 2047 && d.fraction != 0

/-- The whole number `m` of a finite magnitude `m * 2 ^ q`. -/
def significand (d : Double) : Nat :=
  if d.exponentField = 0 then d.fraction else d.fraction + Nat.pow 2 52

/-- The exponent `q` of a finite magnitude `m * 2 ^ q`. -/
def exponent (d : Double) : Int :=
  (if d.exponentField = 0 then 1 else d.exponentField : Nat) - 1075

def ofMagnitude (negative : Bool) (magnitude : Nat) : Double :=
  ⟨UInt64.ofNat (magnitude + if negative then Nat.pow 2 63 else 0)⟩

/-- The magnitude bits of infinity, the first that stand for no number. -/
def infinityBits : Nat := 2047 * Nat.pow 2 52

/-- The whole number nearest to a ratio, the even one of two. -/
def roundRatio (num den : Nat) : Nat :=
  let whole := num / den
  let twice := 2 * (num % den)
  if den < twice ∨ (twice = den ∧ whole % 2 = 1) then whole + 1 else whole

/-- Magnitude bits of the double nearest to `num / den`; `none` when that is infinity. -/
def nearestMagnitude (num den : Nat) : Option Nat :=
  if num = 0 then some 0
  else
    let guess : Int := (num.log2 : Int) - den.log2
    let fits : Bool :=
      if 0 ≤ guess then den * Nat.pow 2 guess.toNat ≤ num else den ≤ num * Nat.pow 2 (-guess).toNat
    let top := if fits then guess else guess - 1
    let q := max (top - 52) (-1074)
    let m :=
      if 0 ≤ q then roundRatio num (den * Nat.pow 2 q.toNat)
      else roundRatio (num * Nat.pow 2 (-q).toNat) den
    let magnitude := (q + 1074).toNat * Nat.pow 2 52 + m
    if magnitude < infinityBits then some magnitude else none

/-- The double nearest to `num / den * 2 ^ scale`; `none` when that is infinity. -/
def ofScaledRatio? (negative : Bool) (num den : Nat) (scale : Int) : Option Double :=
  (if 0 ≤ scale then nearestMagnitude (num * Nat.pow 2 scale.toNat) den
    else nearestMagnitude num (den * Nat.pow 2 (-scale).toNat)).map (ofMagnitude negative)

def infinity (negative : Bool) : Double :=
  ofMagnitude negative infinityBits

def ofInt (i : Int) : Double :=
  (ofScaledRatio? (i < 0) i.natAbs 1 0).getD (infinity (i < 0))

def neg (d : Double) : Double :=
  ⟨UInt64.ofNat ((d.bits.toNat + Nat.pow 2 63) % Nat.pow 2 64)⟩

/-- The product of two finite doubles; `none` when it is infinite. -/
def mul? (a b : Double) : Option Double :=
  ofScaledRatio? (a.isNegative != b.isNegative) (a.significand * b.significand) 1
    (a.exponent + b.exponent)

/-- The quotient of two finite doubles, the second not zero; `none` when it is infinite. -/
def div? (a b : Double) : Option Double :=
  ofScaledRatio? (a.isNegative != b.isNegative) a.significand b.significand
    (a.exponent - b.exponent)

def toInt? (d : Double) : Option Int :=
  if d.isFinite then
    let magnitude : Option Nat :=
      if 0 ≤ d.exponent then some (d.significand * Nat.pow 2 d.exponent.toNat)
      else if d.significand % Nat.pow 2 (-d.exponent).toNat = 0 then
        some (d.significand / Nat.pow 2 (-d.exponent).toNat)
      else none
    magnitude.map fun n => if d.isNegative then -(n : Int) else n
  else none

end Double

/-- The 64-bit integer nearest to a whole number: values outside the range go to its ends. -/
def saturateInt64 (i : Int) : Int64 :=
  if i < -Int.pow 2 63 then Int64.minValue
  else if Int.pow 2 63 - 1 < i then Int64.maxValue
  else Int64.ofInt i

end DeviceHub
