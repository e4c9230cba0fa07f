import DeviceHub.Number.Double

/-!
The shortest decimal that reads back as a given double.  The decimals of one digit count form a
grid; the first grid with a point inside the rounding interval of the double wins, and of its points
the one nearest to the double.
-/
namespace DeviceHub.Double

structure Decimal where
  digits : Nat
  exponent : Int

def digitCount (n : Nat) : Nat :=
  (Nat.toDigits 10 n).length

/-- The rounding interval of a positive double and the double itself, over one denominator. -/
structure Interval where
  low : Nat
  value : Nat
  high : Nat
  den : Nat
  closed : Bool

/-- Half way to both neighbours; the ends belong to the interval when the significand is even. -/
def interval (d : Double) : Interval :=
  let m := d.significand
  let q := d.exponent - 2
  let below := if d.fraction = 0 ∧ 1 < d.exponentField then 1 else 2
  let up := if 0 ≤ q then Nat.pow 2 q.toNat else 1
  let den := if 0 ≤ q then 1 else Nat.pow 2 (-q).toNat
  ⟨(4 * m - below) * up, 4 * m * up, (4 * m + 2) * up, den, m % 2 == 0⟩

def leadingExponent (value den : Nat) : Int :=
  if den ≤ value then digitCount (value / den) - 1
  else -(digitCount ((den - 1) / value) : Int)

/-- The grid point of `count` digits that lies in the interval and is nearest to its value. -/
def gridPoint? (i : Interval) (count : Nat) : Option Decimal :=
  let step := leadingExponent i.value i.den - count + 1
  let up := if 0 ≤ step then 1 else Nat.pow 10 (-step).toNat
  let den := if 0 ≤ step then i.den * Nat.pow 10 step.toNat else i.den
  let inside (c : Nat) : Bool :=
    if i.closed then i.low * up ≤ c * den && c * den ≤ i.high * up
    else i.low * up < c * den && c * den < i.high * up
  let below := i.value * up / den
  let toBelow := i.value * up - below * den
  let toAbove := (below + 1) * den - i.value * up
  let nearer :=
    if toBelow < toAbove ∨ (toBelow = toAbove ∧ below % 2 = 0) then [below, below + 1]
    else [below + 1, below]
  (nearer.find? inside).map fun digits => ⟨digits, step⟩

def Decimal.trimZeros (d : Decimal) : Nat → Decimal
  | 0 => d
  | fuel + 1 =>
    if d.digits ≠ 0 ∧ d.digits % 10 = 0 then
      Decimal.trimZeros ⟨d.digits / 10, d.exponent + 1⟩ fuel
    else d

/-- The shortest decimal of a finite double's magnitude; seventeen digits always suffice. -/
def shortest (d : Double) : Decimal :=
  if d.significand = 0 then ⟨0, 0⟩
  else
    (((List.range 17).findSome? fun n => gridPoint? d.interval (n + 1)).getD ⟨0, 0⟩).trimZeros 18

end DeviceHub.Double
