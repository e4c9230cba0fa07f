import DeviceHub.Text.Integer
import DeviceHub.Value

/-!
Numbers of JSON text, for `from_json_slice`.  An integer that fits 64 bits is exact.  Any other
number is a float: its digits are gathered into a significand of at most 64 bits, digits that do not
fit are dropped, and the significand is scaled by a power of ten in at most a few rounded steps.  A
number beyond the largest double is refused.
-/
namespace DeviceHub.Json

def maxSignificand : Nat := Nat.pow 2 64 - 1

structure Gathered where
  significand : Nat
  exponent : Int

/-- Gathers the digits before the point: those that do not fit are counted. -/
def gatherWhole (significand : Nat) : List Nat → Gathered
  | [] => ⟨significand, 0⟩
  | d :: ds =>
    if significand * 10 + d ≤ maxSignificand then gatherWhole (significand * 10 + d) ds
    else ⟨significand, (d :: ds).length⟩

/-- Gathers the digits after the point up to the first that does not fit. -/
def gatherFraction (g : Gathered) : List Nat → Gathered
  | [] => g
  | d :: ds =>
    if g.significand * 10 + d ≤ maxSignificand then
      gatherFraction ⟨g.significand * 10 + d, g.exponent - 1⟩ ds
    else g

def maxPower : Nat := 308

def powerOfTen (n : Nat) : Double :=
  Double.ofInt (Nat.pow 10 n)

/-- Scales a double by a power of ten; `none` when the result is too large. -/
def scale? : Nat → Double → Int → Option Double
  | 0, d, _ => some d
  | fuel + 1, d, exponent =>
    if exponent.natAbs ≤ maxPower then
      if 0 ≤ exponent then d.mul? (powerOfTen exponent.toNat)
      else d.div? (powerOfTen exponent.natAbs)
    else if d.significand = 0 then some d
    else if 0 ≤ exponent then none
    else (d.div? (powerOfTen maxPower)).bind fun d => scale? fuel d (exponent + maxPower)

/-- Divisions by the largest power after which nothing is left of a significand. -/
def scaleSteps : Nat := 4

def maxExponent : Nat := Nat.pow 2 31 - 1

structure NumberText where
  negative : Bool
  whole : List Nat
  fraction : Option (List Nat)
  exponent : Option (Bool × List Nat)

def digitsValue (digits : List Nat) : Nat :=
  digits.foldl (fun n d => n * 10 + d) 0

def Gathered.toDouble? (g : Gathered) (negative : Bool) : Option Double :=
  (scale? scaleSteps (Double.ofInt g.significand) g.exponent).map fun d =>
    if negative then d.neg else d

def zero (negative : Bool) : Double :=
  Double.ofMagnitude negative 0

/-- The float of a number with a fraction, an exponent or too many digits. -/
def NumberText.toDouble? (n : NumberText) : Option Double :=
  let g := gatherFraction (gatherWhole 0 n.whole) (n.fraction.getD [])
  match n.exponent with
  | none => g.toDouble? n.negative
  | some (negative, digits) =>
    if maxExponent < digitsValue digits then
      if g.significand ≠ 0 ∧ !negative then none else some (zero n.negative)
    else
      let written : Int := digitsValue digits
      Gathered.toDouble? ⟨g.significand, g.exponent + if negative then -written else written⟩
        n.negative

def NumberText.value? (n : NumberText) : Option Value :=
  match n.fraction, n.exponent with
  | none, none =>
    let i : Int := if n.negative then -(digitsValue n.whole : Int) else digitsValue n.whole
    if i = 0 ∧ n.negative then some (.float (zero true))
    else if -Int.pow 2 63 ≤ i ∧ i < Int.pow 2 63 then some (.int (Int64.ofInt i))
    else n.toDouble?.map .float
  | _, _ => n.toDouble?.map .float

def spanDigits : List Char → List Nat × List Char
  | [] => ([], [])
  | c :: rest =>
    match Text.digitValue? c with
    | some d => let (ds, rest) := spanDigits rest; (d :: ds, rest)
    | none => ([], c :: rest)

/-- No zero stands before other digits. -/
def wholeDigits? (chars : List Char) : Option (List Nat × List Char) :=
  match spanDigits chars with
  | ([], _) => none
  | (0 :: _ :: _, _) => none
  | span => some span

def fractionDigits? : List Char → Option (Option (List Nat) × List Char)
  | '.' :: rest =>
    match spanDigits rest with
    | ([], _) => none
    | (digits, rest) => some (some digits, rest)
  | chars => some (none, chars)

def exponentDigits? (chars : List Char) : Option (Option (Bool × List Nat) × List Char) :=
  let digits (negative : Bool) (rest : List Char) :=
    match spanDigits rest with
    | ([], _) => none
    | (digits, rest) => some (some (negative, digits), rest)
  match chars with
  | c :: rest =>
    if c = 'e' ∨ c = 'E' then
      match rest with
      | '-' :: rest => digits true rest
      | '+' :: rest => digits false rest
      | rest => digits false rest
    else some (none, c :: rest)
  | [] => some (none, [])

def parseNumber (chars : List Char) : Option (Value × List Char) := do
  let (negative, chars) := match chars with
    | '-' :: rest => (true, rest)
    | chars => (false, chars)
  let (whole, chars) ← wholeDigits? chars
  let (fraction, chars) ← fractionDigits? chars
  let (exponent, chars) ← exponentDigits? chars
  let value ← NumberText.value? ⟨negative, whole, fraction, exponent⟩
  return (value, chars)

end DeviceHub.Json
