/-!
Whole numbers in decimal.  Writing never uses a plus sign or leading zeros; reading accepts one
sign of either kind and any number of digits, and refuses what lies outside the stated range.
-/
namespace DeviceHub.Text

def digitValue? (c : Char) : Option Nat :=
  if '0' ≤ c ∧ c ≤ '9' then some (c.toNat - '0'.toNat) else none

/-- The number a list of digits writes when it follows the digits of `n`. -/
def readDigits (n : Nat) : List Char → Option Nat
  | [] => some n
  | c :: rest => (digitValue? c).bind fun d => readDigits (n * 10 + d) rest

/-- A number of at least one digit. -/
def readNat? : List Char → Option Nat
  | [] => none
  | chars => readDigits 0 chars

/-- A number with an optional sign. -/
def readInt? : List Char → Option Int
  | '-' :: rest => (readNat? rest).map fun n => -(n : Int)
  | '+' :: rest => (readNat? rest).map fun n => (n : Int)
  | chars => (readNat? chars).map fun n => (n : Int)

def readIntWithin? (low high : Int) (s : String) : Option Int :=
  (readInt? s.toList).filter fun i => low ≤ i ∧ i ≤ high

def readInt32? (s : String) : Option Int :=
  readIntWithin? (-Int.pow 2 31) (Int.pow 2 31 - 1) s

def readInt64? (s : String) : Option Int64 :=
  (readIntWithin? (-Int.pow 2 63) (Int.pow 2 63 - 1) s).map Int64.ofInt

end DeviceHub.Text
