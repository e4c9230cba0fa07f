import DeviceHub.Number.Double
import DeviceHub.Toml.Lexical

/-!
Numbers and dates of TOML.  An integer has 64 bits; a float may not exceed the largest double; a
date has to exist.
-/
namespace DeviceHub.Toml

/-- All the digits of a base at the head of a text, single underscores between them. -/
def digitRun? (base : Nat) : Reader (List Nat)
  | [] => none
  | c :: rest =>
    match (Json.hexDigit? c).filter (· < base) with
    | none => none
    | some d =>
      match rest with
      | '_' :: rest => (digitRun? base rest).map fun (ds, rest) => (d :: ds, rest)
      | rest =>
        match digitRun? base rest with
        | some (ds, rest) => some (d :: ds, rest)
        | none => some ([d], rest)

def digitsValue (base : Nat) (digits : List Nat) : Nat :=
  digits.foldl (fun n d => n * base + d) 0

def wholeDigits? : Reader (List Nat) := fun chars =>
  match digitRun? 10 chars with
  | some (0 :: _ :: _, _) => none
  | found => found

/-- A sign, true for minus. -/
def sign? : List Char → Option Bool × List Char
  | '+' :: rest => (some false, rest)
  | '-' :: rest => (some true, rest)
  | chars => (none, chars)

/-- An integer with its sign, when it has 64 bits. -/
def within64? (i : Int) : Option Int :=
  if -Int.pow 2 63 ≤ i ∧ i < Int.pow 2 63 then some i else none

/-- An integer in decimal, or without a sign in base 16, 8 or 2. -/
def integer? : Reader Int := fun chars =>
  let based (base : Nat) (rest : List Char) : Option (Int × List Char) :=
    (digitRun? base rest).bind fun (ds, rest) =>
      (within64? (digitsValue base ds)).map (·, rest)
  match chars with
  | '0' :: 'x' :: rest => based 16 rest
  | '0' :: 'o' :: rest => based 8 rest
  | '0' :: 'b' :: rest => based 2 rest
  | chars =>
    let (sign, rest) := sign? chars
    (wholeDigits? rest).bind fun (ds, rest) =>
      let n : Int := digitsValue 10 ds
      (within64? (if sign = some true then -n else n)).map (·, rest)

def exponent? : List Char → Option (Option Int × List Char)
  | c :: rest =>
    if c = 'e' ∨ c = 'E' then
      let (sign, rest) := sign? rest
      (digitRun? 10 rest).map fun (ds, rest) =>
        let n : Int := digitsValue 10 ds
        (some (if sign = some true then -n else n), rest)
    else some (none, c :: rest)
  | [] => some (none, [])

/-- Whether a decimal is nearer to the largest double than to what would come after it.  The place
of its first digit decides, unless it is that of the largest double. -/
def fitsDouble (digits : Nat) (exponent : Int) : Bool :=
  let place := (Nat.toDigits 10 digits).length + exponent
  digits == 0 || place < 309 ||
    (place == 309 &&
      (Double.nearestMagnitude (digits * Nat.pow 10 exponent.toNat)
        (Nat.pow 10 (-exponent).toNat)).isSome)

/-- A float; its value is not kept. -/
def float? : Reader Unit := fun chars =>
  let (sign, rest) := sign? chars
  match rest with
  | 'i' :: 'n' :: 'f' :: rest => some ((), rest)
  | 'n' :: 'a' :: 'n' :: rest => some ((), rest)
  | rest => do
    let (whole, rest) ← wholeDigits? rest
    let (fraction, rest) ← match rest with
      | '.' :: rest => (digitRun? 10 rest).map fun (ds, rest) => (some ds, rest)
      | rest => some (none, rest)
    let (exponent, rest) ← exponent? rest
    if fraction.isNone ∧ exponent.isNone then failure
    let places := (fraction.getD []).length
    let digits := digitsValue 10 (whole ++ fraction.getD [])
    if sign ≠ some true ∧ !fitsDouble digits (exponent.getD 0 - places) then failure
    return ((), rest)

def fixed? (count low high : Nat) : Reader Nat := fun chars =>
  let ds := chars.take count
  if ds.length = count ∧ ds.all Char.isDigit then
    let n := ds.foldl (fun n c => n * 10 + (c.toNat - '0'.toNat)) 0
    if low ≤ n ∧ n ≤ high then some (n, chars.drop count) else none
  else none

def exactly? (c : Char) : Reader Unit
  | d :: rest => if d = c then some ((), rest) else none
  | [] => none

def isLeapYear (year : Nat) : Bool :=
  year % 4 == 0 && (year % 100 != 0 || year % 400 == 0)

def daysInMonth (year month : Nat) : Nat :=
  if month = 2 then if isLeapYear year then 29 else 28
  else if month = 4 ∨ month = 6 ∨ month = 9 ∨ month = 11 then 30
  else 31

def date? : Reader Unit := fun chars => do
  let (year, rest) ← fixed? 4 0 9999 chars
  let (_, rest) ← exactly? '-' rest
  let (month, rest) ← fixed? 2 1 12 rest
  let (_, rest) ← exactly? '-' rest
  let (_, rest) ← fixed? 2 1 (daysInMonth year month) rest
  return ((), rest)

def time? : Reader Unit := fun chars => do
  let (_, rest) ← fixed? 2 0 23 chars
  let (_, rest) ← exactly? ':' rest
  let (_, rest) ← fixed? 2 0 59 rest
  let (_, rest) ← exactly? ':' rest
  let (_, rest) ← fixed? 2 0 60 rest
  match rest with
  | '.' :: rest =>
    let ds := rest.takeWhile Char.isDigit
    if ds.isEmpty then failure
    return ((), rest.drop ds.length)
  | rest => return ((), rest)

def offset? : Reader Unit := fun chars =>
  match chars with
  | 'Z' :: rest | 'z' :: rest => some ((), rest)
  | c :: rest =>
    if c = '+' ∨ c = '-' then do
      let (_, rest) ← fixed? 2 0 23 rest
      let (_, rest) ← exactly? ':' rest
      let (_, rest) ← fixed? 2 0 59 rest
      return ((), rest)
    else none
  | [] => none

/-- A date, a time or both; its value is not kept. -/
def datetime? : Reader Unit := fun chars =>
  match date? chars with
  | none => time? chars
  | some (_, rest) =>
    let withTime : Option (Unit × List Char) := match rest with
      | c :: rest =>
        if c = 'T' ∨ c = 't' ∨ c = ' ' then
          (time? rest).map fun (_, rest) => ((), ((offset? rest).map Prod.snd).getD rest)
        else none
      | [] => none
    some (withTime.getD ((), rest))

end DeviceHub.Toml
