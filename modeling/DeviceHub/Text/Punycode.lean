import DeviceHub.Text.Split

/-!
Host labels beyond ASCII, written with ASCII letters: the plain characters first, then the others
as insertions in ascending order, each as a number of variable length.
-/
namespace DeviceHub.Punycode

def digit (n : Nat) : Char :=
  if n < 26 then Char.ofNat (0x61 + n) else Char.ofNat (0x30 + (n - 26))

def digitValue? (c : Char) : Option Nat :=
  if 'a' ≤ c ∧ c ≤ 'z' then some (c.toNat - 0x61)
  else if '0' ≤ c ∧ c ≤ '9' then some (c.toNat - 0x30 + 26)
  else none

/-- A digit below this is the last one of its number; `k` counts the digits by thirty-sixes. -/
def threshold (bias k : Nat) : Nat :=
  if k ≤ bias then 1 else if bias + 26 ≤ k then 26 else k - bias

/-- The weight of the next digits after an insertion. -/
def adapt (delta points : Nat) (first : Bool) : Nat :=
  let scaled := if first then delta / 700 else delta / 2
  reduce 64 (scaled + scaled / points) 0
where
  reduce : Nat → Nat → Nat → Nat
    | 0, _, k => k
    | fuel + 1, delta, k =>
      if 455 < delta then reduce fuel (delta / 35) (k + 36) else k + 36 * delta / (delta + 38)

/-- A number as digits whose weights depend on `bias`. -/
def variableDigits (bias : Nat) : Nat → Nat → Nat → List Char
  | 0, _, _ => []
  | fuel + 1, k, q =>
    let least := threshold bias k
    if q < least then [digit q]
    else
      digit (least + (q - least) % (36 - least)) ::
        variableDigits bias fuel (k + 36) ((q - least) / (36 - least))

structure State where
  delta : Nat
  bias : Nat
  handled : Nat

/-- Passes one character of the label while `point` is being inserted. -/
def pass (point basic : Nat) (out : List Char × State) (c : Char) : List Char × State :=
  let (written, s) := out
  if c.toNat < point then (written, { s with delta := s.delta + 1 })
  else if c.toNat = point then
    (written ++ variableDigits s.bias 64 36 s.delta,
      ⟨0, adapt s.delta (s.handled + 1) (s.handled == basic), s.handled + 1⟩)
  else (written, s)

def insertAll (label : List Char) (basic : Nat) : List Nat → Nat → List Char × State → List Char
  | [], _, (written, _) => written
  | point :: points, from_, (written, s) =>
    let s := { s with delta := s.delta + (point - from_) * (s.handled + 1) }
    let (written, s) := label.foldl (pass point basic) (written, s)
    insertAll label basic points (point + 1) (written, { s with delta := s.delta + 1 })

/-- The code points beyond ASCII, ascending and each once. -/
def extendedPoints (label : List Char) : List Nat :=
  (((label.map Char.toNat).filter (128 ≤ ·)).eraseDups).mergeSort (· ≤ ·)

def encode (label : List Char) : List Char :=
  let basic := label.filter (·.toNat < 128)
  let head := if basic.isEmpty then [] else basic ++ ['-']
  insertAll label basic.length (extendedPoints label) 128 (head, ⟨0, 72, basic.length⟩)

def weightLimit : Nat := Nat.pow 2 32

/-- The number at the head of some digits, each digit times its weight, and what follows it. -/
def readNumber? (bias : Nat) : Nat → Nat → List Char → Option (Nat × List Char)
  | _, _, [] => none
  | k, weight, c :: rest =>
    (digitValue? c).bind fun d =>
      let least := threshold bias k
      if d < least then some (d * weight, rest)
      else if weightLimit ≤ weight * (36 - least) then none
      else
        (readNumber? bias (k + 36) (weight * (36 - least)) rest).map fun (n, rest) =>
          (d * weight + n, rest)

/-- What follows a number is shorter than what it was read from. -/
theorem length_readNumber? {bias k weight n : Nat} {chars rest : List Char}
    (h : readNumber? bias k weight chars = some (n, rest)) : rest.length < chars.length := by
  induction chars generalizing k weight n with
  | nil => simp [readNumber?] at h
  | cons c cs ih =>
    obtain ⟨d, -, h⟩ := Option.bind_eq_some_iff.1 h
    by_cases hd : d < threshold bias k
    · simp_all
    · simp only [hd, if_false] at h
      split at h
      · simp at h
      rw [Option.map_eq_some_iff] at h
      obtain ⟨⟨m, r⟩, hr, h⟩ := h
      obtain ⟨-, rfl⟩ := Prod.mk.inj h
      exact Nat.lt_succ_of_lt (ih hr)

/-- Makes the insertions that digits write; the next one goes to `position` or after it, and its
character is `point` or above. -/
def insertNumbers? (bias point position : Nat) (label : List Char) (chars : List Char) :
    Option (List Char) :=
  match chars with
  | [] => some label
  | c :: cs =>
    match _ : readNumber? bias 36 1 (c :: cs) with
    | none => none
    | some (delta, rest) =>
      let points := label.length + 1
      let next := point + (position + delta) / points
      let place := (position + delta) % points
      if next < 0xD800 ∨ (0xE000 ≤ next ∧ next < 0x110000) then
        insertNumbers? (adapt delta points (position == 0)) next (place + 1)
          (label.take place ++ Char.ofNat next :: label.drop place) rest
      else none
termination_by chars.length
decreasing_by exact length_readNumber? (by assumption)

/-- The label that an ASCII form without its mark writes: plain characters up to the last hyphen, if
there are any, then the insertions. -/
def decode? (chars : List Char) : Option (List Char) :=
  match Text.cutAt? (· == '-') chars.reverse with
  | none => insertNumbers? 72 128 0 [] chars
  | some (digits, plain) =>
    if plain.isEmpty then none else insertNumbers? 72 128 0 plain.reverse digits.reverse

end DeviceHub.Punycode
