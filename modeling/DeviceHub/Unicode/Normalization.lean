import DeviceHub.Unicode.Decomposition
import DeviceHub.Unicode.MarkClass

/-!
The composed form of text: every character is taken apart, marks on one letter are sorted by class,
and what can be put together again is.
-/
namespace DeviceHub.Unicode

def syllableBase : Nat := 0xAC00

/-- The parts of a syllable of Hangul: a consonant, a vowel and perhaps a last consonant. -/
def syllableParts (index : Nat) : List Nat :=
  let last := index % 28
  [0x1100 + index / 588, 0x1161 + index % 588 / 28] ++ (if last = 0 then [] else [0x11A7 + last])

def decomposeChar (c : Char) : List Char :=
  let point := c.toNat
  if point < 0xC0 then [c]
  else if syllableBase ≤ point ∧ point < syllableBase + 11172 then
    (syllableParts (point - syllableBase)).map Char.ofNat
  else ((decompositions.values? point).map (·.map Char.ofNat)).getD [c]

/-- Puts a mark before the marks of higher classes at the end of a text, which is reversed. -/
def insertMark (c : Char) : List Char → List Char
  | [] => [c]
  | d :: rest =>
    if 0 < markClass c ∧ markClass c < markClass d then d :: insertMark c rest else c :: d :: rest

/-- A text taken apart, in reverse, the marks on one letter in the order of their classes. -/
def decomposeReversed (chars : List Char) : List Char :=
  (chars.flatMap decomposeChar).foldl (fun done c => insertMark c done) []

def composites : List (List Char × Char) :=
  (decompositions.rows.toList.filter fun row => (neverComposed.find? row.first).isNone).map
    fun row => (row.values.map Char.ofNat, Char.ofNat row.first)

/-- A syllable of Hangul from its first two parts, or with a last consonant added. -/
def composeSyllable? (a b : Nat) : Option Nat :=
  if 0x1100 ≤ a ∧ a < 0x1113 ∧ 0x1161 ≤ b ∧ b < 0x1176 then
    some (syllableBase + ((a - 0x1100) * 21 + (b - 0x1161)) * 28)
  else if syllableBase ≤ a ∧ a < syllableBase + 11172 ∧ (a - syllableBase) % 28 = 0 ∧ 0x11A7 < b ∧
      b < 0x11C3 then some (a + (b - 0x11A7))
  else none

def compose? (a b : Char) : Option Char :=
  if b.toNat < 0x300 then none
  else
    match composeSyllable? a.toNat b.toNat with
    | some point => some (Char.ofNat point)
    | none =>
      let parts := decomposeChar a ++ [b]
      (composites.find? fun entry => entry.1 == parts).map Prod.snd

/-- Text being composed, in reverse: a character that others may join and what stands after it. -/
structure Composing where
  done : List Char
  starter : Char
  after : List Char

/-- Takes in one more character; a mark of the same class between two characters keeps them
apart, and so does a character that is no mark. -/
def Composing.push (s : Composing) (c : Char) : Composing :=
  let joined := match s.after with
    | [] => compose? s.starter c
    | last :: _ => if markClass last < markClass c then compose? s.starter c else none
  match joined with
  | some composed => { s with starter := composed }
  | none =>
    if markClass c = 0 then ⟨s.after ++ s.starter :: s.done, c, []⟩
    else { s with after := c :: s.after }

def Composing.toList (s : Composing) : List Char :=
  (s.after ++ s.starter :: s.done).reverse

def compose (chars : List Char) : List Char :=
  if chars.all (·.toNat < 0x300) then chars
  else
    let parts := (decomposeReversed chars).reverse
    let leading := parts.takeWhile (markClass · ≠ 0)
    match parts.dropWhile (markClass · ≠ 0) with
    | [] => leading
    | c :: rest => leading ++ (rest.foldl Composing.push ⟨[], c, []⟩).toList

end DeviceHub.Unicode
