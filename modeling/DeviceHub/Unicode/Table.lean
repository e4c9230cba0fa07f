import DeviceHub.Text.Percent
import DeviceHub.Text.Split

/-!
Properties of code points as tables.  A table is written in words like `100-12E/2>101`: a first
and a last code point, a step between them, and after `>` the code points that are listed for the
first, all in base sixteen.  Only the first part has to be there.
-/
namespace DeviceHub.Unicode

/-- Every `step`th code point from `first` to `last`, and what is listed for `first`. -/
structure Row where
  first : Nat
  last : Nat
  step : Nat
  values : List Nat

def number? (digits : List Char) : Option Nat :=
  if digits.isEmpty then none
  else digits.foldlM (fun n c => (Text.hexValue? c.toNat).map (n * 16 + ·)) 0

def Row.ofWord? (word : List Char) : Option Row := do
  let (points, values) := (Text.cutAt? (· == '>') word).getD (word, [])
  let (range, step) := (Text.cutAt? (· == '/') points).getD (points, ['1'])
  let (first, last) := (Text.cutAt? (· == '-') range).getD (range, range)
  let values ← if values.isEmpty then some [] else (Text.splitBy (· == ',') values).mapM number?
  return ⟨← number? first, ← number? last, ← number? step, values⟩

def Row.Holds (row : Row) (point : Nat) : Prop :=
  row.first ≤ point ∧ point ≤ row.last ∧ (point - row.first) % row.step = 0

instance (row : Row) (point : Nat) : Decidable (row.Holds point) :=
  inferInstanceAs (Decidable (_ ∧ _ ∧ _))

/-- Rows in ascending order, no two of which overlap. -/
structure Table where
  rows : Array Row

namespace Table

def ofLines (lines : List String) : Table :=
  ⟨(lines.flatMap fun line => (Text.splitBy (· == ' ') line.toList).filterMap Row.ofWord?).toArray⟩

/-- Looks for the row with a code point between two places, by halving. -/
def seek (table : Table) (point low high : Nat) : Option Row :=
  if low < high then
    match table.rows[(low + high) / 2]? with
    | none => none
    | some row =>
      if point < row.first then seek table point low ((low + high) / 2)
      else if row.last < point then seek table point ((low + high) / 2 + 1) high
      else if row.Holds point then some row
      else none
  else none
termination_by high - low

def find? (table : Table) (point : Nat) : Option Row :=
  table.seek point 0 table.rows.size

def contains (table : Table) (c : Char) : Bool :=
  (table.find? c.toNat).isSome

/-- What is listed for a code point: what is listed for the first of its row, moved along. -/
def values? (table : Table) (point : Nat) : Option (List Nat) :=
  (table.find? point).map fun row => row.values.map (· + (point - row.first))

end Table
end DeviceHub.Unicode
