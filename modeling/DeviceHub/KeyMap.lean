/-!
Finite maps from texts, as lists of entries in ascending order of their keys, each key once.
-/
namespace DeviceHub

abbrev KeyMap (α : Type) := List (String × α)

namespace KeyMap

variable {α : Type}

def find? (key : String) : KeyMap α → Option α
  | [] => none
  | (k, v) :: rest => if k = key then some v else find? key rest

/-- In place of an earlier entry. -/
def insert (key : String) (value : α) : KeyMap α → KeyMap α
  | [] => [(key, value)]
  | (k, v) :: rest =>
    if k = key then (key, value) :: rest
    else if key < k then (key, value) :: (k, v) :: rest
    else (k, v) :: insert key value rest

theorem find?_insert_self (key : String) (value : α) (fields : KeyMap α) :
    (fields.insert key value).find? key = some value := by
  induction fields with
  | nil => simp [insert, find?]
  | cons entry rest ih =>
    obtain ⟨k, v⟩ := entry
    unfold insert
    split
    · simp [find?]
    next hne =>
      split
      · simp [find?]
      · simpa [find?, hne] using ih

def erase (key : String) : KeyMap α → KeyMap α
  | [] => []
  | (k, v) :: rest => if k = key then rest else (k, v) :: erase key rest

/-- Later entries win. -/
def insertAll (entries : List (String × α)) (fields : KeyMap α) : KeyMap α :=
  entries.foldl (fun fields (key, value) => insert key value fields) fields

def ofList (entries : List (String × α)) : KeyMap α :=
  insertAll entries []

def Sorted (fields : KeyMap α) : Prop :=
  fields.Pairwise fun a b => a.1 < b.1

end KeyMap
end DeviceHub
