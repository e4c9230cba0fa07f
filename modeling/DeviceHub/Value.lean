import DeviceHub.Error
import DeviceHub.KeyMap
import DeviceHub.Number.Double

/-!
`Value`: what messages carry and property maps hold.  A question for one kind of value answers with
a decode error when the value is of another kind, never with a default.
-/
namespace DeviceHub

/-- The fields of a mapping stand in ascending order of their keys, each key once; `KeyMap.insert`
keeps it so. -/
inductive Value where
  | null
  | bool (b : Bool)
  | int (i : Int64)
  | float (d : Double)
  | string (s : String)
  | sequence (items : List Value)
  | mapping (fields : List (String × Value))
  deriving Inhabited

abbrev Mapping := KeyMap Value

namespace Value

def kind : Value → String
  | null => "null"
  | bool _ => "bool"
  | int _ => "int"
  | float _ => "float"
  | string _ => "string"
  | sequence _ => "sequence"
  | mapping _ => "mapping"

def isNull : Value → Bool
  | null => true
  | _ => false

def mismatch {α : Type} (expected : String) (actual : Value) : HubResult α :=
  .error (.decode ("expected " ++ expected ++ ", got " ++ actual.kind))

def asBool : Value → HubResult Bool
  | bool b => .ok b
  | other => mismatch "bool" other

/-- JSON does not tell `2` from `2.0`, so a float without fractional part counts, at the
nearest integer of 64 bits. -/
def asInt64 : Value → HubResult Int64
  | int i => .ok i
  | float d =>
    match d.toInt? with
    | some i => .ok (saturateInt64 i)
    | none => mismatch "int" (float d)
  | other => mismatch "int" other

/-- An integer counts as the double nearest to it. -/
def asDouble : Value → HubResult Double
  | float d => .ok d
  | int i => .ok (Double.ofInt i.toInt)
  | other => mismatch "float" other

def asString : Value → HubResult String
  | string s => .ok s
  | other => mismatch "string" other

def asSequence : Value → HubResult (List Value)
  | sequence items => .ok items
  | other => mismatch "sequence" other

def asMapping : Value → HubResult Mapping
  | mapping fields => .ok fields
  | other => mismatch "mapping" other

/-- From position `i` on, which the error tells. -/
def stringsFrom (i : Nat) : List Value → HubResult (List String)
  | [] => .ok []
  | string s :: rest => (stringsFrom (i + 1) rest).map (s :: ·)
  | other :: _ =>
    .error (.decode ("element " ++ toString i ++ ": expected string, got " ++ other.kind))

def toStringList (v : Value) : HubResult (List String) :=
  v.asSequence.bind (stringsFrom 0)

def get (key : String) (v : Value) : HubResult Value :=
  v.asMapping.bind fun fields =>
    match KeyMap.find? key fields with
    | some value => .ok value
    | none => .error (.decode ("missing key " ++ Text.quoted key))

end Value
end DeviceHub
