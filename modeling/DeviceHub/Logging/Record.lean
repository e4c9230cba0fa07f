import DeviceHub.Json.Printer
import DeviceHub.Logging.Settings
import DeviceHub.Text.Quoted

/-!
What is logged: records, with details, told within spans of work.  A record is written as a JSON
object, or as a line of text with the level, the spans, the message and all details.
-/
namespace DeviceHub.Logging

inductive Detail where
  /-- In quotes where details are told in a line. -/
  | text (s : String)
  | plain (s : String)
  | int (i : Int64)
  deriving DecidableEq

structure Span where
  name : String
  target : String
  details : List (String × Detail) := []
  deriving DecidableEq

structure Record where
  level : Level
  target : String
  message : String
  details : List (String × Detail) := []
  /-- The span it is told of, and those around it, the outermost first. -/
  scope : List Span := []
  /-- Whether work goes on in the innermost span; not so when its begin or end is told. -/
  entered : Bool := true
  deriving DecidableEq

namespace Detail

def value : Detail → Value
  | text s | plain s => .string s
  | int i => .int i

def shown : Detail → String
  | text s => Text.quoted s
  | plain s => s
  | int i => toString i.toInt

def line (details : List (String × Detail)) : String :=
  String.join (details.map fun (name, detail) => " " ++ name ++ "=" ++ detail.shown)

def mapping (details : List (String × Detail)) : Mapping :=
  KeyMap.ofList (details.map fun (name, detail) => (name, detail.value))

end Detail

def Span.value (s : Span) : Value :=
  .mapping (KeyMap.insert "name" (.string s.name) (Detail.mapping s.details))

def Span.told (message : String) (s : Span) : Record :=
  ⟨.info, s.target, message, [], [s], false⟩

namespace Record

def within (s : Span) (r : Record) : Record :=
  { r with scope := s :: r.scope }

def object (r : Record) : Mapping :=
  let spans := if r.entered then r.scope else r.scope.dropLast
  let scope : List (String × Value) := match r.scope.getLast? with
    | none => []
    | some s => [("span", s.value), ("spans", .sequence (spans.map Span.value))]
  KeyMap.ofList ([
    ("fields", .mapping (KeyMap.insert "message" (.string r.message) (Detail.mapping r.details))),
    ("level", .string r.level.name),
    ("target", .string r.target)] ++ scope)

/-- What terminals act upon is written by number. -/
def messageChar (c : Char) : List Char :=
  if ['\x07', '\x08', '\x0c', '\x1b', '\x7f'].contains c then
    ['\\', 'x', Nat.digitChar (c.toNat / 16), Nat.digitChar (c.toNat % 16)]
  else if 0x80 ≤ c.toNat ∧ c.toNat ≤ 0x9F then
    ['\\', 'u', '\x7b'] ++ Text.hexDigits c.toNat ++ ['\x7d']
  else [c]

/-- As wide as the longest level. -/
def paddedLevel (level : Level) : String :=
  "".pushn ' ' (5 - level.name.length) ++ level.name

def told (r : Record) : String :=
  let names := String.join (r.scope.map fun s => s.name ++ ":")
  (if names = "" then "" else names ++ " ") ++
    String.ofList (r.message.toList.flatMap messageChar) ++ Detail.line r.details ++
    String.join (r.scope.map fun s => Detail.line s.details)

def write (format : Format) (time : String) (r : Record) : String :=
  match format with
  | .json => (Value.mapping (KeyMap.insert "timestamp" (.string time) r.object)).toJsonString
  | .compact => time ++ " " ++ paddedLevel r.level ++ " " ++ r.told
  | .pretty =>
    "  " ++ time ++ " " ++ paddedLevel r.level ++ " " ++ r.target ++ ": " ++ r.told ++ "\n"

end Record
end DeviceHub.Logging
