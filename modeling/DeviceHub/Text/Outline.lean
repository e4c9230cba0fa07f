import DeviceHub.Text.Quoted

/-!
Records as their `Debug` text: on one line, or one field a line, indented by how deep it stands.
-/
namespace DeviceHub

/-- What is shown of a value. -/
inductive Outline where
  | atom (text : String)
  | record (name : String) (fields : List (String × Outline))
  /-- A value that may be missing and is there. -/
  | present (item : Outline)

namespace Outline

def text (s : String) : Outline :=
  atom (Text.quoted s)

def path (s : String) : Outline :=
  atom (Text.quotedPath s)

def nat (n : Nat) : Outline :=
  atom (toString n)

def optional (o : Option Outline) : Outline :=
  (o.map present).getD (atom "None")

mutual

def oneLine : Outline → String
  | atom s => s
  | record name fields => name ++ " \x7b " ++ ", ".intercalate (fieldsOneLine fields) ++ " \x7d"
  | present item => "Some(" ++ oneLine item ++ ")"

def fieldsOneLine : List (String × Outline) → List String
  | [] => []
  | (name, field) :: fields => (name ++ ": " ++ oneLine field) :: fieldsOneLine fields

end

def margin (depth : Nat) : String :=
  "".pushn ' ' (4 * depth)

mutual

/-- One field a line; the first line stands where the text so far ends. -/
def indented (depth : Nat) : Outline → String
  | atom s => s
  | record name fields =>
    name ++ " \x7b\n" ++ fieldsIndented (depth + 1) fields ++ margin depth ++ "\x7d"
  | present item =>
    "Some(\n" ++ margin (depth + 1) ++ indented (depth + 1) item ++ ",\n" ++ margin depth ++ ")"

def fieldsIndented (depth : Nat) : List (String × Outline) → String
  | [] => ""
  | (name, field) :: fields =>
    margin depth ++ name ++ ": " ++ indented depth field ++ ",\n" ++ fieldsIndented depth fields

end

def pretty (o : Outline) : String :=
  indented 0 o

end Outline
end DeviceHub
