/-!
Cutting a text at separators.  `cutAt?` is for a name and its value, `splitBy` for a list of
segments.
-/
namespace DeviceHub.Text

/-- Cuts at the first element that passes, which is dropped; `none` when none passes. -/
def cutAt? {α : Type} (p : α → Bool) : List α → Option (List α × List α)
  | [] => none
  | a :: rest =>
    if p a then some ([], rest) else (cutAt? p rest).map fun (before, after) => (a :: before, after)

/-- The pieces between the elements that pass; there is always at least one. -/
def splitBy {α : Type} (p : α → Bool) : List α → List (List α)
  | [] => [[]]
  | a :: rest =>
    if p a then [] :: splitBy p rest
    else
      match splitBy p rest with
      | [] => [[a]]
      | piece :: pieces => (a :: piece) :: pieces

def cutOnce? (separator : Char) (s : String) : Option (String × String) :=
  (cutAt? (· == separator) s.toList).map fun (before, after) =>
    (String.ofList before, String.ofList after)

def splitOnChar (separator : Char) (s : String) : List String :=
  (splitBy (· == separator) s.toList).map String.ofList

/-- The lines of a text; a carriage return at the end of a line is not part of it. -/
def lines (s : String) : List String :=
  (splitBy (· == '\n') s.toList).map fun line =>
    String.ofList (if line.getLast? = some '\r' then line.dropLast else line)

def startsWith (start s : String) : Bool :=
  start.toList.isPrefixOf s.toList

/-- What follows a beginning of a text. -/
def after? (start s : String) : Option String :=
  if startsWith start s then some (String.ofList (s.toList.drop start.toList.length)) else none

def joinWith (separator : List Char) : List (List Char) → List Char
  | [] => []
  | [piece] => piece
  | piece :: pieces => piece ++ separator ++ joinWith separator pieces

def occursIn (pattern : List Char) : List Char → Bool
  | [] => pattern.isEmpty
  | c :: rest => pattern.isPrefixOf (c :: rest) || occursIn pattern rest

end DeviceHub.Text
