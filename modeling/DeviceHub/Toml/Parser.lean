import DeviceHub.Toml.Document
import DeviceHub.Toml.Scalar

/-!
Reading TOML texts: values, then the lines of a document.  Arrays and inline tables nest less than
eighty deep, and a key has fewer than eighty parts.
-/
namespace DeviceHub.Toml

def maxDepth : Nat := 79

def boundedKey? (fuel : Nat) : Reader Path := fun chars =>
  (key? fuel chars).filter fun (parts, _) => parts.length ≤ maxDepth

def scalar? : Reader Toml := fun chars =>
  match datetime? chars with
  | some (_, rest) => some (datetime, rest)
  | none =>
    match float? chars with
    | some (_, rest) => some (float, rest)
    | none => (integer? chars).map fun (i, rest) => (integer i, rest)

mutual

/-- A value; `depth` containers may still be opened. -/
def value? (depth : Nat) : Nat → List Char → Option (Toml × List Char)
  | 0, _ => none
  | fuel + 1, chars =>
    match chars with
    | 't' :: 'r' :: 'u' :: 'e' :: rest => some (boolean true, rest)
    | 'f' :: 'a' :: 'l' :: 's' :: 'e' :: rest => some (boolean false, rest)
    | '[' :: rest =>
      match depth with
      | 0 => none
      | depth + 1 => (items? depth fuel rest).map fun (items, rest) => (array items, rest)
    | '\x7b' :: rest =>
      match depth with
      | 0 => none
      | depth + 1 =>
        match skipSpaces rest with
        | '\x7d' :: rest => some (inline [], rest)
        | rest =>
          (fields? depth fuel root rest).map fun (t, rest) =>
            (inline ((openFields? t).getD []), rest)
    | c :: _ =>
      if c = '"' ∨ c = '\'' then (string? fuel chars).map fun (s, rest) => (string s, rest)
      else scalar? chars
    | [] => none

/-- Items of an array up to and with its closing bracket; a comma may stand before it. -/
def items? (depth : Nat) : Nat → List Char → Option (List Toml × List Char)
  | 0, _ => none
  | fuel + 1, chars =>
    (skipFillers false chars).bind fun chars =>
      match chars with
      | ']' :: rest => some ([], rest)
      | chars =>
        (value? depth fuel chars).bind fun (item, rest) =>
          (skipFillers false rest).bind fun rest =>
            match rest with
            | ',' :: rest => (items? depth fuel rest).map fun (items, rest) => (item :: items, rest)
            | ']' :: rest => some ([item], rest)
            | _ => none

def fields? (depth : Nat) : Nat → Toml → List Char → Option (Toml × List Char)
  | 0, _, _ => none
  | fuel + 1, t, chars =>
    (boundedKey? fuel chars).bind fun (key, rest) =>
      match rest with
      | '=' :: rest =>
        (value? depth fuel (skipSpaces rest)).bind fun (value, rest) =>
          (assign key value t).bind fun t =>
            match skipSpaces rest with
            | ',' :: rest => fields? depth fuel t rest
            | '\x7d' :: rest => some (t, rest)
            | _ => none
      | _ => none

end

/-- A document while its lines are read: what is known and the table lines add to. -/
structure Reading where
  root : Toml
  current : Path

def header? (fuel : Nat) (reading : Reading) (chars : List Char) : Option (Reading × List Char) :=
  let (repeated, chars) := match chars with
    | '[' :: rest => (true, rest)
    | chars => (false, chars)
  (boundedKey? fuel chars).bind fun (path, rest) =>
    let rest? := match repeated, rest with
      | true, ']' :: ']' :: rest => some rest
      | false, ']' :: rest => some rest
      | _, _ => none
    match rest?, path.getLast? with
    | some rest, some last =>
      (updateAt false (if repeated then startElement last else startTable last) path.dropLast
        reading.root).map fun root => (⟨root, path⟩, rest)
    | _, _ => none

def keyValue? (fuel : Nat) (reading : Reading) (chars : List Char) : Option (Reading × List Char) :=
  (boundedKey? fuel chars).bind fun (key, rest) =>
    match rest with
    | '=' :: rest =>
      (value? maxDepth fuel (skipSpaces rest)).bind fun (value, rest) =>
        (updateAt false (assign key value) reading.current reading.root).map fun root =>
          (⟨root, reading.current⟩, rest)
    | _ => none

def lines? : Nat → Reading → List Char → Option Reading
  | 0, _, _ => none
  | fuel + 1, reading, chars =>
    let chars := skipSpaces chars
    match chars with
    | [] => some reading
    | c :: rest =>
      if c = '#' ∨ c = '\n' ∨ c = '\r' then
        (endOfLine? chars).bind fun rest => lines? fuel reading rest
      else
        let line := if c = '[' then header? fuel reading rest else keyValue? fuel reading chars
        line.bind fun (reading, rest) =>
          (endOfLine? rest).bind fun rest => lines? fuel reading rest

/-- The document a text writes; a mark of byte order may stand before it. -/
def parse? (s : String) : Option Toml :=
  let chars := match s.toList with
    | '\uFEFF' :: rest => rest
    | chars => chars
  (lines? (chars.length + 1) ⟨root, []⟩ chars).map Reading.root

def malformed : String := "not a valid TOML document"

end DeviceHub.Toml
