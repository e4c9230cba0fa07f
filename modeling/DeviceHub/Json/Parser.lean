import DeviceHub.Json.Number
import DeviceHub.Text.Utf8

/-!
`from_json_slice` of `Value`.  The whole document has to be well-formed UTF-8 and one value;
containers nest at most 127 deep; of two fields with one name the later wins.  The parser works on
characters and carries as fuel one more than their number, which it cannot use up.
-/
namespace DeviceHub.Json

def skipBlanks : List Char → List Char
  | [] => []
  | c :: rest =>
    if c = ' ' ∨ c = '\t' ∨ c = '\n' ∨ c = '\r' then skipBlanks rest else c :: rest

def hexDigit? (c : Char) : Option Nat :=
  if '0' ≤ c ∧ c ≤ '9' then some (c.toNat - '0'.toNat)
  else if 'a' ≤ c ∧ c ≤ 'f' then some (c.toNat - 'a'.toNat + 10)
  else if 'A' ≤ c ∧ c ≤ 'F' then some (c.toNat - 'A'.toNat + 10)
  else none

def hexUnit? (a b c d : Char) : Option Nat := do
  return (((← hexDigit? a) * 16 + (← hexDigit? b)) * 16 + (← hexDigit? c)) * 16 + (← hexDigit? d)

def simpleEscape? (c : Char) : Option Char :=
  match c with
  | '"' => some '"'
  | '\\' => some '\\'
  | '/' => some '/'
  | 'b' => some '\x08'
  | 'f' => some '\x0C'
  | 'n' => some '\n'
  | 'r' => some '\r'
  | 't' => some '\t'
  | _ => none

/-- Half of a surrogate pair, the first of the two. -/
def isHighHalf (unit : Nat) : Bool := 0xD800 ≤ unit && unit ≤ 0xDBFF

def isLowHalf (unit : Nat) : Bool := 0xDC00 ≤ unit && unit ≤ 0xDFFF

/-- The rest of a string after its opening quote, up to and with its closing quote. -/
def parseStringTail : List Char → Option (List Char × List Char)
  | [] => none
  | '"' :: rest => some ([], rest)
  | '\\' :: 'u' :: a :: b :: c :: d :: rest =>
    (hexUnit? a b c d).bind fun unit =>
      if isHighHalf unit then
        match rest with
        | '\\' :: 'u' :: e :: f :: g :: h :: rest =>
          (hexUnit? e f g h).bind fun low =>
            if isLowHalf low then
              (parseStringTail rest).map fun (cs, rest) =>
                (Char.ofNat (0x10000 + (unit - 0xD800) * 0x400 + (low - 0xDC00)) :: cs, rest)
            else none
        | _ => none
      else if isLowHalf unit then none
      else (parseStringTail rest).map fun (cs, rest) => (Char.ofNat unit :: cs, rest)
  | '\\' :: c :: rest =>
    (simpleEscape? c).bind fun c => (parseStringTail rest).map fun (cs, rest) => (c :: cs, rest)
  | c :: rest =>
    if c.toNat < 0x20 ∨ c = '\\' then none
    else (parseStringTail rest).map fun (cs, rest) => (c :: cs, rest)

def maxDepth : Nat := 127

mutual

/-- A value, with what may follow blanks; `depth` containers may still be opened. -/
def parseValue (depth : Nat) : Nat → List Char → Option (Value × List Char)
  | 0, _ => none
  | fuel + 1, chars =>
    match skipBlanks chars with
    | 'n' :: 'u' :: 'l' :: 'l' :: rest => some (.null, rest)
    | 't' :: 'r' :: 'u' :: 'e' :: rest => some (.bool true, rest)
    | 'f' :: 'a' :: 'l' :: 's' :: 'e' :: rest => some (.bool false, rest)
    | '"' :: rest => (parseStringTail rest).map fun (cs, rest) => (.string (String.ofList cs), rest)
    | '[' :: rest =>
      match depth with
      | 0 => none
      | depth + 1 =>
        match skipBlanks rest with
        | ']' :: rest => some (.sequence [], rest)
        | rest => (parseItems depth fuel rest).map fun (items, rest) => (.sequence items, rest)
    | '\x7b' :: rest =>
      match depth with
      | 0 => none
      | depth + 1 =>
        match skipBlanks rest with
        | '\x7d' :: rest => some (.mapping [], rest)
        | rest =>
          (parseFields depth fuel [] rest).map fun (fields, rest) => (.mapping fields, rest)
    | chars => parseNumber chars

/-- One or more items up to and with the closing bracket. -/
def parseItems (depth : Nat) : Nat → List Char → Option (List Value × List Char)
  | 0, _ => none
  | fuel + 1, chars =>
    (parseValue depth fuel chars).bind fun (item, rest) =>
      match skipBlanks rest with
      | ']' :: rest => some ([item], rest)
      | ',' :: rest => (parseItems depth fuel rest).map fun (items, rest) => (item :: items, rest)
      | _ => none

/-- One or more fields up to and with the closing brace, added to those already read. -/
def parseFields (depth : Nat) : Nat → Mapping → List Char → Option (Mapping × List Char)
  | 0, _, _ => none
  | fuel + 1, fields, chars =>
    match skipBlanks chars with
    | '"' :: rest =>
      (parseStringTail rest).bind fun (key, rest) =>
        match skipBlanks rest with
        | ':' :: rest =>
          (parseValue depth fuel rest).bind fun (value, rest) =>
            let fields := KeyMap.insert (String.ofList key) value fields
            match skipBlanks rest with
            | '\x7d' :: rest => some (fields, rest)
            | ',' :: rest => parseFields depth fuel fields rest
            | _ => none
        | _ => none
    | _ => none

end

def parse? (chars : List Char) : Option Value :=
  match parseValue maxDepth (chars.length + 1) chars with
  | some (value, rest) => if (skipBlanks rest).isEmpty then some value else none
  | none => none

def malformed : String := "not a JSON document"

end DeviceHub.Json

/-- The value of a JSON document, as `from_json_slice` reads it. -/
def DeviceHub.Value.ofJson (bytes : Bytes) : HubResult Value :=
  match (Text.decode? bytes).bind fun text => Json.parse? text.toList with
  | some value => .ok value
  | none => .error (.decode Json.malformed)
