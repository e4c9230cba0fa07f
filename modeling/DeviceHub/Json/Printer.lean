import DeviceHub.Number.Shortest
import DeviceHub.Text.Utf8
import DeviceHub.Value

/-!
`to_json_vec` of `Value`: compact JSON text without blanks, the keys of a mapping in ascending
order, short escapes for the common controls and `\u00xx` for the others.
-/
namespace DeviceHub.Json

def hexDigit (n : Nat) : Char :=
  if n < 10 then Char.ofNat (0x30 + n) else Char.ofNat (0x61 + (n - 10))

def escapeChar (c : Char) : List Char :=
  if c = '"' then ['\\', '"']
  else if c = '\\' then ['\\', '\\']
  else if c = '\x08' then ['\\', 'b']
  else if c = '\x0C' then ['\\', 'f']
  else if c = '\n' then ['\\', 'n']
  else if c = '\r' then ['\\', 'r']
  else if c = '\t' then ['\\', 't']
  else if c.toNat < 0x20 then
    ['\\', 'u', '0', '0', hexDigit (c.toNat / 16), hexDigit (c.toNat % 16)]
  else [c]

def stringText (s : String) : List Char :=
  '"' :: s.toList.flatMap escapeChar ++ ['"']

/-- How a decimal is laid out: positional while its exponent lies between the two bounds. -/
structure FloatLayout where
  leastExponent : Int
  greatestExponent : Int

/-- JSON numbers are positional from `1e-5` up to below `1e16`. -/
def floatLayout : FloatLayout := ⟨-5, 15⟩

/-- A decimal with at least one digit after the point, or in scientific notation. -/
def decimalText (layout : FloatLayout) (digits : List Char) (exponent : Int) : List Char :=
  let scientific := (digits.length : Int) - 1 + exponent
  if layout.leastExponent ≤ scientific ∧ scientific ≤ layout.greatestExponent then
    if 0 ≤ exponent then digits ++ List.replicate exponent.toNat '0' ++ ['.', '0']
    else
      let places := (-exponent).toNat
      if places < digits.length then
        digits.take (digits.length - places) ++ '.' :: digits.drop (digits.length - places)
      else ['0', '.'] ++ List.replicate (places - digits.length) '0' ++ digits
  else
    let mantissa :=
      match digits with
      | [] => []
      | [d] => [d]
      | d :: rest => d :: '.' :: rest
    let sign := if scientific < 0 then '-' else '+'
    mantissa ++ 'e' :: sign :: Nat.toDigits 10 scientific.natAbs

/-- A float, or `null` for one that is no number. -/
def floatText (d : Double) : List Char :=
  if d.isFinite then
    let sign := if d.isNegative then ['-'] else []
    sign ++ decimalText floatLayout (Nat.toDigits 10 d.shortest.digits) d.shortest.exponent
  else "null".toList

def intText (i : Int64) : List Char :=
  (toString i.toInt).toList

mutual

def valueText : Value → List Char
  | .null => "null".toList
  | .bool true => "true".toList
  | .bool false => "false".toList
  | .int i => intText i
  | .float d => floatText d
  | .string s => stringText s
  | .sequence [] => ['[', ']']
  | .sequence (item :: items) => '[' :: valueText item ++ itemsText items ++ [']']
  | .mapping [] => ['\x7b', '\x7d']
  | .mapping ((key, value) :: fields) =>
    '\x7b' :: stringText key ++ ':' :: valueText value ++ fieldsText fields ++ ['\x7d']

/-- The items after the first, each after a comma. -/
def itemsText : List Value → List Char
  | [] => []
  | item :: items => ',' :: valueText item ++ itemsText items

/-- The fields after the first, each after a comma. -/
def fieldsText : List (String × Value) → List Char
  | [] => []
  | (key, value) :: fields => ',' :: stringText key ++ ':' :: valueText value ++ fieldsText fields

end

end DeviceHub.Json

namespace DeviceHub.Value

def toJsonString (v : Value) : String :=
  String.ofList (Json.valueText v)

def toJson (v : Value) : Bytes :=
  Text.encode v.toJsonString

end DeviceHub.Value
