import DeviceHub.Logging.Settings
import DeviceHub.Pattern.Parser
import DeviceHub.Text.Blank
import DeviceHub.Text.Integer
import DeviceHub.Text.Split
import DeviceHub.Text.Utf8

/-!
Directives: what is logged of a target, of a span, or where a span has a field, as in
`hub::link[work\x7bdevice=a.*\x7d]=info`.  All parts may be missing, but not all at once.
-/
namespace DeviceHub.Logging

inductive FieldValue where
  /-- A number, or true or false; a text never is. -/
  | number
  | pattern (written : String) (p : Pattern)
  deriving DecidableEq

/-- The field is to be there, and perhaps more. -/
structure FieldRule where
  name : String
  value : Option FieldValue
  deriving DecidableEq

/-- The level is the least grave one that passes, and `none` lets nothing pass. -/
structure Directive where
  target : Option String := none
  span : Option String := none
  field : Option FieldRule := none
  level : Option Level := some .trace
  deriving DecidableEq

inductive DirectiveFault where
  | malformed
  /-- Places are counted without the blanks before the directive, but looked for in the text with
  them. -/
  | cutsCharacter
  deriving DecidableEq

namespace Directive

/-- In any letter case, or by number; `off` and zero are none. -/
def level? (name : String) : Option (Option Level) :=
  let digits := match name.toList with | '+' :: rest => rest | chars => chars
  match Text.readNat? digits with
  | some 0 => some none
  | some n => (Level.all.find? fun level => level.rank == n).map some
  | none =>
    if name.toLower = "off" then some none
    else (Level.all.find? fun level => level.name == name.toUpper).map some

/-- An empty text stands for every level. -/
def levelAfter? (text : String) : Option (Option Level) :=
  if text = "" then some (some .trace) else level? text

def isBetween (bytes : Bytes) (place : Nat) : Bool :=
  place ≤ bytes.length && bytes[place]?.all fun b => b.toNat < 0x80 || 0xC0 ≤ b.toNat

def slice (bytes : Bytes) (start stop : Nat) : Except DirectiveFault String :=
  if isBetween bytes start && isBetween bytes stop then
    match Text.decode? ((bytes.take stop).drop start) with
    | some text => .ok text
    | none => .error .cutsCharacter
  else .error .cutsCharacter

def orMalformed {α : Type} : Option α → Except DirectiveFault α
  | some a => .ok a
  | none => .error .malformed

def isExponent (chars : List Char) : Bool :=
  (Text.readInt? chars).isSome

def isUnsignedNumber (chars : List Char) : Bool :=
  let isDigit (c : Char) : Bool := (Text.digitValue? c).isSome
  let whole := chars.takeWhile isDigit
  let rest := chars.drop whole.length
  let (places, rest) := match rest with
    | '.' :: rest => (rest.takeWhile isDigit, rest.dropWhile isDigit)
    | rest => ([], rest)
  !(whole ++ places).isEmpty && match rest with
    | [] => true
    | e :: exponent => (e == 'e' || e == 'E') && isExponent exponent

def isNumber (text : String) : Bool :=
  let unsigned := match text.toList with
    | '+' :: rest | '-' :: rest => rest
    | chars => chars
  ["true", "false"].contains text || isUnsignedNumber unsigned ||
    ["inf", "infinity", "nan"].contains (String.ofList unsigned).toLower

def readField (text : String) : Except DirectiveFault FieldRule :=
  match Text.splitOnChar '=' text with
  | name :: value :: _ =>
    if isNumber value then .ok ⟨name, some .number⟩
    else (orMalformed (Pattern.parse? value)).map fun p => ⟨name, some (.pattern value p)⟩
  | _ => if text = "" then .error .malformed else .ok ⟨text, none⟩

/-- What is being read, and where it began. -/
inductive Part where
  | beginning
  | word (start : Nat)
  | span (start : Nat)
  | field (start : Nat)
  | afterField
  | afterSpan
  | level (start : Nat)

def step (bytes : Bytes) (part : Part) (d : Directive) (i : Nat) (c : Char) :
    Except DirectiveFault (Part × Directive) :=
  match part with
  | .beginning =>
    if c == '[' then .ok (.span (i + 1), d)
    else if ['-', ':', '_'].contains c || Unicode.isAlphanumeric c then .ok (.word i, d)
    else .error .malformed
  | .word start =>
    if c == '=' || c == '[' then do
      let target ← slice bytes start i
      return (if c == '=' then .level (i + 1) else .span (i + 1), { d with target := some target })
    else .ok (part, d)
  | .span start =>
    if c == ']' then
      (slice bytes start i).map fun name => (.afterSpan, { d with span := some name })
    else if c == '\x7b' then
      (slice bytes start i).map fun name =>
        (.field (i + 1), { d with span := if name = "" then none else some name })
    else .ok (part, d)
  | .field start =>
    if c == '\x7d' then do
      let field ← readField (← slice bytes start i)
      return (.afterField, { d with field := some field })
    else .ok (part, d)
  | .afterField => if c == ']' then .ok (.afterSpan, d) else .error .malformed
  | .afterSpan => if c == '=' then .ok (.level (i + 1), d) else .error .malformed
  | .level _ => .ok (part, d)

def finish (bytes : Bytes) (part : Part) (d : Directive) : Except DirectiveFault Directive :=
  match part with
  | .word start => do
    let text ← slice bytes start bytes.length
    match level? text with
    | some level => return { d with level }
    | none => return { d with target := some text }
  | .level start => do
    let level ← orMalformed (levelAfter? (← slice bytes start bytes.length))
    return { d with level }
  | .afterSpan => .ok d
  | _ => .error .malformed

def readFrom (bytes : Bytes) (part : Part) (d : Directive) :
    Nat → List Char → Except DirectiveFault Directive
  | _, [] => finish bytes part d
  | i, c :: rest => do
    let (part, d) ← step bytes part d i c
    readFrom bytes part d (i + c.utf8Size) rest

/-- Blanks at the ends are passed over, but what is read is taken from the places that its parts
would have without the blanks before it. -/
def read (text : String) : Except DirectiveFault Directive :=
  readFrom (Text.encode text) .beginning {} 0 (Text.trimChars text.toList)

end Directive
end DeviceHub.Logging
