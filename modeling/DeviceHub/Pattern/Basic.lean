import DeviceHub.Pattern.CharClass

/-!
Patterns for whole texts.  A pattern prefers some of its readings to others: the first of a choice,
more repetitions or fewer.  A text is accepted when a reading ends with it and none that is
preferred has ended before.
-/
namespace DeviceHub

/-- A place in a text: the characters beside it. -/
structure TextPlace where
  before : Option Char
  after : Option Char

inductive Anchor where
  | textStart
  | textEnd
  | lineStart
  | lineEnd
  /-- The start of a line that may end in a return and a line feed. -/
  | returnLineStart
  | returnLineEnd
  | wordEdge (isEdge : Bool)
  deriving DecidableEq

def isAsciiWordChar (c : Char) : Bool :=
  c.isAlphanum || c == '_'

def Anchor.holds (p : TextPlace) : Anchor → Bool
  | textStart => p.before.isNone
  | textEnd => p.after.isNone
  | lineStart => p.before.all (· == '\n')
  | lineEnd => p.after.all (· == '\n')
  | returnLineStart =>
    p.before.all (· == '\n') || (p.before == some '\r' && p.after != some '\n')
  | returnLineEnd =>
    p.after.all (· == '\r') || (p.after == some '\n' && p.before != some '\r')
  | wordEdge isEdge =>
    (p.before.any isAsciiWordChar != p.after.any isAsciiWordChar) == isEdge

inductive Pattern where
  | empty
  | one (c : CharClass)
  | anchor (a : Anchor)
  | sequence (a b : Pattern)
  /-- The first is preferred. -/
  | choice (a b : Pattern)
  /-- Once or more; `greedy` says that more is preferred. -/
  | repeated (p : Pattern) (greedy : Bool)
  /-- Again and again or not at all, but each time with something read. -/
  | loop (p : Pattern) (greedy : Bool)
  deriving DecidableEq

namespace Pattern

def isNullable : Pattern → Bool
  | empty | anchor _ | loop .. => true
  | one _ => false
  | sequence a b => a.isNullable && b.isNullable
  | choice a b => a.isNullable || b.isNullable
  | repeated p _ => p.isNullable

def optional (p : Pattern) (greedy : Bool) : Pattern :=
  if greedy then choice p empty else choice empty p

def star (p : Pattern) (greedy : Bool) : Pattern :=
  if p.isNullable then (p.repeated greedy).optional greedy else p.loop greedy

/-- A beginning of a reading: what the next character has to be and what is to be read after it; the
end of the reading is `none`. -/
abbrev Opening := Option (CharClass × List Pattern)

def Opening.andThen (more : List Pattern) (o : Opening) : Opening :=
  o.map fun (c, rest) => (c, rest ++ more)

/-- The openings of a pattern at a place, the preferred ones first. -/
def openings (place : TextPlace) : Pattern → List Opening
  | empty => [none]
  | one c => [some (c, [])]
  | anchor a => if a.holds place then [none] else []
  | sequence a b =>
    (openings place a).flatMap fun o =>
      if o.isSome then [Opening.andThen [b] o] else openings place b
  | choice a b => openings place a ++ openings place b
  | repeated p greedy => (openings place p).map (Opening.andThen [loop p greedy])
  | loop p greedy =>
    let more := ((openings place p).filter Option.isSome).map (Opening.andThen [loop p greedy])
    if greedy then more ++ [none] else none :: more

def openingsAll (place : TextPlace) : List Pattern → List Opening
  | [] => [none]
  | p :: rest =>
    (p.openings place).flatMap fun o =>
      if o.isSome then [Opening.andThen rest o] else openingsAll place rest

/-- What is to be read after a character, for each of the readings so far; a reading that ends makes
an end of those that are less preferred. -/
def advance (place : TextPlace) (c : Char) (readings : List (List Pattern)) : List (List Pattern) :=
  (((readings.flatMap (openingsAll place)).takeWhile Option.isSome).filterMap fun o =>
    o.bind fun (k, rest) => if k.contains c then some rest else none).eraseDups

def accepted (before : Option Char) (readings : List (List Pattern)) : List Char → Bool
  | [] => readings.any fun r => (openingsAll ⟨before, none⟩ r).contains none
  | c :: rest => accepted (some c) (advance ⟨before, some c⟩ c readings) rest

def accepts (p : Pattern) (text : String) : Bool :=
  accepted none [[p]] text.toList

def ofList : List Pattern → Pattern
  | [] => empty
  | [p] => p
  | p :: rest => sequence p (ofList rest)

end Pattern
end DeviceHub
