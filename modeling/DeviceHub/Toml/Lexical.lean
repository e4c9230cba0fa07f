import DeviceHub.Json.Parser

/-!
The pieces of a TOML text: fillers between tokens, keys and strings.  Every reader takes the
characters left and gives its result with the characters after it, or nothing when the text is not
TOML.  Fuel that is not less than the number of characters left is enough for any of them.
-/
namespace DeviceHub.Toml

abbrev Reader (α : Type) := List Char → Option (α × List Char)

def isSpace (c : Char) : Bool :=
  c == ' ' || c == '\t'

def isCommentChar (c : Char) : Bool :=
  c == '\t' || (0x20 ≤ c.toNat && c.toNat ≤ 0x7E) || 0x80 ≤ c.toNat

def skipSpaces (chars : List Char) : List Char :=
  chars.dropWhile isSpace

def lineEnd? : List Char → Option (List Char)
  | '\n' :: rest => some rest
  | '\r' :: '\n' :: rest => some rest
  | _ => none

/-- Skips spaces, line ends and comments, as between the items of an array. -/
def skipFillers (inComment : Bool) : List Char → Option (List Char)
  | [] => some []
  | '\r' :: '\n' :: rest => skipFillers false rest
  | c :: rest =>
    if c = '\n' then skipFillers false rest
    else if inComment then if isCommentChar c then skipFillers true rest else none
    else if isSpace c then skipFillers false rest
    else if c = '#' then skipFillers true rest
    else some (c :: rest)

def endOfLine? (chars : List Char) : Option (List Char) :=
  let rest := match skipSpaces chars with
    | '#' :: rest => rest.dropWhile isCommentChar
    | rest => rest
  if rest.isEmpty then some [] else lineEnd? rest

def isBareKeyChar (c : Char) : Bool :=
  ('a' ≤ c && c ≤ 'z') || ('A' ≤ c && c ≤ 'Z') || ('0' ≤ c && c ≤ '9') || c == '-' || c == '_'

/-- A character that stands for itself in a string of one line, quotes aside. -/
def isPlainChar (c : Char) : Bool :=
  isCommentChar c

def hexNumber? (digits : List Char) : Option Nat :=
  digits.foldlM (fun n c => (Json.hexDigit? c).map (n * 16 + ·)) 0

def charOf? (n : Nat) : Option Char :=
  if n < 0xD800 ∨ (0xE000 ≤ n ∧ n < 0x110000) then some (Char.ofNat n) else none

def simpleEscape? (c : Char) : Option Char :=
  match c with
  | 'b' => some '\x08'
  | 't' => some '\t'
  | 'n' => some '\n'
  | 'f' => some '\x0C'
  | 'r' => some '\r'
  | '"' => some '"'
  | '\\' => some '\\'
  | _ => none

/-- An escape after its backslash. -/
def escape? : Reader Char
  | 'u' :: a :: b :: c :: d :: rest =>
    ((hexNumber? [a, b, c, d]).bind charOf?).map (·, rest)
  | 'U' :: a :: b :: c :: d :: e :: f :: g :: h :: rest =>
    ((hexNumber? [a, b, c, d, e, f, g, h]).bind charOf?).map (·, rest)
  | c :: rest => (simpleEscape? c).map (·, rest)
  | [] => none

def basicTail : Nat → Reader (List Char)
  | 0, _ => none
  | fuel + 1, chars =>
    match chars with
    | '"' :: rest => some ([], rest)
    | '\\' :: rest =>
      (escape? rest).bind fun (c, rest) =>
        (basicTail fuel rest).map fun (cs, rest) => (c :: cs, rest)
    | c :: rest =>
      if isPlainChar c then (basicTail fuel rest).map fun (cs, rest) => (c :: cs, rest) else none
    | [] => none

def literalTail : Reader (List Char)
  | [] => none
  | '\'' :: rest => some ([], rest)
  | c :: rest =>
    if isPlainChar c then (literalTail rest).map fun (cs, rest) => (c :: cs, rest) else none

/-- The end of a string of many lines: three quotes, of up to two more the first ones inside. -/
def closingQuotes? (quote : Char) : Reader (List Char)
  | a :: b :: c :: rest =>
    if a = quote ∧ b = quote ∧ c = quote then
      match rest with
      | d :: e :: rest' =>
        if d = quote ∧ e = quote then some ([quote, quote], rest')
        else if d = quote then some ([quote], e :: rest')
        else some ([], rest)
      | [d] => if d = quote then some ([quote], []) else some ([], rest)
      | [] => some ([], [])
    else none
  | _ => none

/-- What follows a backslash at the end of a line: the next line with something on it. -/
def continuation? (chars : List Char) : Option (List Char) :=
  (lineEnd? (skipSpaces chars)).map skipBlankLines
where
  skipBlankLines : List Char → List Char
    | '\r' :: '\n' :: rest => skipBlankLines rest
    | c :: rest => if isSpace c || c == '\n' then skipBlankLines rest else c :: rest
    | [] => []

def longBasicTail : Nat → Reader (List Char)
  | 0, _ => none
  | fuel + 1, chars =>
    match closingQuotes? '"' chars with
    | some found => some found
    | none =>
      match chars with
      | '\\' :: rest =>
        match continuation? rest with
        | some rest => longBasicTail fuel rest
        | none =>
          (escape? rest).bind fun (c, rest) =>
            (longBasicTail fuel rest).map fun (cs, rest) => (c :: cs, rest)
      | '\r' :: '\n' :: rest => (longBasicTail fuel rest).map fun (cs, rest) => ('\n' :: cs, rest)
      | c :: rest =>
        if isPlainChar c || c == '\n' then
          (longBasicTail fuel rest).map fun (cs, rest) => (c :: cs, rest)
        else none
      | [] => none

def longLiteralTail : Nat → Reader (List Char)
  | 0, _ => none
  | fuel + 1, chars =>
    match closingQuotes? '\'' chars with
    | some found => some found
    | none =>
      match chars with
      | '\r' :: '\n' :: rest => (longLiteralTail fuel rest).map fun (cs, rest) => ('\n' :: cs, rest)
      | c :: rest =>
        if isPlainChar c || c == '\n' then
          (longLiteralTail fuel rest).map fun (cs, rest) => (c :: cs, rest)
        else none
      | [] => none

/-- A line end right after opening quotes does not count. -/
def dropFirstLineEnd (chars : List Char) : List Char :=
  (lineEnd? chars).getD chars

def string? (fuel : Nat) : Reader String := fun chars =>
  let found : Option (List Char × List Char) := match chars with
    | '"' :: '"' :: '"' :: rest => longBasicTail fuel (dropFirstLineEnd rest)
    | '\'' :: '\'' :: '\'' :: rest => longLiteralTail fuel (dropFirstLineEnd rest)
    | '"' :: rest => basicTail fuel rest
    | '\'' :: rest => literalTail rest
    | _ => none
  found.map fun (cs, rest) => (String.ofList cs, rest)

/-- One part of a key: bare, or a string of one line. -/
def simpleKey? (fuel : Nat) : Reader String := fun chars =>
  match chars with
  | '"' :: rest => (basicTail fuel rest).map fun (cs, rest) => (String.ofList cs, rest)
  | '\'' :: rest => (literalTail rest).map fun (cs, rest) => (String.ofList cs, rest)
  | chars =>
    let bare := chars.takeWhile isBareKeyChar
    if bare.isEmpty then none else some (String.ofList bare, chars.drop bare.length)

def key? : Nat → Reader (List String)
  | 0, _ => none
  | fuel + 1, chars =>
    (simpleKey? (fuel + 1) (skipSpaces chars)).bind fun (part, rest) =>
      match skipSpaces rest with
      | '.' :: rest => (key? fuel rest).map fun (parts, rest) => (part :: parts, rest)
      | rest => some ([part], rest)

end DeviceHub.Toml
