import DeviceHub.Pattern.Basic
import DeviceHub.Text.Percent

/-!
The text of a pattern.  Most characters stand for themselves; the others are operators, classes
and escapes.  Patterns are written between braces and hold no closing brace, so an opening brace,
which would begin a counted repetition, is never followed by its end and is refused.
-/
namespace DeviceHub.Pattern

structure Flags where
  caseless : Bool := false
  /-- Whether `^` and `$` stand for the ends of lines. -/
  lines : Bool := false
  dotAll : Bool := false
  /-- Lines may end in a return and a line feed. -/
  returns : Bool := false
  lazy : Bool := false
  ascii : Bool := false
  /-- Blanks and comments stand for nothing. -/
  spaced : Bool := false

inductive Escape where
  | char (c : Char)
  | cls (c : CharClass)
  | anchor (a : Anchor)

/-- The class an item of a class stands for; an anchor stands for none. -/
def Escape.class? (flags : Flags) : Escape → Option CharClass
  | char c => if flags.ascii && 128 ≤ c.toNat then none else some (.single c)
  | cls k => some k
  | anchor _ => none

def readNumber? (digits : Nat) (chars : List Char) : Option (Char × List Char) := do
  let code ← (chars.take digits).foldlM (fun n c => (Text.hexValue? c.toNat).map (n * 16 + ·)) 0
  if chars.length < digits || !code.isValidChar then failure
  return (Char.ofNat code, chars.drop digits)

def category? (letter : Char) : Option Unicode.Category :=
  match letter.toLower with
  | 'l' => some .letter
  | 'm' => some .mark
  | 'n' => some .number
  | 'p' => some .punctuation
  | 's' => some .symbol
  | 'z' => some .separator
  | 'c' => some .other
  | _ => none

/-- Whether a class holds nothing beyond ASCII, as far as single bytes go. -/
def isAsciiClass (c : CharClass) : Bool :=
  (List.range 128).all fun n => !c.contains (Char.ofNat (128 + n))

/-- A class as flags have it; `none` when it holds bytes that are no characters. -/
def withFlags? (flags : Flags) (negated : Bool) (c : CharClass) : Option CharClass :=
  let c := if flags.caseless then .anyCase flags.ascii c else c
  let c := if negated then .complement c else c
  if flags.ascii && !isAsciiClass c then none else some c

/-- The named ASCII class, or the class that takes its place. -/
def perlClass (flags : Flags) (name : String) (c : CharClass) : CharClass :=
  if flags.ascii then (CharClass.named.lookup name).getD c else c

def readEscape? (flags : Flags) : List Char → Option (Escape × List Char)
  | [] => none
  | c :: rest =>
    let char (c : Char) := some (Escape.char c, rest)
    let cls (negated : Bool) (name : String) (k : CharClass) : Option (Escape × List Char) :=
      (withFlags? { flags with caseless := false } negated (perlClass flags name k)).map fun k =>
        (.cls k, rest)
    let number (digits : Nat) : Option (Escape × List Char) :=
      (readNumber? digits rest).map fun (c, rest) => (.char c, rest)
    match c with
    | 'a' => char '\x07'
    | 'f' => char '\x0c'
    | 't' => char '\t'
    | 'n' => char '\n'
    | 'r' => char '\r'
    | 'v' => char '\x0b'
    | 'x' => (number 2).filter fun (e, _) => (e.class? flags).isSome
    | 'u' => number 4
    | 'U' => number 8
    | 'd' => cls false "digit" .digit
    | 'D' => cls true "digit" .digit
    | 's' => cls false "space" .blank
    | 'S' => cls true "space" .blank
    | 'w' => cls false "word" .word
    | 'W' => cls true "word" .word
    | 'p' | 'P' =>
      match rest with
      | [] => none
      | letter :: rest =>
        if flags.ascii then none
        else do
          let k ← withFlags? flags (c == 'P') (.category (← category? letter))
          return (.cls k, rest)
    | 'A' => some (.anchor .textStart, rest)
    | 'z' => some (.anchor .textEnd, rest)
    | 'b' => if flags.ascii then some (.anchor (.wordEdge true), rest) else none
    | 'B' => if flags.ascii then some (.anchor (.wordEdge false), rest) else none
    | '<' | '>' => none
    | c => if c.toNat < 128 && !c.isAlphanum then char c else none

def skipBlanks (flags : Flags) : List Char → List Char
  | [] => []
  | c :: rest =>
    if !flags.spaced then c :: rest
    else if Text.isBlank c then skipBlanks flags rest
    else if c == '#' then skipBlanks flags ((c :: rest).dropWhile (· != '\n'))
    else c :: rest
termination_by chars => chars.length
decreasing_by
  · simp
  · rename_i h
    have hc : c = '#' := by simpa using h
    have := (rest.dropWhile_suffix (· != '\n')).length_le
    subst hc
    simp only [List.dropWhile_cons, show ('#' != '\n') = true by decide, if_true, List.length_cons]
    omega

def readClassItem? (flags : Flags) : List Char → Option (Escape × List Char)
  | [] => none
  | '\\' :: rest => readEscape? flags rest
  | c :: rest => some (.char c, rest)

def readClassRange? (flags : Flags) (chars : List Char) : Option (CharClass × List Char) := do
  let (item, rest) ← readClassItem? flags chars
  match skipBlanks flags rest with
  | [] => failure
  | '-' :: after =>
    match skipBlanks flags after with
    | ']' :: _ | '-' :: _ => return (← item.class? flags, '-' :: after)
    | last =>
      let (last, rest) ← readClassItem? flags last
      match item, last with
      | .char first, .char last =>
        if last < first || (flags.ascii && 128 ≤ last.toNat) then failure
        return (.range first last, rest)
      | _, _ => failure
  | rest => return (← item.class? flags, rest)

/-- A class by a name between colons in brackets, `chars` beginning after the opening bracket. -/
def readNamedClass? (chars : List Char) : Option (CharClass × List Char) :=
  match chars with
  | ':' :: rest =>
    let negated := rest.head? == some '^'
    let rest := if negated then rest.tail else rest
    match rest.dropWhile (· != ':') with
    | ':' :: ']' :: after =>
      (CharClass.named.lookup (String.ofList (rest.takeWhile (· != ':')))).map fun k =>
        (if negated then .complement k else k, after)
    | _ => none
  | _ => none

/-- The beginning of a class: whether it is negated, and the characters that stand for themselves
only there. -/
def openClass (flags : Flags) (chars : List Char) : Bool × CharClass × List Char :=
  let chars := skipBlanks flags chars
  let negated := chars.head? == some '^'
  let chars := if negated then skipBlanks flags chars.tail else chars
  let hyphens := chars.takeWhile (· == '-')
  match chars.dropWhile (· == '-') with
  | ']' :: rest =>
    if hyphens.isEmpty then (negated, .single ']', rest) else (negated, .single '-', ']' :: rest)
  | rest => (negated, CharClass.ofChars hyphens, rest)

/-- Reads a class up to its closing bracket: `soFar` is what has been read of it, and `combine` what
is still to be done with all of it. -/
def readClass? (flags : Flags) : Nat → Bool → (CharClass → CharClass) → CharClass → List Char →
    Option (CharClass × List Char)
  | 0, _, _, _, _ => none
  | fuel + 1, negated, combine, soFar, chars =>
    let fold (k : CharClass) : CharClass := if flags.caseless then .anyCase flags.ascii k else k
    let operation (op : CharClass → CharClass → CharClass) (rest : List Char) :=
      readClass? flags fuel negated (op (fold (combine soFar)) ∘ fold) .nothing rest
    match skipBlanks flags chars with
    | [] => none
    | ']' :: rest => (withFlags? flags negated (combine soFar)).map fun k => (k, rest)
    | '&' :: '&' :: rest => operation .intersection rest
    | '-' :: '-' :: rest => operation .difference rest
    | '~' :: '~' :: rest => operation .symmetricDifference rest
    | '[' :: rest =>
      match readNamedClass? rest with
      | some (k, rest) => readClass? flags fuel negated combine (.union soFar k) rest
      | none =>
        let (negatedInside, inside, rest) := openClass flags rest
        match readClass? flags fuel negatedInside id inside rest with
        | some (k, rest) => readClass? flags fuel negated combine (.union soFar k) rest
        | none => none
    | rest =>
      match readClassRange? flags rest with
      | some (k, rest) => readClass? flags fuel negated combine (.union soFar k) rest
      | none => none

def Flags.set? (flags : Flags) (on : Bool) : Char → Option Flags
  | 'i' => some { flags with caseless := on }
  | 'm' => some { flags with lines := on }
  | 's' => some { flags with dotAll := on }
  | 'R' => some { flags with returns := on }
  | 'U' => some { flags with lazy := on }
  | 'u' => some { flags with ascii := !on }
  | 'x' => some { flags with spaced := on }
  | _ => none

/-- Sets flags by letters; those after a hyphen are taken away, and none comes twice. -/
def Flags.setAll? (flags : Flags) (letters : List Char) : Option Flags :=
  if letters.eraseDups.length < letters.length || letters.getLast? == some '-' then none
  else
    (letters.foldlM (fun (flags, on) c =>
      if c == '-' then some (flags, false)
      else (Flags.set? flags on c).map fun flags => (flags, on))
      (flags, true)).map Prod.fst

inductive Opened where
  | group (flags : Flags)
  | named (name : List Char)
  | setting (flags : Flags)

def isGroupName : List Char → Bool
  | [] => false
  | c :: rest =>
    (c == '_' || Unicode.isAlphabetic c) &&
      rest.all fun c => ['_', '.', '[', ']'].contains c || Unicode.isAlphanumeric c

def readOpening? (flags : Flags) (chars : List Char) : Option (Opened × List Char) :=
  let named (rest : List Char) : Option (Opened × List Char) :=
    let name := rest.takeWhile (· != '>')
    match rest.drop name.length with
    | _ :: rest => if isGroupName name then some (.named name, rest) else none
    | [] => none
  match skipBlanks flags chars with
  | '?' :: 'P' :: '<' :: rest => named rest
  | '?' :: '<' :: rest => named rest
  | '?' :: rest =>
    let letters := rest.takeWhile fun c => c != ':' && c != ')'
    match rest.drop letters.length with
    | ':' :: rest => (flags.setAll? letters).map fun flags => (.group flags, rest)
    | ')' :: rest =>
      if letters.isEmpty then none
      else (flags.setAll? letters).map fun flags => (.setting flags, rest)
    | _ => none
  | rest => some (.group flags, rest)

def literal (flags : Flags) (c : Char) : Pattern :=
  one (if flags.caseless then .anyCase flags.ascii (.single c) else .single c)

def Escape.pattern (flags : Flags) : Escape → Pattern
  | char c => literal flags c
  | cls k => one k
  | anchor a => Pattern.anchor a

/-- The pattern of `.`; no byte beyond ASCII is a character. -/
def dot? (flags : Flags) : Option Pattern :=
  if flags.ascii then none
  else if flags.dotAll then some (one .any)
  else if flags.returns then some (one (.complement (.ofChars ['\r', '\n'])))
  else some (one (.complement (.single '\n')))

def lineEdge (flags : Flags) (start : Bool) : Pattern :=
  anchor <|
    if !flags.lines then if start then .textStart else .textEnd
    else if flags.returns then if start then .returnLineStart else .returnLineEnd
    else if start then .lineStart else .lineEnd

structure Reading where
  pattern : Pattern
  names : List (List Char)
  rest : List Char

/-- What has been read of a group: its finished branches, and the last one in reverse, in which a
setting of flags is `none`. -/
structure Partial where
  branches : Option Pattern := none
  items : List (Option Pattern) := []

def Partial.pattern (p : Partial) : Pattern :=
  let last := ofList (p.items.reverse.filterMap id)
  match p.branches with
  | none => last
  | some before => choice before last

def Partial.push (p : Partial) (item : Pattern) : Partial :=
  { p with items := some item :: p.items }

def Partial.repeat? (p : Partial) (repeats : Pattern → Pattern) : Option Partial :=
  match p.items with
  | some item :: items => some { p with items := some (repeats item) :: items }
  | _ => none

def readGroup? : Nat → Flags → List (List Char) → Partial → List Char → Option Reading
  | 0, _, _, _, _ => none
  | fuel + 1, flags, names, p, chars =>
    let go := readGroup? fuel flags names
    let repeats (make : Pattern → Bool → Pattern) (rest : List Char) : Option Reading :=
      let lazy := rest.head? == some '?'
      match p.repeat? (make · (lazy == flags.lazy)) with
      | some p => go p (if lazy then rest.tail else rest)
      | none => none
    let group (inside : Flags) (names : List (List Char)) (rest : List Char) : Option Reading :=
      match readGroup? fuel inside names {} rest with
      | some ⟨inner, names, ')' :: rest⟩ => readGroup? fuel flags names (p.push inner) rest
      | _ => none
    match skipBlanks flags chars with
    | [] => some ⟨p.pattern, names, []⟩
    | ')' :: rest => some ⟨p.pattern, names, ')' :: rest⟩
    | '|' :: rest => go { branches := some p.pattern } rest
    | '*' :: rest => repeats star rest
    | '+' :: rest => repeats repeated rest
    | '?' :: rest => repeats optional rest
    | '\x7b' :: _ => none
    | '(' :: rest =>
      match readOpening? flags rest with
      | some (.setting flags, rest) =>
        readGroup? fuel flags names { p with items := none :: p.items } rest
      | some (.group inside, rest) => group inside names rest
      | some (.named name, rest) =>
        if names.contains name then none else group flags (name :: names) rest
      | none => none
    | '[' :: rest =>
      let (negated, inside, rest) := openClass flags rest
      match readClass? flags (rest.length + 1) negated id inside rest with
      | some (k, rest) => go (p.push (one k)) rest
      | none => none
    | '.' :: rest =>
      match dot? flags with
      | some item => go (p.push item) rest
      | none => none
    | '^' :: rest => go (p.push (lineEdge flags true)) rest
    | '$' :: rest => go (p.push (lineEdge flags false)) rest
    | '\\' :: rest =>
      match readEscape? flags rest with
      | some (escape, rest) => go (p.push (escape.pattern flags)) rest
      | none => none
    | c :: rest => go (p.push (literal flags c)) rest

def parse? (s : String) : Option Pattern :=
  match readGroup? (s.length + 1) {} [] {} s.toList with
  | some ⟨pattern, _, []⟩ => some pattern
  | _ => none

end DeviceHub.Pattern
