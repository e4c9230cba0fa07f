import DeviceHub.Text.Split

/-!
Reading the words of a command line.  Options are long, `--name`, or short, `-n`, and short ones may
stand together; a value stands behind the name, or in the next word.  Options may come anywhere
before a lone `--`.
-/
namespace DeviceHub.CommandLine

inductive Takes where
  | nothing
  /-- Any number of times. -/
  | count
  | one (accepts : String → Bool)
  | many
  | help
  | version

structure OptionSpec where
  long : String
  short : Option Char := none
  takes : Takes

/-- How many other words there are at least and at most; of the commands one comes last, with words
of its own. -/
structure Grammar where
  options : List OptionSpec
  least : Nat := 0
  most : Option Nat := some 0
  commands : List String := []

inductive Stop where
  | help
  | version
  | refused
  deriving DecidableEq

/-- The last option with a value in the next word is settled only when something else comes. -/
structure Words where
  options : List (String × String) := []
  others : List String := []
  /-- An option, and the word behind it if it has been read. -/
  pending : Option (OptionSpec × Option String) := none
  /-- Whether a lone `--` has been read. -/
  plain : Bool := false

namespace Words

def count (name : String) (w : Words) : Nat :=
  w.options.countP fun (n, _) => n == name

def values (name : String) (w : Words) : List String :=
  w.options.filterMap fun (n, value) => if n = name then some value else none

def value? (name : String) (w : Words) : Option String :=
  (w.values name).head?

def add (o : OptionSpec) (value : String) (w : Words) : Words :=
  { w with options := w.options ++ [(o.long, value)] }

def take (o : OptionSpec) (value : String) (w : Words) : Except Stop Words :=
  match o.takes with
  | .nothing => if w.count o.long = 0 then .ok (w.add o value) else .error .refused
  | .one accepts =>
    if accepts value ∧ w.count o.long = 0 then .ok (w.add o value) else .error .refused
  | .count | .many => .ok (w.add o value)
  | .help => .error .help
  | .version => .error .version

/-- The pending option must have a value. -/
def settle (w : Words) : Except Stop Words :=
  match w.pending with
  | none => .ok w
  | some (_, none) => .error .refused
  | some (o, some value) => { w with pending := none }.take o value

def give (o : OptionSpec) (value : String) (w : Words) : Except Stop Words :=
  w.settle.bind fun w => w.take o value

/-- The value of the option is yet to come. -/
def expect (o : OptionSpec) (w : Words) : Except Stop Words :=
  w.settle.map fun w => { w with pending := some (o, none) }

def isExpecting (w : Words) : Bool :=
  w.pending.any fun (_, value) => value.isNone

def supply (value : String) (w : Words) : Words :=
  { w with pending := w.pending.map fun (o, _) => (o, some value) }

end Words

def Takes.hasValue : Takes → Bool
  | .one _ | .many => true
  | _ => false

namespace Grammar

def readLong (g : Grammar) (text : String) (w : Words) : Except Stop Words :=
  let (name, value?) := match Text.cutOnce? '=' text with
    | some (name, value) => (name, some value)
    | none => (text, none)
  match g.options.find? fun o => o.long == name with
  | none => .error .refused
  | some o =>
    match o.takes.hasValue, value? with
    | true, some value => w.give o value
    | true, none => w.expect o
    | false, none => w.give o ""
    | false, some _ => .error .refused

def readShort (g : Grammar) : List Char → Words → Except Stop Words
  | [], w => .ok w
  | c :: rest, w =>
    match g.options.find? fun o => o.short == some c with
    | none => .error .refused
    | some o =>
      if o.takes.hasValue then
        match rest with
        | [] => w.expect o
        | '=' :: value => w.give o (String.ofList value)
        | value => w.give o (String.ofList value)
      else (w.give o "").bind (readShort g rest)

def readOther (g : Grammar) (word : String) (w : Words) : Except Stop Words :=
  w.settle.bind fun w =>
    if g.most.any fun most => most ≤ w.others.length then .error .refused
    else .ok { w with others := w.others ++ [word] }

def readWord (g : Grammar) (word : String) (w : Words) : Except Stop Words :=
  match word.toList with
  | ['-', '-'] => .ok { w with plain := true }
  | '-' :: '-' :: text => g.readLong (String.ofList text) w
  | '-' :: c :: text => g.readShort (c :: text) w
  | _ => if w.isExpecting then .ok (w.supply word) else g.readOther word w

/-- The command and the words behind it come last. -/
def read (g : Grammar) : List String → Words → Except Stop (Words × Option (String × List String))
  | [], w => .ok (w, none)
  | word :: rest, w =>
    if w.plain then (g.readOther word w).bind (read g rest)
    else if !w.isExpecting && g.commands.contains word then .ok (w, some (word, rest))
    else (g.readWord word w).bind (read g rest)

def readAll (g : Grammar) (words : List String) : Except Stop Words := do
  let (w, _) ← g.read words {}
  let w ← w.settle
  if w.others.length < g.least then .error .refused else return w

end Grammar
end DeviceHub.CommandLine
