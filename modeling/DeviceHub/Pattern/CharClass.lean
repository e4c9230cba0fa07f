import DeviceHub.Text.Blank
import DeviceHub.Unicode.CaseFold
import DeviceHub.Unicode.Category

/-! Classes of characters, as patterns name them. -/
namespace DeviceHub

inductive CharClass where
  | nothing
  | range (first last : Char)
  | digit
  | blank
  | word
  | category (c : Unicode.Category)
  | complement (c : CharClass)
  | union (a b : CharClass)
  | intersection (a b : CharClass)
  /-- All cases of the characters of a class; `ascii` says that only ASCII letters have cases. -/
  | anyCase (ascii : Bool) (c : CharClass)
  deriving DecidableEq

namespace CharClass

def swapAsciiCase (c : Char) : Char :=
  if c.isUpper then c.toLower else c.toUpper

def contains : CharClass → Char → Bool
  | nothing, _ => false
  | range first last, c => first ≤ c && c ≤ last
  | digit, c => Unicode.decimalDigits.contains c
  | blank, c => Text.isBlank c
  | word, c => Unicode.isWordChar c
  | category k, c => k.holds c
  | complement k, c => !k.contains c
  | union a b, c => a.contains c || b.contains c
  | intersection a b, c => a.contains c && b.contains c
  | anyCase ascii k, c =>
    k.contains c ||
      (if ascii then [swapAsciiCase c] else Unicode.caseVariants c).any fun d => k.contains d

def single (c : Char) : CharClass :=
  range c c

def any : CharClass :=
  complement nothing

def difference (a b : CharClass) : CharClass :=
  intersection a (complement b)

def symmetricDifference (a b : CharClass) : CharClass :=
  union (difference a b) (difference b a)

def ofChars (chars : List Char) : CharClass :=
  chars.foldl (fun k c => union k (single c)) nothing

/-- The classes with a name in ASCII, in brackets of their own. -/
def named : List (String × CharClass) :=
  let upper := range 'A' 'Z'
  let lower := range 'a' 'z'
  let number := range '0' '9'
  let alnum := union number (union upper lower)
  [("alnum", alnum), ("alpha", union upper lower), ("ascii", range '\x00' '\x7f'),
    ("blank", ofChars ['\t', ' ']), ("cntrl", union (range '\x00' '\x1f') (single '\x7f')),
    ("digit", number), ("graph", range '!' '~'), ("lower", lower), ("print", range ' ' '~'),
    ("punct", difference (range '!' '~') alnum), ("space", union (range '\t' '\r') (single ' ')),
    ("upper", upper), ("word", union alnum (single '_')),
    ("xdigit", union number (union (range 'A' 'F') (range 'a' 'f')))]

@[simp] theorem contains_nothing (c : Char) : nothing.contains c = false := rfl

@[simp] theorem contains_any (c : Char) : any.contains c = true := rfl

@[simp] theorem contains_single (c d : Char) : (single c).contains d = decide (d = c) := by
  simp only [single, contains, ← Bool.decide_and, decide_eq_decide]
  exact ⟨fun h => Char.le_antisymm h.2 h.1, fun h => h ▸ ⟨Char.le_refl _, Char.le_refl _⟩⟩

end CharClass
end DeviceHub
