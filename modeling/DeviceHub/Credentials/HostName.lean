import DeviceHub.Text.Percent
import DeviceHub.Text.Punycode
import DeviceHub.Text.Split
import DeviceHub.Unicode.Direction
import DeviceHub.Unicode.HostForm
import DeviceHub.Unicode.Joining

/-!
Host names of the web, as `host_from_endpoint` has them read.  A name may be percent-encoded and in
any script; it is brought into the form in which hosts are compared, and its labels are then written
in ASCII.
-/
namespace DeviceHub.HostName

def isForbidden (c : Char) : Bool :=
  c.toNat ≤ 0x20 || c.toNat == 0x7F ||
    ['#', '%', '/', ':', '<', '>', '?', '@', '[', '\\', ']', '^', '|'].contains c

/-- The mark of a label that stands for one beyond ASCII. -/
def labelMark : List Char := "xn--".toList

def isPlain (label : List Char) : Bool :=
  label.all (·.toNat < 128)

/-- Of digits and plain characters, as a label is read after its mark. -/
def maxWritten : Nat := 2000

def maxLabel : Nat := 1000

def meaning? (label : List Char) : Option (List Char) :=
  if labelMark.isPrefixOf label then do
    let written := label.drop labelMark.length
    if written.getLast?.all (· == '-') || !isPlain written || maxWritten < written.length then
      failure
    let chars ← Punycode.decode? written
    if Unicode.isHostForm chars && !isPlain chars then return chars else failure
  else some label

/-- Nothing that is forbidden, no mark at the start, joiners only where they do something, and not
too long to be written. -/
def labelIsValid (label : List Char) : Bool :=
  !label.any isForbidden && !label.head?.any Unicode.marks.contains &&
    Unicode.joinersFit [] label && (isPlain label || label.length ≤ maxLabel)

def asciiLabel (label : List Char) : List Char :=
  if isPlain label then label else labelMark ++ Punycode.encode label

def ascii? (chars : List Char) : Option String := do
  let decoded ← Text.decode? (Text.percentDecodeBytes (Text.encode (String.ofList chars)))
  let form ← Unicode.hostForm? decoded.toList
  let labels ← (Text.splitBy (· == '.') form).mapM meaning?
  if !labels.all labelIsValid || !Unicode.directionsFit labels then failure
  let name := String.ofList (Text.joinWith ['.'] (labels.map asciiLabel))
  if name.isEmpty then failure
  return name

end DeviceHub.HostName
