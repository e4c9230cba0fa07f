import DeviceHub.Credentials.HostName
import DeviceHub.Text.Percent
import DeviceHub.Text.Split

/-!
The host that `host_from_endpoint` finds in an endpoint address.  The schemes of the web write their
hosts in lower case, in ASCII and with whole network addresses; the hosts of all other schemes are
taken as they stand, characters beyond ASCII percent-encoded.
-/
namespace DeviceHub.Endpoint

inductive SchemeKind where
  | web
  | file
  | other
  deriving DecidableEq

def schemeKind (scheme : String) : SchemeKind :=
  if scheme = "file" then .file
  else if ["http", "https", "ws", "wss", "ftp"].contains scheme then .web
  else .other

def lowerAscii (c : Char) : Char :=
  if 'A' ≤ c ∧ c ≤ 'Z' then Char.ofNat (c.toNat + 32) else c

def isLetter (c : Char) : Bool :=
  ('a' ≤ c && c ≤ 'z') || ('A' ≤ c && c ≤ 'Z')

def isDigit (c : Char) : Bool :=
  '0' ≤ c && c ≤ '9'

def isSchemeChar (c : Char) : Bool :=
  isLetter c || isDigit c || c == '+' || c == '-' || c == '.'

def splitScheme? (chars : List Char) : Option (String × List Char) :=
  match chars with
  | c :: _ =>
    if isLetter c then
      match chars.dropWhile isSchemeChar with
      | ':' :: rest => some (String.ofList ((chars.takeWhile isSchemeChar).map lowerAscii), rest)
      | _ => none
    else none
  | [] => none

def endsAuthority (kind : SchemeKind) (c : Char) : Bool :=
  c == '/' || c == '?' || c == '#' || (c == '\\' && kind != .other)

/-- Without a host no user may be named. -/
def dropUser? (kind : SchemeKind) (chars : List Char) : Option (List Char) :=
  let authority := chars.takeWhile (!endsAuthority kind ·)
  let rest := chars.dropWhile (!endsAuthority kind ·)
  match Text.cutAt? (· == '@') authority.reverse with
  | none => some chars
  | some (host, user) =>
    let host := host.reverse
    if host.isEmpty && user != [':'] && !(user.isEmpty && rest.isEmpty) then none
    else some (host ++ rest)

/-- Up to its port, which a colon outside brackets starts. -/
def hostChars (kind : SchemeKind) : Bool → List Char → List Char
  | _, [] => []
  | bracketed, c :: rest =>
    if (c == ':' && !bracketed) || endsAuthority kind c then []
    else c :: hostChars kind (if c == '[' then true else if c == ']' then false else bracketed) rest

/-- A port is at most 65535; nothing but digits stands before what ends it. -/
def portIsValid (chars : List Char) : Bool :=
  match chars with
  | ':' :: rest =>
    let digits := rest.takeWhile isDigit
    let ended := match rest.dropWhile isDigit with
      | [] => true
      | c :: _ => endsAuthority .file c
    ended && digits.foldl (fun n c => n * 10 + (c.toNat - 0x30)) 0 ≤ 65535
  | _ => true

def readBase? (base : Nat) (chars : List Char) : Option Nat :=
  chars.foldlM (fun n c =>
    match Text.hexValue? c.toNat with
    | some d => if d < base then some (n * base + d) else none
    | none => none) 0

/-- Decimal, octal after a zero, or hexadecimal. -/
def addressPart? (chars : List Char) : Option Nat :=
  match chars with
  | [] => none
  | '0' :: 'x' :: rest | '0' :: 'X' :: rest => readBase? 16 rest
  | '0' :: d :: rest => readBase? 8 (d :: rest)
  | digits => readBase? 10 digits

/-- Less an empty last one. -/
def dottedParts (chars : List Char) : List (List Char) :=
  let parts := Text.splitBy (· == '.') chars
  if parts.getLast? == some [] && 1 < parts.length then parts.dropLast else parts

/-- A host whose last part is a number has to be a network address. -/
def endsInNumber (chars : List Char) : Bool :=
  match (dottedParts chars).getLast? with
  | some last => (!last.isEmpty && last.all isDigit) || (addressPart? last).isSome
  | none => false

def address4? (chars : List Char) : Option Nat := do
  let parts := dottedParts chars
  if 4 < parts.length then failure
  let numbers ← parts.mapM addressPart?
  let last ← numbers.getLast?
  let leading := numbers.dropLast
  if leading.any (255 < ·) || Nat.pow 256 (4 - leading.length) ≤ last then failure
  return leading.zipIdx.foldl (fun sum (n, i) => sum + n * Nat.pow 256 (3 - i)) last

def address4Text (n : Nat) : String :=
  ".".intercalate ([3, 2, 1, 0].map fun i => toString (n / Nat.pow 256 i % 256))

def group? (chars : List Char) : Option Nat :=
  if chars.isEmpty || 4 < chars.length then none else readBase? 16 chars

def byte? (chars : List Char) : Option Nat :=
  match chars with
  | [] => none
  | '0' :: _ :: _ => none
  | digits => if digits.all isDigit then (readBase? 10 digits).filter (· ≤ 255) else none

/-- The last may be four bytes with dots, which count as two. -/
def groups? (last : Bool) (chars : List Char) : Option (List Nat) :=
  if chars.isEmpty then some []
  else
    let parts := Text.splitBy (· == ':') chars
    let tail := parts.getLast?.getD []
    if last && tail.contains '.' then do
      let [a, b, c, d] ← (Text.splitBy (· == '.') tail).mapM byte? | failure
      return (← parts.dropLast.mapM group?) ++ [a * 256 + b, c * 256 + d]
    else parts.mapM group?

def cutCompressed? : List Char → Option (List Char × List Char)
  | ':' :: ':' :: rest => some ([], rest)
  | c :: rest => (cutCompressed? rest).map fun (before, after) => (c :: before, after)
  | [] => none

/-- Two colons in a row stand for groups of zeros. -/
def address6? (chars : List Char) : Option (List Nat) :=
  match cutCompressed? chars with
  | none => (groups? true chars).filter (·.length == 8)
  | some (before, after) => do
    let high ← groups? false before
    let low ← groups? true after
    if 7 < high.length + low.length then failure
    return high ++ List.replicate (8 - high.length - low.length) 0 ++ low

def zeroRun (groups : List Nat) : Nat :=
  (groups.takeWhile (· == 0)).length

/-- The first of equals, and its length; one zero alone is no run. -/
def longestZeroRun (groups : List Nat) : Option (Nat × Nat) :=
  (List.range groups.length).foldl (fun best i =>
    let length := zeroRun (groups.drop i)
    if 2 ≤ length && (match best with | none => true | some (_, l) => l < length) then
      some (i, length)
    else best) none

def address6Text (groups : List Nat) : String :=
  let hex (l : List Nat) : String :=
    ":".intercalate (l.map fun n => String.ofList (Nat.toDigits 16 n))
  match longestZeroRun groups with
  | none => hex groups
  | some (start, length) => hex (groups.take start) ++ "::" ++ hex (groups.drop (start + length))

def isForbidden (c : Char) : Bool :=
  ['\x00', '\t', '\n', '\r', ' ', '#', '/', ':', '<', '>', '?', '@', '[', '\\', ']', '^',
    '|'].contains c

def opaqueHost? (chars : List Char) : Option String :=
  if chars.any isForbidden then none
  else
    some (String.ofList (chars.flatMap fun c =>
      if 0x20 ≤ c.toNat && c.toNat < 0x7F then [c]
      else (Text.encode (String.singleton c)).flatMap fun byte =>
        ['%', Text.upperHexDigit (byte.toNat / 16), Text.upperHexDigit (byte.toNat % 16)]))

def hostText? (kind : SchemeKind) (chars : List Char) : Option String :=
  match chars with
  | '[' :: rest =>
    if rest.getLast? = some ']' then (address6? rest.dropLast).map fun groups =>
      "[" ++ address6Text groups ++ "]"
    else none
  | chars =>
    if kind = .other then opaqueHost? chars
    else do
      let name ← HostName.ascii? chars
      if endsInNumber name.toList then (address4? name.toList).map address4Text else some name

/-- An empty host that is allowed is `some none`. -/
def afterSlashes? (kind : SchemeKind) (chars : List Char) : Option (Option String) := do
  let chars ← dropUser? kind chars
  let host := hostChars kind false chars
  let rest := chars.drop host.length
  if host.isEmpty && (kind = .web || rest.head? == some ':') then failure
  if !portIsValid rest then failure
  if host.isEmpty then return none
  return some (← hostText? kind host)

def isDrive (chars : List Char) : Bool :=
  match chars with
  | [c, d] => isLetter c && (d == ':' || d == '|')
  | _ => false

def isSlash (c : Char) : Bool :=
  c == '/' || c == '\\'

def isCurrent (part : List Char) : Bool :=
  [".", "%2e"].contains (String.ofList (part.map lowerAscii))

def isParent (part : List Char) : Bool :=
  ["..", ".%2e", "%2e.", "%2e%2e"].contains (String.ofList (part.map lowerAscii))

/-- The folder reached so far is `within`, the innermost part first; a drive in it is not left
again. -/
def namesDrive (within : List (List Char)) : List (List Char) → Bool
  | [] => false
  | part :: parts =>
    if isParent part then
      match within with
      | [] => namesDrive [] parts
      | last :: above => namesDrive (if isDrive last then within else above) parts
    else if isCurrent part then namesDrive within parts
    else (within.isEmpty && isDrive part) || namesDrive (part :: within) parts

def pathParts (chars : List Char) : List (List Char) :=
  let path := chars.takeWhile fun c => c != '?' && c != '#'
  Text.splitBy isSlash (if path.head?.any isSlash then path.tail else path)

/-- None for this machine and where the path names a drive. -/
def fileHost? (chars : List Char) : Option (Option String) :=
  match chars with
  | a :: b :: rest =>
    if isSlash a && isSlash b then do
      let host := rest.takeWhile (!endsAuthority .file ·)
      if host.isEmpty || isDrive host then return none
      let name ← hostText? .file host
      if name = "localhost" || namesDrive [] (pathParts (rest.drop host.length)) then return none
      return some name
    else some none
  | _ => some none

def isControlOrSpace (c : Char) : Bool :=
  c.toNat ≤ 0x20

/-- No controls at the ends, no tabs or line ends. -/
def significant (s : String) : List Char :=
  let trimmed := ((s.toList.dropWhile isControlOrSpace).reverse.dropWhile isControlOrSpace).reverse
  trimmed.filter fun c => c != '\t' && c != '\n' && c != '\r'

/-- An address that names no host gives `some none`. -/
def host? (s : String) : Option (Option String) := do
  let (scheme, rest) ← splitScheme? (significant s)
  match schemeKind scheme with
  | .file => fileHost? rest
  | .web => afterSlashes? .web (rest.dropWhile isSlash)
  | .other =>
    match rest with
    | '/' :: '/' :: rest => afterSlashes? .other rest
    | _ => some none

def malformed : String := "not an absolute address"

end DeviceHub.Endpoint
