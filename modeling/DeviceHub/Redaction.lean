import DeviceHub.Error
import DeviceHub.Text.Blank

/-!
`redact`: messages fit for logs.  Every value written after one of the secret names and an equals
sign is hidden, and what is longer than 500 bytes is cut.
-/
namespace DeviceHub.Redaction

def secretNames : List (List Char) :=
  ["sig".toList, "sharedaccesskey".toList, "password".toList, "token".toList]

/-- Upper case, the long s and the kelvin sign count as the letter. -/
def foldCase (c : Char) : Char :=
  if c = '\u017F' then 's'
  else if c = '\u212A' then 'k'
  else if 'A' ≤ c ∧ c ≤ 'Z' then Char.ofNat (c.toNat + 32)
  else c

def isSecretChar (c : Char) : Bool :=
  c != ';' && c != '&' && !Text.isBlank c

def splitName? : List Char → List Char → Option (List Char × List Char)
  | [], chars => some ([], chars)
  | _ :: _, [] => none
  | n :: name, c :: chars =>
    if foldCase c = n then (splitName? name chars).map fun (spelled, rest) => (c :: spelled, rest)
    else none

/-- The name as it is spelled, and what follows the value. -/
def secret? (chars : List Char) : Option (List Char × List Char) :=
  secretNames.findSome? fun name =>
    match splitName? name chars with
    | some (spelled, '=' :: value) =>
      match value with
      | [] => none
      | c :: rest => if isSecretChar c then some (spelled, rest.dropWhile isSecretChar) else none
    | _ => none

theorem splitName?_length {name chars spelled rest : List Char}
    (h : splitName? name chars = some (spelled, rest)) : rest.length ≤ chars.length := by
  induction name generalizing chars spelled with
  | nil => simp_all [splitName?]
  | cons n name ih =>
    cases chars with
    | nil => simp [splitName?] at h
    | cons c chars =>
      simp only [splitName?] at h
      split at h
      · simp only [Option.map_eq_some_iff, Prod.exists, Prod.mk.injEq] at h
        obtain ⟨a, b, hab, -, rfl⟩ := h
        exact Nat.le_succ_of_le (ih hab)
      · cases h

theorem length_dropWhile_le {α : Type} (p : α → Bool) (l : List α) :
    (l.dropWhile p).length ≤ l.length :=
  (List.dropWhile_sublist p).length_le

theorem secret?_length {chars spelled rest : List Char}
    (h : secret? chars = some (spelled, rest)) : rest.length < chars.length := by
  obtain ⟨name, -, h⟩ := List.exists_of_findSome?_eq_some h
  split at h
  · next s value hs =>
    have hle := splitName?_length hs
    split at h
    · cases h
    · next c tail =>
      split at h
      · cases h
        have := length_dropWhile_le isSecretChar tail
        simp only [List.length_cons] at hle
        omega
      · cases h
  · cases h

def mask : List Char := "=***".toList

/-- Scanned from the left. -/
def hideSecrets (chars : List Char) : List Char :=
  match h : secret? chars with
  | some (spelled, rest) =>
    have := secret?_length h
    spelled ++ mask ++ hideSecrets rest
  | none =>
    match chars with
    | [] => []
    | c :: rest => c :: hideSecrets rest
termination_by chars.length

def maxBytes : Nat := 500

def cutMark : String := "...[truncated]"

/-- The longest beginning that fits into a number of bytes. -/
def takeBytes : Nat → List Char → List Char
  | _, [] => []
  | room, c :: chars =>
    if c.utf8Size ≤ room then c :: takeBytes (room - c.utf8Size) chars else []

def redact (message : String) : String :=
  let hidden := String.ofList (hideSecrets message.toList)
  if maxBytes < hidden.utf8ByteSize then
    String.ofList (takeBytes (maxBytes - cutMark.utf8ByteSize) hidden.toList) ++ cutMark
  else hidden

end DeviceHub.Redaction

def DeviceHub.HubError.redacted (e : HubError) : String :=
  Redaction.redact e.message
