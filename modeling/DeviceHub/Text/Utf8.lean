/-!
Bytes and text.  A text is a list of code points; `encode` writes its UTF-8 bytes and `decode?`
accepts exactly those bytes.  `decodeLossy` reads any bytes and puts one replacement character
where each longest ill-formed piece stood.
-/
namespace DeviceHub

/-- A payload: the bytes a broker moves without looking at them. -/
abbrev Bytes := List UInt8

namespace Text

def encode (s : String) : Bytes :=
  s.toList.flatMap String.utf8EncodeChar

def decode? (bytes : Bytes) : Option String :=
  bytes.toByteArray.utf8Decode?.map fun chars => String.ofList chars.toList

theorem decode?_encode (s : String) : decode? (encode s) = some s := by
  have h : (encode s).toByteArray = s.toList.utf8Encode := rfl
  rw [decode?, h, List.utf8Decode?_utf8Encode, Option.map_some, List.toList_toArray,
    String.ofList_toList]

def replacement : Char := '\uFFFD'

/-- The ranges that the bytes after `lead` must lie in, and the bits `lead` contributes;
`none` for a byte that starts no code point. -/
def continuationRanges (lead : Nat) : Option (Nat × List (Nat × Nat)) :=
  let tail := (0x80, 0xBF)
  if 0xC2 ≤ lead ∧ lead ≤ 0xDF then some (lead - 0xC0, [tail])
  else if lead = 0xE0 then some (0, [(0xA0, 0xBF), tail])
  else if lead = 0xED then some (0xD, [(0x80, 0x9F), tail])
  else if 0xE1 ≤ lead ∧ lead ≤ 0xEF then some (lead - 0xE0, [tail, tail])
  else if lead = 0xF0 then some (0, [(0x90, 0xBF), tail, tail])
  else if lead = 0xF4 then some (4, [(0x80, 0x8F), tail, tail])
  else if 0xF1 ≤ lead ∧ lead ≤ 0xF3 then some (lead - 0xF0, [tail, tail, tail])
  else none

/-- Reads as many continuation bytes as fit the ranges: the code point when all are there, and
what is left to read either way. -/
def takeContinuation : List (Nat × Nat) → Nat → Bytes → Option Nat × Bytes
  | [], point, bytes => (some point, bytes)
  | _ :: _, _, [] => (none, [])
  | (low, high) :: ranges, point, byte :: bytes =>
    if low ≤ byte.toNat ∧ byte.toNat ≤ high then
      takeContinuation ranges (point * 64 + (byte.toNat - 0x80)) bytes
    else (none, byte :: bytes)

theorem takeContinuation_length_le (ranges : List (Nat × Nat)) (point : Nat) (bytes : Bytes) :
    (takeContinuation ranges point bytes).2.length ≤ bytes.length := by
  induction ranges generalizing point bytes with
  | nil => simp [takeContinuation]
  | cons range ranges ih =>
    cases bytes with
    | nil => simp [takeContinuation]
    | cons byte bytes =>
      simp only [takeContinuation]
      split
      · exact Nat.le_trans (ih _ _) (Nat.le_succ _)
      · simp

/-- The text of any bytes, with a replacement character for each ill-formed piece. -/
def decodeLossyChars : Bytes → List Char
  | [] => []
  | byte :: bytes =>
    if byte.toNat < 0x80 then Char.ofNat byte.toNat :: decodeLossyChars bytes
    else
      match continuationRanges byte.toNat with
      | none => replacement :: decodeLossyChars bytes
      | some (point, ranges) =>
        have := takeContinuation_length_le ranges point bytes
        ((takeContinuation ranges point bytes).1.map Char.ofNat).getD replacement ::
          decodeLossyChars (takeContinuation ranges point bytes).2
termination_by bytes => bytes.length
decreasing_by all_goals (simp_wf; try omega)

def decodeLossy (bytes : Bytes) : String :=
  String.ofList (decodeLossyChars bytes)

end Text
end DeviceHub
