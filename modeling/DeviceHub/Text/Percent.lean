import DeviceHub.Text.Utf8

/-!
Percent-encoding: letters, digits and `-_.~` stand for themselves, every other byte is written as
a percent sign and two upper-case hex digits.  Reading keeps a percent sign that is not followed by
two hex digits, and keeps the whole text when the bytes it stands for are not UTF-8.
-/
namespace DeviceHub.Text

def upperHexDigit (n : Nat) : Char :=
  if n < 10 then Char.ofNat (0x30 + n) else Char.ofNat (0x41 + (n - 10))

def hexValue? (code : Nat) : Option Nat :=
  if 0x30 ≤ code ∧ code ≤ 0x39 then some (code - 0x30)
  else if 0x41 ≤ code ∧ code ≤ 0x46 then some (code - 0x41 + 10)
  else if 0x61 ≤ code ∧ code ≤ 0x66 then some (code - 0x61 + 10)
  else none

/-- Bytes that percent-encoding leaves alone. -/
def isUnreserved (byte : UInt8) : Bool :=
  let code := byte.toNat
  (0x30 ≤ code && code ≤ 0x39) || (0x41 ≤ code && code ≤ 0x5A) || (0x61 ≤ code && code ≤ 0x7A) ||
    code == 0x2D || code == 0x5F || code == 0x2E || code == 0x7E

def percentByte (byte : UInt8) : List Char :=
  if isUnreserved byte then [Char.ofNat byte.toNat]
  else ['%', upperHexDigit (byte.toNat / 16), upperHexDigit (byte.toNat % 16)]

def percentEncode (s : String) : String :=
  String.ofList ((encode s).flatMap percentByte)

/-- The bytes that percent-encoded bytes stand for. -/
def percentDecodeBytes : Bytes → Bytes
  | [] => []
  | byte :: rest =>
    if byte.toNat = 0x25 then
      match rest with
      | high :: low :: rest' =>
        match hexValue? high.toNat, hexValue? low.toNat with
        | some h, some l => UInt8.ofNat (h * 16 + l) :: percentDecodeBytes rest'
        | _, _ => byte :: percentDecodeBytes (high :: low :: rest')
      | short => byte :: percentDecodeBytes short
    else byte :: percentDecodeBytes rest
termination_by bytes => bytes.length

/-- The text that a percent-encoded text stands for. -/
def percentDecode (s : String) : String :=
  (decode? (percentDecodeBytes (encode s))).getD s

end DeviceHub.Text
