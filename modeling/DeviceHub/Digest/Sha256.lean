import DeviceHub.Text.Utf8

/-!
The digest SHA-256 and the keyed digest HMAC over it, on lists of bytes.
-/
namespace DeviceHub.Digest

def blockBytes : Nat := 64

def initialState : List UInt32 := [
  0x6a09e667, 0xbb67ae85, 0x3c6ef372, 0xa54ff53a, 0x510e527f, 0x9b05688c, 0x1f83d9ab, 0x5be0cd19]

def roundConstants : List UInt32 := [
  0x428a2f98, 0x71374491, 0xb5c0fbcf, 0xe9b5dba5, 0x3956c25b, 0x59f111f1, 0x923f82a4, 0xab1c5ed5,
  0xd807aa98, 0x12835b01, 0x243185be, 0x550c7dc3, 0x72be5d74, 0x80deb1fe, 0x9bdc06a7, 0xc19bf174,
  0xe49b69c1, 0xefbe4786, 0x0fc19dc6, 0x240ca1cc, 0x2de92c6f, 0x4a7484aa, 0x5cb0a9dc, 0x76f988da,
  0x983e5152, 0xa831c66d, 0xb00327c8, 0xbf597fc7, 0xc6e00bf3, 0xd5a79147, 0x06ca6351, 0x14292967,
  0x27b70a85, 0x2e1b2138, 0x4d2c6dfc, 0x53380d13, 0x650a7354, 0x766a0abb, 0x81c2c92e, 0x92722c85,
  0xa2bfe8a1, 0xa81a664b, 0xc24b8b70, 0xc76c51a3, 0xd192e819, 0xd6990624, 0xf40e3585, 0x106aa070,
  0x19a4c116, 0x1e376c08, 0x2748774c, 0x34b0bcb5, 0x391c0cb3, 0x4ed8aa4a, 0x5b9cca4f, 0x682e6ff3,
  0x748f82ee, 0x78a5636f, 0x84c87814, 0x8cc70208, 0x90befffa, 0xa4506ceb, 0xbef9a3f7, 0xc67178f2]

def rotateRight (x : UInt32) (n : UInt32) : UInt32 :=
  (x >>> n) ||| (x <<< (32 - n))

def bigEndian : Nat → Nat → Bytes
  | 0, _ => []
  | count + 1, n => UInt8.ofNat (n / Nat.pow 256 count) :: bigEndian count n

/-- A message with the one bit, the zeros and the length that fill its last block. -/
def padded (message : Bytes) : Bytes :=
  let zeros := (2 * blockBytes - 9 - message.length % blockBytes) % blockBytes
  message ++ 0x80 :: List.replicate zeros 0 ++ bigEndian 8 (8 * message.length)

def words : Bytes → List UInt32
  | a :: b :: c :: d :: rest =>
    (a.toUInt32 <<< 24 ||| b.toUInt32 <<< 16 ||| c.toUInt32 <<< 8 ||| d.toUInt32) :: words rest
  | _ => []

/-- The word that follows the words of a schedule. -/
def nextWord (schedule : Array UInt32) : UInt32 :=
  let word (back : Nat) := schedule.getD (schedule.size - back) 0
  let a := word 15
  let b := word 2
  word 16 + (rotateRight a 7 ^^^ rotateRight a 18 ^^^ a >>> 3) + word 7 +
    (rotateRight b 17 ^^^ rotateRight b 19 ^^^ b >>> 10)

def schedule (block : Bytes) : List UInt32 :=
  ((List.range 48).foldl (fun ws _ => ws.push (nextWord ws)) (words block).toArray).toList

def round : List UInt32 → UInt32 × UInt32 → List UInt32
  | [a, b, c, d, e, f, g, h], (constant, word) =>
    let s1 := rotateRight e 6 ^^^ rotateRight e 11 ^^^ rotateRight e 25
    let choice := (e &&& f) ^^^ (~~~e &&& g)
    let t1 := h + s1 + choice + constant + word
    let s0 := rotateRight a 2 ^^^ rotateRight a 13 ^^^ rotateRight a 22
    let majority := (a &&& b) ^^^ (a &&& c) ^^^ (b &&& c)
    [t1 + (s0 + majority), a, b, c, d + t1, e, f, g]
  | state, _ => state

def compress (state : List UInt32) (block : Bytes) : List UInt32 :=
  List.zipWith (· + ·) state ((roundConstants.zip (schedule block)).foldl round state)

/-- The first `count` blocks of a padded message, in order. -/
def foldBlocks : Nat → List UInt32 → Bytes → List UInt32
  | 0, state, _ => state
  | count + 1, state, bytes =>
    foldBlocks count (compress state (bytes.take blockBytes)) (bytes.drop blockBytes)

def sha256 (message : Bytes) : Bytes :=
  let bytes := padded message
  (foldBlocks (bytes.length / blockBytes) initialState bytes).flatMap fun word =>
    bigEndian 4 word.toNat

/-- A key of exactly one block: a longer one is digested first. -/
def blockKey (key : Bytes) : Bytes :=
  let key := if blockBytes < key.length then sha256 key else key
  key ++ List.replicate (blockBytes - key.length) 0

def hmacSha256 (key message : Bytes) : Bytes :=
  let key := blockKey key
  sha256 (key.map (· ^^^ 0x5C) ++ sha256 (key.map (· ^^^ 0x36) ++ message))

end DeviceHub.Digest
