import DepositGateway.Bytes.BigEndian

/-!
# SHA-256 and the keyed hash over it

* `sha256`: the digest of a message.
* `hmacSha256`: the keyed digest, with a block of 64 bytes.
-/

namespace DepositGateway

namespace Sha256

/-- The eight words that one block after another changes. -/
structure State where
  a : UInt32
  b : UInt32
  c : UInt32
  d : UInt32
  e : UInt32
  f : UInt32
  g : UInt32
  h : UInt32
  deriving DecidableEq

/-- The words before the first block. -/
def initial : State :=
  ⟨0x6a09e667, 0xbb67ae85, 0x3c6ef372, 0xa54ff53a, 0x510e527f, 0x9b05688c, 0x1f83d9ab, 0x5be0cd19⟩

/-- The constants of the sixty-four rounds. -/
def roundConstants : List UInt32 :=
  [0x428a2f98, 0x71374491, 0xb5c0fbcf, 0xe9b5dba5, 0x3956c25b, 0x59f111f1, 0x923f82a4, 0xab1c5ed5,
   0xd807aa98, 0x12835b01, 0x243185be, 0x550c7dc3, 0x72be5d74, 0x80deb1fe, 0x9bdc06a7, 0xc19bf174,
   0xe49b69c1, 0xefbe4786, 0x0fc19dc6, 0x240ca1cc, 0x2de92c6f, 0x4a7484aa, 0x5cb0a9dc, 0x76f988da,
   0x983e5152, 0xa831c66d, 0xb00327c8, 0xbf597fc7, 0xc6e00bf3, 0xd5a79147, 0x06ca6351, 0x14292967,
   0x27b70a85, 0x2e1b2138, 0x4d2c6dfc, 0x53380d13, 0x650a7354, 0x766a0abb, 0x81c2c92e, 0x92722c85,
   0xa2bfe8a1, 0xa81a664b, 0xc24b8b70, 0xc76c51a3, 0xd192e819, 0xd6990624, 0xf40e3585, 0x106aa070,
   0x19a4c116, 0x1e376c08, 0x2748774c, 0x34b0bcb5, 0x391c0cb3, 0x4ed8aa4a, 0x5b9cca4f, 0x682e6ff3,
   0x748f82ee, 0x78a5636f, 0x84c87814, 0x8cc70208, 0x90befffa, 0xa4506ceb, 0xbef9a3f7, 0xc67178f2]

/-- Rotation of a word to the right by 1 to 31 places. -/
def rotate (word : UInt32) (places : UInt32) : UInt32 :=
  (word >>> places) ||| (word <<< (32 - places))

/-- Four bytes as a word, the most significant first. -/
def wordOfBytes (bytes : Bytes) : UInt32 :=
  (bytes.take 4).foldl (fun word byte => (word <<< 8) ||| byte.toUInt32) 0

/-- The sixteen words of a block. -/
def words (block : Bytes) : List UInt32 :=
  (List.range 16).map fun i => wordOfBytes (block.drop (4 * i))

/-- The word that follows sixteen words of the schedule. -/
def nextWord : List UInt32 → UInt32
  | [w0, w1, _, _, _, _, _, _, _, w9, _, _, _, _, w14, _] =>
    let low := rotate w1 7 ^^^ rotate w1 18 ^^^ (w1 >>> 3)
    let high := rotate w14 17 ^^^ rotate w14 19 ^^^ (w14 >>> 10)
    w0 + low + w9 + high
  | _ => 0

/-- One round with its constant and its word of the schedule. -/
def round (s : State) (constant word : UInt32) : State :=
  let mixE := rotate s.e 6 ^^^ rotate s.e 11 ^^^ rotate s.e 25
  let choice := (s.e &&& s.f) ^^^ (~~~s.e &&& s.g)
  let first := s.h + mixE + choice + constant + word
  let mixA := rotate s.a 2 ^^^ rotate s.a 13 ^^^ rotate s.a 22
  let majority := (s.a &&& s.b) ^^^ (s.a &&& s.c) ^^^ (s.b &&& s.c)
  ⟨first + (mixA + majority), s.a, s.b, s.c, s.d + first, s.e, s.f, s.g⟩

/-- The rounds, with the sixteen words of the schedule that come next. -/
def rounds : List UInt32 → State → List UInt32 → State
  | [], s, _ => s
  | constant :: rest, s, window =>
    rounds rest (round s constant (window.headD 0)) (window.drop 1 ++ [nextWord window])

/-- Mixes one block of 64 bytes into the state. -/
def compress (s : State) (block : Bytes) : State :=
  let t := rounds roundConstants s (words block)
  ⟨s.a + t.a, s.b + t.b, s.c + t.c, s.d + t.d, s.e + t.e, s.f + t.f, s.g + t.g, s.h + t.h⟩

/-- The bytes in blocks of 64; the last block may be shorter. -/
def blocks (bytes : Bytes) : List Bytes :=
  if bytes.length ≤ 64 then [bytes] else bytes.take 64 :: blocks (bytes.drop 64)
termination_by bytes.length
decreasing_by simp; omega

/-- The message, a byte 0x80, zeros, and the count of bits in eight bytes. -/
def pad (message : Bytes) : Bytes :=
  message ++ 0x80 :: List.replicate ((119 - message.length % 64) % 64) 0
    ++ Bytes.ofNatPadded 8 (message.length * 8)

end Sha256

/-- The 32-byte SHA-256 digest of a message. -/
def sha256 (message : Bytes) : Bytes :=
  let s := (Sha256.blocks (Sha256.pad message)).foldl Sha256.compress Sha256.initial
  [s.a, s.b, s.c, s.d, s.e, s.f, s.g, s.h].flatMap fun word => Bytes.ofNatPadded 4 word.toNat

/-- The keyed digest of a message. -/
def hmacSha256 (key message : Bytes) : Bytes :=
  let short := if 64 < key.length then sha256 key else key
  let block := short ++ List.replicate (64 - short.length) 0
  let outer := block.map (· ^^^ 0x5c)
  let inner := block.map (· ^^^ 0x36)
  sha256 (outer ++ sha256 (inner ++ message))

end DepositGateway
