import DepositGateway.Bytes.BigEndian

/-!
# Keccak-256

The sponge over the permutation Keccak-f[1600] with a rate of 136 bytes and the padding that
starts with the byte 1, as addresses and transaction hashes use it.

The state is 25 lanes of 64 bits; the lane in column `x` of row `y` is number `5 * y + x`.
-/

namespace DepositGateway

namespace Keccak

/-- The twenty-five lanes. -/
abbrev State := Vector UInt64 25

/-- The lane in column `x` of row `y`, both taken modulo five. -/
def lane (state : State) (x y : Nat) : UInt64 :=
  state.get ⟨5 * (y % 5) + x % 5, by omega⟩

/-- Rotation of a lane to the left by fewer than 64 places. -/
def rotate (word : UInt64) (places : Nat) : UInt64 :=
  if places = 0 then word
  else (word <<< UInt64.ofNat places) ||| (word >>> UInt64.ofNat (64 - places))

/-- The constants of the twenty-four rounds. -/
def roundConstants : List UInt64 :=
  [0x0000000000000001, 0x0000000000008082, 0x800000000000808a, 0x8000000080008000,
   0x000000000000808b, 0x0000000080000001, 0x8000000080008081, 0x8000000000008009,
   0x000000000000008a, 0x0000000000000088, 0x0000000080008009, 0x000000008000000a,
   0x000000008000808b, 0x800000000000008b, 0x8000000000008089, 0x8000000000008003,
   0x8000000000008002, 0x8000000000000080, 0x000000000000800a, 0x800000008000000a,
   0x8000000080008081, 0x8000000000008080, 0x0000000080000001, 0x8000000080008008]

/-- The rotation of each lane, in the order of the lanes. -/
def rotations : Vector Nat 25 :=
  #v[0, 1, 62, 28, 27,
     36, 44, 6, 55, 20,
     3, 10, 43, 25, 39,
     41, 45, 15, 21, 8,
     18, 2, 61, 56, 14]

/-- Each column is mixed with the parities of its two neighbours. -/
def theta (state : State) : State :=
  let parity : Vector UInt64 5 := Vector.ofFn fun x =>
    lane state x 0 ^^^ lane state x 1 ^^^ lane state x 2 ^^^ lane state x 3 ^^^ lane state x 4
  let column (x : Nat) : UInt64 := parity.get ⟨x % 5, by omega⟩
  Vector.ofFn fun i => state.get i ^^^ column (i + 4) ^^^ rotate (column (i + 1)) 1

/-- Each lane is rotated by its own amount, then the lanes change places. -/
def rhoPi (state : State) : State :=
  Vector.ofFn fun i =>
    let x := (i.val % 5 + 3 * (i.val / 5)) % 5
    let y := i.val % 5
    rotate (lane state x y) (rotations.get ⟨5 * (y % 5) + x % 5, by omega⟩)

/-- Each lane is combined with the next two of its row. -/
def chi (state : State) : State :=
  Vector.ofFn fun i =>
    let x := i.val % 5
    let y := i.val / 5
    lane state x y ^^^ (~~~(lane state (x + 1) y) &&& lane state (x + 2) y)

/-- One round. -/
def round (state : State) (constant : UInt64) : State :=
  let mixed := chi (rhoPi (theta state))
  mixed.set 0 (mixed.get 0 ^^^ constant)

/-- The permutation: all twenty-four rounds. -/
def permute (state : State) : State := roundConstants.foldl round state

/-- Eight bytes as a lane, the least significant first; missing bytes count as zero. -/
def laneOfBytes (bytes : Bytes) : UInt64 :=
  (bytes.take 8).foldr (fun byte word => (word <<< 8) ||| byte.toUInt64) 0

/-- Mixes one block of 136 bytes into the state and permutes it. -/
def absorb (state : State) (block : Bytes) : State :=
  permute (Vector.ofFn fun i =>
    if i.val < 17 then state.get i ^^^ laneOfBytes (block.drop (8 * i.val)) else state.get i)

/-- The bytes in blocks of 136; the last block may be shorter. -/
def blocks (bytes : Bytes) : List Bytes :=
  if bytes.length ≤ 136 then [bytes] else bytes.take 136 :: blocks (bytes.drop 136)
termination_by bytes.length
decreasing_by simp; omega

/-- The message with its padding, a multiple of 136 bytes long. -/
def pad (message : Bytes) : Bytes :=
  let missing := 136 - message.length % 136
  if missing = 1 then message ++ [0x81]
  else message ++ 0x01 :: List.replicate (missing - 2) 0 ++ [0x80]

/-- The eight bytes of a lane, the least significant first. -/
def bytesOfLane (word : UInt64) : Bytes :=
  (List.range 8).map fun i => (word >>> UInt64.ofNat (8 * i)).toUInt8

end Keccak

/-- The 32-byte Keccak-256 digest of a message. -/
def keccak256 (message : Bytes) : Bytes :=
  let state := (Keccak.blocks (Keccak.pad message)).foldl Keccak.absorb (Vector.replicate 25 0)
  (List.range 4).flatMap fun i => Keccak.bytesOfLane (Keccak.lane state i 0)

end DepositGateway
