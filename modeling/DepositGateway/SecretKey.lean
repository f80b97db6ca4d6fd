import DepositGateway.Address
import DepositGateway.Curve.Secp256k1

/-!
# Secret keys

The only bytes that can move the funds of a deposit address. A key is wiped by overwriting every
byte with zero; its length stays.

* `SecretKey.scalar?` is the signing key, present exactly for 32 bytes between 1 and the order of
  the curve.
* `SecretKey.address` is the deposit address of a signing key.
* `SecretKey.wiped_wipe`: a wiped key shows as wiped.
-/

namespace DepositGateway

/-- Raw key material. -/
structure SecretKey where
  bytes : Bytes
  deriving DecidableEq

namespace SecretKey

/-- Overwrites every byte with zero. -/
def wipe (key : SecretKey) : SecretKey := ⟨List.replicate key.bytes.length 0⟩

/-- Lends the key for one use and wipes it afterwards. -/
def lend {α : Type} (key : SecretKey) (use : SecretKey → α) : α × SecretKey :=
  (use key, key.wipe)

/-- A key is wiped when none of its bytes differs from zero; the empty key is. -/
def wiped (key : SecretKey) : Bool := key.bytes.all (· == 0)

/-- The bytes as marked hexadecimal text. -/
def toHex (key : SecretKey) : String := Bytes.toHexMarked key.bytes

/-- What a log may show of a key: how long it is. -/
def description (key : SecretKey) : String :=
  "ZeroizedKey(<" ++ toString key.bytes.length ++ " bytes>)"

/-- The signing key that the bytes stand for. -/
def scalar? (key : SecretKey) : Option Nat :=
  let scalar := Bytes.toNat key.bytes
  if key.bytes.length = 32 ∧ 1 ≤ scalar ∧ scalar < Secp256k1.order then some scalar else none

/-- The address of a signing key: the end of the digest of its public point. -/
def addressOf (scalar : Nat) : Bytes :=
  let (x, y) := Secp256k1.coordinates (Secp256k1.multiply scalar Secp256k1.generator)
  (keccak256 (Bytes.ofNatPadded 32 x ++ Bytes.ofNatPadded 32 y)).drop 12

/-- The checksum form of the address of the key, for bytes that are a signing key. -/
def address? (key : SecretKey) : Option String :=
  key.scalar?.map fun scalar => Address.checksum (addressOf scalar)

/-- A wiped key shows as wiped. -/
theorem wiped_wipe (key : SecretKey) : key.wipe.wiped = true := by
  simp [wipe, wiped]

/-- Wiping keeps the length. -/
theorem length_bytes_wipe (key : SecretKey) : key.wipe.bytes.length = key.bytes.length := by
  simp [wipe]

end SecretKey

end DepositGateway
