import DepositGateway.Curve.Secp256k1
import DepositGateway.Hash.Sha256

/-!
# Deterministic signatures

ECDSA over secp256k1. The nonce is the first candidate of the deterministic generator over
HMAC-SHA256, taken from the key and the digest alone, and of the two signatures that verify the
one with the lower `s` is chosen.
-/

namespace DepositGateway

/-- A signature with the parity that tells which of two points its nonce gave. -/
structure Signature where
  r : Nat
  s : Nat
  parity : Nat
  deriving DecidableEq

namespace Signature

/-- The nonce for a key and a digest of 32 bytes each. -/
def nonce (key digest : Bytes) : Nat :=
  let value₀ : Bytes := List.replicate 32 1
  let secret₀ : Bytes := List.replicate 32 0
  let secret₁ := hmacSha256 secret₀ (value₀ ++ 0 :: key ++ digest)
  let value₁ := hmacSha256 secret₁ value₀
  let secret₂ := hmacSha256 secret₁ (value₁ ++ 1 :: key ++ digest)
  let value₂ := hmacSha256 secret₂ value₁
  Bytes.toNat (hmacSha256 secret₂ value₂)

/-- Signs a digest of 32 bytes with the key of the given scalar. -/
def sign (scalar : Nat) (digest : Bytes) : Signature :=
  let k := nonce (Bytes.ofNatPadded 32 scalar) digest
  let (x, y) := Secp256k1.coordinates (Secp256k1.multiply k Secp256k1.generator)
  let r := x % Secp256k1.order
  let s := Secp256k1.inverse Secp256k1.order k * (Bytes.toNat digest + r * scalar) % Secp256k1.order
  if 2 * s < Secp256k1.order then ⟨r, s, y % 2⟩
  else ⟨r, Secp256k1.order - s, (y + 1) % 2⟩

end Signature

end DepositGateway
