import DepositGateway.Rlp.Item

/-!
# Strict reading of length-prefixed items

Every item has one written form, and the reader takes no other: a length must be in its shortest
form, a lone byte below 0x80 must stand for itself, an item must end within its list, and nothing
may follow the outermost item.

* `Rlp.decode?` reads a whole byte string.
-/

namespace DepositGateway

namespace Rlp

/-- What the first bytes of an item announce. -/
inductive Announced where
  | single (byte : UInt8)
  | bytes (length : Nat)
  | list (length : Nat)

/-- A length of `size` bytes in its shortest form, and at least 56. -/
def longLength? (size : Nat) (rest : Bytes) : Option (Nat × Bytes) :=
  let digits := rest.take size
  let length := Bytes.toNat digits
  if digits.length < size ∨ digits.head? = some 0 ∨ length < 56 then none
  else some (length, rest.drop size)

/-- Reads what the first bytes announce. -/
def announced? : Bytes → Option (Announced × Bytes)
  | [] => none
  | first :: rest =>
    let kind := first.toNat
    if kind < 0x80 then some (.single first, rest)
    else if kind < 0xb8 then some (.bytes (kind - 0x80), rest)
    else if kind < 0xc0 then do
      let (length, rest) ← longLength? (kind - 0xb7) rest
      some (.bytes length, rest)
    else if kind < 0xf8 then some (.list (kind - 0xc0), rest)
    else do
      let (length, rest) ← longLength? (kind - 0xf7) rest
      some (.list length, rest)

/-- A lone byte below 0x80 that was announced as a byte string of length one. -/
def isWasteful : Bytes → Bool
  | [byte] => byte < 0x80
  | _ => false

mutual

/-- The item that a byte string starts with, and what follows it. -/
def item? : Nat → Bytes → Option (Item × Bytes)
  | 0, _ => none
  | fuel + 1, bytes => do
    let (announced, rest) ← announced? bytes
    match announced with
    | .single byte => some (.bytes [byte], rest)
    | .bytes length =>
      let payload := rest.take length
      if payload.length < length || isWasteful payload then none
      else some (.bytes payload, rest.drop length)
    | .list length =>
      let payload := rest.take length
      if payload.length < length then none
      else do
        let items ← items? fuel payload
        some (.list items, rest.drop length)

/-- The items that fill a byte string. -/
def items? : Nat → Bytes → Option (List Item)
  | 0, bytes => if bytes.isEmpty then some [] else none
  | fuel + 1, bytes =>
    if bytes.isEmpty then some []
    else do
      let (item, rest) ← item? fuel bytes
      let items ← items? fuel rest
      some (item :: items)

end

/-- The item that a whole byte string is the written form of. -/
def decode? (bytes : Bytes) : Option Item := do
  let (item, rest) ← item? (2 * bytes.length + 2) bytes
  if rest.isEmpty then some item else none

end Rlp

end DepositGateway
