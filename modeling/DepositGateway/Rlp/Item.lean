import DepositGateway.Bytes.BigEndian

/-!
# Length-prefixed items

An item is a byte string or a list of items. Its written form carries its own length: one byte
below 0x80 stands for itself, a payload of fewer than 56 bytes has one byte in front, a longer one
has the length of its length, then its length. A length takes up at most eight bytes.

* `Rlp.Item.encode` writes an item.
* `Rlp.Item.encode?` writes an item unless a payload in it is too long.
-/

namespace DepositGateway

namespace Rlp

/-- A byte string or a list of items. -/
inductive Item where
  | bytes (payload : Bytes)
  | list (items : List Item)

/-- What stands in front of a payload of the given length; `base` is 0x80 for byte strings and
0xc0 for lists. -/
def header (base length : Nat) : Bytes :=
  if length < 56 then [UInt8.ofNat (base + length)]
  else
    let size := Bytes.ofNat length
    UInt8.ofNat (base + 55 + size.length) :: size

/-- The written form of a byte string. -/
def encodeBytes (payload : Bytes) : Bytes :=
  match payload with
  | [byte] => if byte < 0x80 then [byte] else [0x81, byte]
  | _ => header 0x80 payload.length ++ payload

/-- A payload of items with the header of a list in front. -/
def encodeList (payload : Bytes) : Bytes := header 0xc0 payload.length ++ payload

mutual

/-- The written form of an item. -/
def Item.encode : Item → Bytes
  | .bytes payload => encodeBytes payload
  | .list items => encodeList (encodeItems items)

/-- The written forms of items, one after the other. -/
def encodeItems : List Item → Bytes
  | [] => []
  | item :: rest => Item.encode item ++ encodeItems rest

end

/-- What the lengths of payloads are below. -/
def lengthBound : Nat := Nat.pow 256 8

mutual

/-- Whether no payload in an item is too long. -/
def Item.fits : Item → Bool
  | .bytes payload => payload.length < lengthBound
  | .list items => (encodeItems items).length < lengthBound && allFit items

/-- Whether all items fit. -/
def allFit : List Item → Bool
  | [] => true
  | item :: rest => Item.fits item && allFit rest

end

/-- The written form of an item that fits. -/
def Item.encode? (item : Item) : Option Bytes := if item.fits then some item.encode else none

/-- A natural as a byte string in its shortest form. -/
def Item.ofNat (value : Nat) : Item := .bytes (Bytes.ofNat value)

end Rlp

end DepositGateway
