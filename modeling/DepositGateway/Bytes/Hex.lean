import DepositGateway.Bytes.BigEndian

/-!
# Hexadecimal text

* `Bytes.toHex` writes two lower-case digits a byte, without a mark in front; `Bytes.toHexMarked`
  puts `0x` in front.
* `Bytes.ofHex?` reads pairs of digits of either case and nothing else.
* `Bytes.ofSpacedHex?` also lets blanks stand between two pairs, never inside one.
* `Bytes.ofHex?_hexDigits`: reading what was written gives the bytes back.
-/

namespace DepositGateway

/-- The digit of a value below sixteen, in lower case. -/
def hexDigit (value : Nat) : Char :=
  if value < 10 then Char.ofNat (48 + value) else Char.ofNat (87 + value)

/-- The value of a hexadecimal digit of either case. -/
def hexValue? (digit : Char) : Option Nat :=
  if '0' ≤ digit ∧ digit ≤ '9' then some (digit.toNat - 48)
  else if 'a' ≤ digit ∧ digit ≤ 'f' then some (digit.toNat - 87)
  else if 'A' ≤ digit ∧ digit ≤ 'F' then some (digit.toNat - 55)
  else none

/-- A hexadecimal digit of either case. -/
def isHexDigit (digit : Char) : Bool := (hexValue? digit).isSome

/-- The six blanks that ASCII knows: space, tab, line feed, vertical tab, form feed, return. -/
def isAsciiBlank (c : Char) : Bool :=
  c == ' ' || (9 ≤ c.toNat && c.toNat ≤ 13)

/-- Reading a written digit gives its value back. -/
theorem hexValue?_hexDigit (value : Nat) (h : value < 16) :
    hexValue? (hexDigit value) = some value := by
  have all : ∀ v : Fin 16, hexValue? (hexDigit v.val) = some v.val := by decide
  exact all ⟨value, h⟩

namespace Bytes

/-- Two digits a byte, the higher half first. -/
def hexDigits (bytes : Bytes) : List Char :=
  bytes.flatMap fun byte => [hexDigit (byte.toNat / 16), hexDigit (byte.toNat % 16)]

/-- The text of the digits, without a mark in front. -/
def toHex (bytes : Bytes) : String := String.ofList (hexDigits bytes)

/-- The text of the digits after the mark `0x`. -/
def toHexMarked (bytes : Bytes) : String := "0x" ++ toHex bytes

/-- Reads pairs of digits; an odd count or any other character is refused. -/
def ofHex? : List Char → Option Bytes
  | [] => some []
  | [_] => none
  | high :: low :: rest => do
    let upper ← hexValue? high
    let lower ← hexValue? low
    let bytes ← ofHex? rest
    some (UInt8.ofNat (upper * 16 + lower) :: bytes)

/-- Reads pairs of digits with any blanks before, between and after the pairs. -/
def ofSpacedHex? : List Char → Option Bytes
  | [] => some []
  | high :: rest =>
    if isAsciiBlank high then ofSpacedHex? rest
    else match rest with
      | [] => none
      | low :: rest => do
        let upper ← hexValue? high
        let lower ← hexValue? low
        let bytes ← ofSpacedHex? rest
        some (UInt8.ofNat (upper * 16 + lower) :: bytes)

/-- Reading written digits gives the bytes back. -/
theorem ofHex?_hexDigits (bytes : Bytes) : ofHex? (hexDigits bytes) = some bytes := by
  induction bytes with
  | nil => rfl
  | cons byte rest ih =>
    have hb : byte.toNat < 256 := byte.toNat_lt
    have high := hexValue?_hexDigit (byte.toNat / 16) (by omega)
    have low := hexValue?_hexDigit (byte.toNat % 16) (by omega)
    have whole : byte.toNat / 16 * 16 + byte.toNat % 16 = byte.toNat := by omega
    have tail : ofHex? (List.flatMap (fun byte : UInt8 =>
        [hexDigit (byte.toNat / 16), hexDigit (byte.toNat % 16)]) rest) = some rest := ih
    simp only [hexDigits, List.flatMap_cons, List.cons_append, List.nil_append, ofHex?]
    rw [high, low, tail]
    change some (UInt8.ofNat (byte.toNat / 16 * 16 + byte.toNat % 16) :: rest) = _
    rw [whole, UInt8.ofNat_toNat]

end Bytes

end DepositGateway
