import DepositGateway.Bytes.Hex
import DepositGateway.Hash.Keccak

/-!
# Addresses

An address is twenty bytes. Its text is forty hexadecimal digits, with or without the mark `0x`;
the checksum form has the mark and tells by the case of each letter whether the text was mistyped.
Where an address is first given, a text with letters of both cases may therefore be refused unless
it is in checksum form. Libraries for addresses differ in this, so it is a rule that is chosen.

* `Address.ofText?` reads the text of an address in any case, `Address.isText` asks whether it
  would.
* `Address.checksum` writes the checksum form.
* `Address.checksum?` brings the text of an address into checksum form.
* `Address.CaseRule` is what is asked of the letters of an address that is given,
  `Address.accepted?` the checksum form of one that keeps to it.
-/

namespace DepositGateway

namespace Address

/-- The digits of a text without the mark `0x` or `0X` that may stand in front. -/
def digits : List Char → List Char
  | '0' :: 'x' :: rest => rest
  | '0' :: 'X' :: rest => rest
  | text => text

/-- The twenty bytes that a text of forty digits stands for. -/
def ofText? (text : String) : Option Bytes :=
  let found := digits text.toList
  if found.length = 40 then Bytes.ofHex? found else none

/-- Whether a text is that of an address. -/
def isText (text : String) : Bool := (ofText? text).isSome

/-- The upper-case form of a lower-case hexadecimal digit. -/
def capital (digit : Char) : Char :=
  if 'a' ≤ digit ∧ digit ≤ 'f' then Char.ofNat (digit.toNat - 32) else digit

/-- A letter is a capital where the digest of the lower-case digits has a digit of eight or more. -/
def checksumDigits (address : Bytes) : List Char :=
  let plain := Bytes.hexDigits address
  let digest := keccak256 (plain.map fun c => UInt8.ofNat c.toNat)
  let halves := digest.flatMap fun byte => [byte.toNat / 16, byte.toNat % 16]
  plain.zipWith (fun digit half => if 8 ≤ half then capital digit else digit) halves

/-- The checksum form of an address. -/
def checksum (address : Bytes) : String := String.ofList ('0' :: 'x' :: checksumDigits address)

/-- The checksum form of the address that a text stands for. -/
def checksum? (text : String) : Option String := (ofText? text).map checksum

/-- What is asked of the letters of an address. -/
inductive CaseRule where
  /-- Nothing: they may stand in either case. -/
  | lenient
  /-- They are all small, all capitals, or as in the checksum form. -/
  | strict
  deriving DecidableEq

/-- Whether there are letters of both cases. -/
def isMixed (text : List Char) : Bool := text.any Char.isLower && text.any Char.isUpper

/-- Whether the text of an address with the given checksum form keeps to a rule. -/
def CaseRule.admits (rule : CaseRule) (text checksum : String) : Bool :=
  match rule with
  | lenient => true
  | strict => !isMixed (digits text.toList) || text == checksum

/-- The checksum form of the address that a text stands for, if the text keeps to a rule. -/
def accepted? (rule : CaseRule) (text : String) : Option String :=
  (checksum? text).filter (rule.admits text)

end Address

end DepositGateway
