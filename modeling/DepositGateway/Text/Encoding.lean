import DepositGateway.Bytes.BigEndian
import DepositGateway.Text.Utf16
import DepositGateway.Text.Utf8

/-!
# Encodings of texts

A text that begins with two ASCII characters shows by the zeros among its first bytes how wide its
units are and which end of them comes first.

* `TextEncoding.ofBytes`: the encoding that bytes show.
* `TextEncoding.read?`: the text of bytes in an encoding.
-/

namespace DepositGateway

/-- An encoding; of wide units either the greatest byte comes first or the least one. -/
inductive TextEncoding where
  | utf8
  | utf16 (greatestFirst : Bool)
  | utf32 (greatestFirst : Bool)
  deriving DecidableEq

namespace TextEncoding

/-- The encoding that the first bytes show. -/
def ofBytes : Bytes → TextEncoding
  | [first, second] =>
    if first = 0 then utf16 true
    else if second = 0 then utf16 false
    else utf8
  | first :: second :: third :: fourth :: _ =>
    if first = 0 then
      if second = 0 then utf32 true else utf16 true
    else if second = 0 then
      if third = 0 ∧ fourth = 0 then utf32 false else utf16 false
    else utf8
  | _ => utf8

/-- The numbers of two bytes each. -/
def pairs? (greatestFirst : Bool) : Bytes → Option (List Nat)
  | [] => some []
  | first :: second :: rest =>
    let bytes := [first, second]
    (pairs? greatestFirst rest).map
      (Bytes.toNat (if greatestFirst then bytes else bytes.reverse) :: ·)
  | _ => none

/-- The numbers of four bytes each. -/
def quadruples? (greatestFirst : Bool) : Bytes → Option (List Nat)
  | [] => some []
  | first :: second :: third :: fourth :: rest =>
    let bytes := [first, second, third, fourth]
    (quadruples? greatestFirst rest).map
      (Bytes.toNat (if greatestFirst then bytes else bytes.reverse) :: ·)
  | _ => none

/-- The text of bytes in an encoding; in UTF-8 a byte order mark in front does not count. -/
def read? : TextEncoding → Bytes → Option String
  | utf8, 0xef :: 0xbb :: 0xbf :: rest => Utf8.read? rest
  | utf8, bytes => Utf8.read? bytes
  | utf16 greatestFirst, bytes => do
    let units ← pairs? greatestFirst bytes
    Utf16.toString? (units.map UInt16.ofNat)
  | utf32 greatestFirst, bytes => do
    let points ← quadruples? greatestFirst bytes
    return String.ofList (← points.mapM Utf16.char?)

end TextEncoding

end DepositGateway
