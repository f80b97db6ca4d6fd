import DepositGateway.Bytes.Hex
import DepositGateway.Text.Visible

/-!
# Quoted text

A text between quotes, every character in it visible. Single quotes are used unless the text holds
one and no double quote. A backslash stands before itself and before the quote in use; characters
that would not show are written by their number.

* `Quoted.ofPoints`: the quoted form of a text given by its code points.
* `Quoted.ofBytes`: that of bytes, after the letter b.
-/

namespace DepositGateway

namespace Quoted

/-- The last `places` hexadecimal digits of a number. -/
def lastDigits : Nat → Nat → List Char
  | 0, _ => []
  | places + 1, n => lastDigits places (n / 16) ++ [hexDigit (n % 16)]

/-- The quoted form of one code point. -/
def ofPoint (quote : Char) (point : Nat) : List Char :=
  if point = quote.toNat ∨ point = 0x5c then ['\\', Char.ofNat point]
  else if point = 0x0a then ['\\', 'n']
  else if point = 0x0d then ['\\', 'r']
  else if point = 0x09 then ['\\', 't']
  else if Visible.isHidden point then
    if point < 0x100 then '\\' :: 'x' :: lastDigits 2 point
    else if point < 0x10000 then '\\' :: 'u' :: lastDigits 4 point
    else '\\' :: 'U' :: lastDigits 8 point
  else [Char.ofNat point]

/-- The quoted form of a text. -/
def ofPoints (points : List Nat) : List Char :=
  let quote := if points.contains 0x27 && !points.contains 0x22 then '"' else '\''
  quote :: points.flatMap (ofPoint quote) ++ [quote]

/-- The quoted form of bytes, a byte in ASCII as its character and any other by its number. -/
def ofBytes (bytes : Bytes) : List Char :=
  let points := bytes.map UInt8.toNat
  let quote := if points.contains 0x27 && !points.contains 0x22 then '"' else '\''
  let quoted := fun point =>
    if point < 0x80 then ofPoint quote point else '\\' :: 'x' :: lastDigits 2 point
  'b' :: quote :: points.flatMap quoted ++ [quote]

/-- The quoted form of a text. -/
def ofString (text : String) : String :=
  String.ofList (ofPoints (text.toList.map Char.toNat))

end Quoted

end DepositGateway
