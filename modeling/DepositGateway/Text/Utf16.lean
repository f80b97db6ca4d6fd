/-!
# Text as sixteen-bit units

Escapes in JSON name sixteen-bit units, so a text there may hold half of a surrogate pair. Such a
text is kept as its units; the code points they form order it.

* `Utf16.ofString` and `Utf16.toString?` go from text to units and back.
* `Utf16.codePoints` joins pairs and leaves a half that stands alone as it is.
* `Utf16.precedes` is the order by code points.
-/

namespace DepositGateway

/-- A text as its sixteen-bit units. -/
abbrev Utf16 := List UInt16

namespace Utf16

/-- One unit for a character of the first plane, a pair for any other. -/
def ofChar (c : Char) : Utf16 :=
  let point := c.toNat
  if point < 0x10000 then [UInt16.ofNat point]
  else [UInt16.ofNat (0xd800 + (point - 0x10000) / 0x400),
    UInt16.ofNat (0xdc00 + (point - 0x10000) % 0x400)]

/-- The units of a text. -/
def ofChars (text : List Char) : Utf16 := text.flatMap ofChar

/-- The units of a text. -/
def ofString (text : String) : Utf16 := ofChars text.toList

/-- The first half of a pair. -/
def isLeading (unit : UInt16) : Bool := 0xd800 ≤ unit && unit < 0xdc00

/-- The second half of a pair. -/
def isTrailing (unit : UInt16) : Bool := 0xdc00 ≤ unit && unit < 0xe000

/-- The code points, pairs joined; a half without its other half stands for itself. -/
def codePoints : Utf16 → List Nat
  | [] => []
  | [unit] => [unit.toNat]
  | first :: second :: rest =>
    if isLeading first && isTrailing second then
      (0x10000 + (first.toNat - 0xd800) * 0x400 + (second.toNat - 0xdc00)) :: codePoints rest
    else first.toNat :: codePoints (second :: rest)

/-- The units of each character in turn, a half of a pair that stands alone by itself. -/
def characters : Utf16 → List Utf16
  | [] => []
  | [unit] => [[unit]]
  | first :: second :: rest =>
    if isLeading first && isTrailing second then [first, second] :: characters rest
    else [first] :: characters (second :: rest)

/-- The character of a code point, where it is one. -/
def char? (point : Nat) : Option Char :=
  if h : point.isValidChar then some (Char.ofNatAux point h) else none

/-- The text of the units, where no half of a pair stands alone. -/
def toString? (units : Utf16) : Option String := do
  let chars ← (codePoints units).mapM char?
  return String.ofList chars

/-- The text of the units, with `?` in place of any half that stands alone. -/
def toText (units : Utf16) : String :=
  String.ofList ((codePoints units).map fun point => (char? point).getD '?')

/-- The order of lists by their first difference; a list comes before all that it begins. -/
def listPrecedes : List Nat → List Nat → Bool
  | [], _ => true
  | _ :: _, [] => false
  | a :: as, b :: bs => decide (a < b) || (a == b && listPrecedes as bs)

/-- The order by code points. -/
def precedes (a b : Utf16) : Bool := listPrecedes (codePoints a) (codePoints b)

end Utf16

end DepositGateway
