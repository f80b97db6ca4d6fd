import DepositGateway.Bytes.Hex
import DepositGateway.Json.Value

/-!
# JSON text

The written form has a blank after each comma and colon, the keys of every object in order, and
ASCII characters alone: any other unit is written as an escape of four lower-case digits.

* `Json.print` writes a value in the order its members have.
* `Json.render` sorts the keys first.
* `Json.isWritable` tells whether every integer is within the limit of digits.
-/

namespace DepositGateway

namespace Json

/-- The escape of a unit by its four hexadecimal digits. -/
def escapeUnit (unit : UInt16) : List Char :=
  let n := unit.toNat
  ['\\', 'u', hexDigit (n / 4096), hexDigit (n / 256 % 16), hexDigit (n / 16 % 16),
    hexDigit (n % 16)]

/-- The written form of one unit of a text. -/
def printUnit (unit : UInt16) : List Char :=
  if unit = 0x22 then ['\\', '"']
  else if unit = 0x5c then ['\\', '\\']
  else if unit = 0x0a then ['\\', 'n']
  else if unit = 0x0d then ['\\', 'r']
  else if unit = 0x09 then ['\\', 't']
  else if unit = 0x0c then ['\\', 'f']
  else if unit = 0x08 then ['\\', 'b']
  else if 0x20 ≤ unit ∧ unit < 0x7f then [Char.ofNat unit.toNat]
  else escapeUnit unit

/-- A text between its quotes. -/
def printText (units : Utf16) : List Char := '"' :: units.flatMap printUnit ++ ['"']

mutual

/-- The text of a value, members in the order they have. -/
def print : Json → List Char
  | .null => ['n', 'u', 'l', 'l']
  | .bool true => ['t', 'r', 'u', 'e']
  | .bool false => ['f', 'a', 'l', 's', 'e']
  | .num value => value.digits .json
  | .str units => printText units
  | .arr items => '[' :: printItems items ++ [']']
  | .obj members => '\x7b' :: printMembers members ++ ['\x7d']

/-- The items with their commas. -/
def printItems : List Json → List Char
  | [] => []
  | [item] => print item
  | item :: next :: rest => print item ++ ',' :: ' ' :: printItems (next :: rest)

/-- The members with their colons and commas. -/
def printMembers : List (Utf16 × Json) → List Char
  | [] => []
  | [(key, value)] => printText key ++ ':' :: ' ' :: print value
  | (key, value) :: next :: rest =>
    printText key ++ ':' :: ' ' :: print value ++ ',' :: ' ' :: printMembers (next :: rest)

end

/-- The text of a value with the keys of every object in order. -/
def render (value : Json) : List Char := print value.sortKeys

mutual

/-- Whether every integer in the value is within the limit of digits. -/
def isWritable : Json → Bool
  | .num value => value.isWritable
  | .arr items => areWritable items
  | .obj members => membersAreWritable members
  | _ => true

/-- Whether every item is writable. -/
def areWritable : List Json → Bool
  | [] => true
  | item :: rest => isWritable item && areWritable rest

/-- Whether every member is writable. -/
def membersAreWritable : List (Utf16 × Json) → Bool
  | [] => true
  | (_, value) :: rest => isWritable value && membersAreWritable rest

end

end Json

end DepositGateway
