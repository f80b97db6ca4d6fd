import DepositGateway.Json.Value
import DepositGateway.Text.Quoted

/-!
# Values in messages

How a value stands in a line of text for people: a text as it is, absence as `None`, truth values
with a capital, lists and objects with their texts quoted.

* `Json.display`: the text of a value.
-/

namespace DepositGateway

namespace Json

/-- The text of a truth value. -/
def displayBool (value : Bool) : List Char :=
  if value then ['T', 'r', 'u', 'e'] else ['F', 'a', 'l', 's', 'e']

mutual

/-- A value inside a list or an object. -/
def displayInside : Json → List Char
  | .null => ['N', 'o', 'n', 'e']
  | .bool value => displayBool value
  | .num number => number.digits .plain
  | .str units => Quoted.ofPoints (Utf16.codePoints units)
  | .arr items => '[' :: displayItems items ++ [']']
  | .obj members => '\x7b' :: displayMembers members ++ ['\x7d']

/-- The items with their commas. -/
def displayItems : List Json → List Char
  | [] => []
  | [item] => displayInside item
  | item :: next :: rest => displayInside item ++ ',' :: ' ' :: displayItems (next :: rest)

/-- The members with their colons and commas. -/
def displayMembers : List (Utf16 × Json) → List Char
  | [] => []
  | [(key, value)] => Quoted.ofPoints (Utf16.codePoints key) ++ ':' :: ' ' :: displayInside value
  | (key, value) :: next :: rest =>
    Quoted.ofPoints (Utf16.codePoints key) ++ ':' :: ' ' :: displayInside value
      ++ ',' :: ' ' :: displayMembers (next :: rest)

end

/-- The text of a value. -/
def display : Json → String
  | .str units => Utf16.toText units
  | value => String.ofList (displayInside value)

end Json

end DepositGateway
