import DepositGateway.Bytes.Hex
import DepositGateway.Json.Display
import DepositGateway.Json.Integer

/-!
# Values from a node

What the library that talks to a node hands back may have any shape: JSON, byte strings, and
things that are neither. Each reading says what it takes and which failure anything else is.

* `NodeValue.toInteger` reads an integer.
* `NodeValue.get` looks up a key that may be absent, `NodeValue.index` one that must be there.
* `NodeValue.toJson?` is the value as JSON, byte strings as marked hexadecimal text.
-/

namespace DepositGateway

/-- A value from a node. -/
inductive NodeValue where
  | null
  | bool (value : Bool)
  | num (value : Number)
  | str (units : Utf16)
  | bytes (value : Bytes)
  | arr (items : List NodeValue)
  | obj (members : List (Utf16 × NodeValue))
  /-- Something without a written form. -/
  | opaqueValue

namespace NodeValue

instance : Inhabited NodeValue := ⟨.null⟩

/-- A text as a value. -/
def text (value : String) : NodeValue := .str (Utf16.ofString value)

/-- A key that must be there is not. -/
def missingKey : Fault := .other ⟨.missingKey, none⟩

/-- The integer that a value stands for; a byte string is read as ASCII text. -/
def toInteger : NodeValue → Except Fault Int
  | bool value => .ok (if value then 1 else 0)
  | num number => number.toInteger
  | str units => (Json.str units).toInteger
  | bytes value =>
    match integerOfText? (value.map fun byte => Char.ofNat byte.toNat) with
    | some number => if value.all (· < 0x80) then .ok number else .error .badValue
    | none => .error .badValue
  | _ => .error .badType

/-- The value of a key in a list of members. -/
def lookup (key : Utf16) : List (Utf16 × NodeValue) → Option NodeValue
  | [] => none
  | (other, value) :: rest => if other = key then some value else lookup key rest

/-- The value of a key, null where the object does not have it. Only objects can be asked, and only
those without a key `get`, which would stand in the way of asking. -/
def get (name : String) : NodeValue → Except Fault NodeValue
  | obj members =>
    match lookup (Utf16.ofString "get") members with
    | some _ => .error .badType
    | none => .ok ((lookup (Utf16.ofString name) members).getD .null)
  | _ => .error .missingAttribute

/-- The value of a key that the object must have. -/
def index (name : String) : NodeValue → Except Fault NodeValue
  | obj members =>
    match lookup (Utf16.ofString name) members with
    | some value => .ok value
    | none => .error missingKey
  | _ => .error .badType

/-- The values that a value is run through by: the items of a list, the keys of an object, the
characters of a text. -/
def elements : NodeValue → Except Fault (List NodeValue)
  | arr items => .ok items
  | obj members => .ok (members.map fun (key, _) => .str key)
  | str units => .ok (units.map fun unit => .str [unit])
  | bytes value => .ok (value.map fun byte => .num (.int byte.toNat))
  | _ => .error .badType

mutual

/-- The value as JSON; something without a written form has none. -/
def toJson? : NodeValue → Option Json
  | null => some .null
  | bool value => some (.bool value)
  | num value => some (.num value)
  | str units => some (.str units)
  | bytes value => some (.text (Bytes.toHexMarked value))
  | arr items => (itemsToJson? items).map .arr
  | obj members => (membersToJson? members).map .obj
  | opaqueValue => none

/-- The items as JSON. -/
def itemsToJson? : List NodeValue → Option (List Json)
  | [] => some []
  | item :: rest => do
    let item ← toJson? item
    let rest ← itemsToJson? rest
    some (item :: rest)

/-- The members as JSON. -/
def membersToJson? : List (Utf16 × NodeValue) → Option (List (Utf16 × Json))
  | [] => some []
  | (key, value) :: rest => do
    let value ← toJson? value
    let rest ← membersToJson? rest
    some ((key, value) :: rest)

end

/-- The value as JSON, null where it has no written form. -/
def toJson (value : NodeValue) : Json := value.toJson?.getD .null

mutual

/-- A value inside a list or an object in a message, bytes and objects under the names of their
kinds. -/
def displayInside : NodeValue → List Char
  | null => Json.displayInside .null
  | bool value => Json.displayInside (.bool value)
  | num value => Json.displayInside (.num value)
  | str units => Json.displayInside (.str units)
  | bytes value =>
    "HexBytes(".toList ++ '\'' :: '0' :: 'x' :: Bytes.hexDigits value ++ ['\'', ')']
  | arr items => '[' :: displayItems items ++ [']']
  | obj members => "AttributeDict(".toList ++ '\x7b' :: displayMembers members ++ ['\x7d', ')']
  | opaqueValue => []

/-- The items with their commas. -/
def displayItems : List NodeValue → List Char
  | [] => []
  | [item] => displayInside item
  | item :: next :: rest => displayInside item ++ ',' :: ' ' :: displayItems (next :: rest)

/-- The members with their colons and commas. -/
def displayMembers : List (Utf16 × NodeValue) → List Char
  | [] => []
  | [(key, value)] => Quoted.ofPoints (Utf16.codePoints key) ++ ':' :: ' ' :: displayInside value
  | (key, value) :: next :: rest =>
    Quoted.ofPoints (Utf16.codePoints key) ++ ':' :: ' ' :: displayInside value
      ++ ',' :: ' ' :: displayMembers (next :: rest)

end

/-- The value in a message. -/
def display : NodeValue → String
  | str units => Utf16.toText units
  | bytes value => String.ofList (Quoted.ofBytes value)
  | value => String.ofList value.displayInside

mutual

/-- Whether every integer in the value is within the limit of digits. -/
def isWritable : NodeValue → Bool
  | num value => value.isWritable
  | arr items => areWritable items
  | obj members => membersAreWritable members
  | _ => true

/-- Whether every item is writable. -/
def areWritable : List NodeValue → Bool
  | [] => true
  | item :: rest => isWritable item && areWritable rest

/-- Whether every member is writable. -/
def membersAreWritable : List (Utf16 × NodeValue) → Bool
  | [] => true
  | (_, value) :: rest => isWritable value && membersAreWritable rest

end

/-- The hexadecimal text of a number, after a minus sign where it is negative. -/
def hexOfInt (value : Int) : String :=
  let digits := (Nat.toDigits 16 value.natAbs)
  String.ofList ((if value < 0 then ['-'] else []) ++ '0' :: 'x' :: digits)

/-- The marked hexadecimal text of bytes, an integer or a truth value. -/
def toHex : NodeValue → Except Fault String
  | bytes value => .ok (Bytes.toHexMarked value)
  | bool value => .ok (if value then "0x1" else "0x0")
  | num (.int value) => .ok (hexOfInt value)
  | _ => .error .badType

end NodeValue

end DepositGateway
