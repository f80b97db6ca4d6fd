import DepositGateway.Number
import DepositGateway.Text.Utf16

/-!
# JSON values

An object keeps its members in the order of insertion, each key once. Texts are kept as
sixteen-bit units, so that every escape has a value.

* `Json.member?` looks a key up, `Json.setMember` replaces in place or appends.
* `Json.truthy` is what counts as given: neither null, false, zero nor empty.
* `Json.sortKeys` brings the members of every object into the order of their keys.
* Equality is decidable.
-/

namespace DepositGateway

/-- A JSON value. -/
inductive Json where
  | null
  | bool (value : Bool)
  | num (value : Number)
  | str (units : Utf16)
  | arr (items : List Json)
  | obj (members : List (Utf16 × Json))

namespace Json

instance : Inhabited Json := ⟨.null⟩

/-- An integer as a value. -/
abbrev int (value : Int) : Json := .num (.int value)

/-- A text as a value. -/
def text (value : String) : Json := .str (Utf16.ofString value)

/-- A natural as a value. -/
abbrev nat (value : Nat) : Json := .int value

/-- A text that may be absent, null where it is. -/
def textOrNull : Option String → Json
  | none => .null
  | some value => .text value

/-- An object from names and values. -/
def object (members : List (String × Json)) : Json :=
  .obj (members.map fun (name, value) => (Utf16.ofString name, value))

/-! ## Equality -/

mutual

/-- Whether two values are the same, members in the same order. -/
def beq : Json → Json → Bool
  | .null, .null => true
  | .bool a, .bool b => a == b
  | .num a, .num b => decide (a = b)
  | .str a, .str b => a == b
  | .arr a, .arr b => beqItems a b
  | .obj a, .obj b => beqMembers a b
  | _, _ => false

/-- Whether two lists of values are the same. -/
def beqItems : List Json → List Json → Bool
  | [], [] => true
  | a :: as, b :: bs => beq a b && beqItems as bs
  | _, _ => false

/-- Whether two lists of members are the same. -/
def beqMembers : List (Utf16 × Json) → List (Utf16 × Json) → Bool
  | [], [] => true
  | (k, a) :: as, (l, b) :: bs => k == l && (beq a b && beqMembers as bs)
  | _, _ => false

end

mutual

theorem beq_iff : ∀ a b : Json, beq a b = true ↔ a = b
  | .null, b => by cases b <;> simp [beq]
  | .bool a, b => by cases b <;> simp [beq]
  | .num a, b => by cases b <;> simp [beq]
  | .str a, b => by cases b <;> simp [beq]
  | .arr as, b => by cases b <;> simp [beq, beqItems_iff as]
  | .obj as, b => by cases b <;> simp [beq, beqMembers_iff as]

theorem beqItems_iff : ∀ as bs : List Json, beqItems as bs = true ↔ as = bs
  | [], bs => by cases bs <;> simp [beqItems]
  | a :: as, bs => by cases bs <;> simp [beqItems, beq_iff a, beqItems_iff as]

theorem beqMembers_iff : ∀ as bs : List (Utf16 × Json), beqMembers as bs = true ↔ as = bs
  | [], bs => by cases bs <;> simp [beqMembers]
  | (k, a) :: as, bs => by
    rcases bs with _ | ⟨⟨l, b⟩, bs⟩
    · simp [beqMembers]
    · simp [beqMembers, beq_iff a, beqMembers_iff as, and_assoc]

end

instance : DecidableEq Json := fun a b =>
  decidable_of_iff (beq a b = true) (beq_iff a b)

/-! ## Members -/

/-- The value of a key in a list of members. -/
def lookup (key : Utf16) : List (Utf16 × Json) → Option Json
  | [] => none
  | (other, value) :: rest => if other = key then some value else lookup key rest

/-- Replaces the value of a key in its place, or appends the member. -/
def insert (key : Utf16) (value : Json) : List (Utf16 × Json) → List (Utf16 × Json)
  | [] => [(key, value)]
  | (other, old) :: rest =>
    if other = key then (other, value) :: rest else (other, old) :: insert key value rest

/-- The value of a key of an object. -/
def member? (name : String) : Json → Option Json
  | .obj members => lookup (Utf16.ofString name) members
  | _ => none

/-- An object with the value of a key set; any other value stays as it is. -/
def setMember (name : String) (value : Json) : Json → Json
  | .obj members => .obj (insert (Utf16.ofString name) value members)
  | other => other

/-- The value of a key, null where the object does not have it. -/
def memberOrNull (name : String) (value : Json) : Json := (value.member? name).getD .null

/-! ## Readings -/

/-- Whether a value counts as given: null, false, zero and all that is empty do not. -/
def truthy : Json → Bool
  | .null => false
  | .bool value => value
  | .num value => !value.same 0
  | .str units => !units.isEmpty
  | .arr items => !items.isEmpty
  | .obj members => !members.isEmpty

/-- The number that a value compares as; a truth value compares as one or zero. -/
def asNumber? : Json → Option Number
  | .bool value => some (if value then 1 else 0)
  | .num value => some value
  | _ => none

/-- Whether a value equals a given integer. -/
def equalsInt (expected : Int) (value : Json) : Bool :=
  match value.asNumber? with
  | some number => number.same (.int expected)
  | none => false

/-! ## Order of keys -/

mutual

/-- The members of every object in the order of their keys, at every depth. -/
def sortKeys : Json → Json
  | .arr items => .arr (sortItems items)
  | .obj members => .obj ((sortMembers members).mergeSort fun a b => Utf16.precedes a.1 b.1)
  | value => value

/-- The items with their keys in order. -/
def sortItems : List Json → List Json
  | [] => []
  | item :: rest => sortKeys item :: sortItems rest

/-- The members with the keys of their values in order, not yet their own. -/
def sortMembers : List (Utf16 × Json) → List (Utf16 × Json)
  | [] => []
  | (key, value) :: rest => (key, sortKeys value) :: sortMembers rest

end

end Json

end DepositGateway
