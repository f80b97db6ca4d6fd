import DepositGateway.Json.Display

/-!
# Keys of invoices

Invoices are stored under texts. Whoever asks a store may ask for anything else as well: a value
that is no text is a key of its own, unless it is a list or an object.

* `InvoiceKey.ofJson`, `InvoiceKey.toJson`: keys as values.
* `InvoiceKey.display`: a key in a message.
-/

namespace DepositGateway

/-- A key. -/
inductive InvoiceKey where
  | text (value : String)
  /-- A value that is no text. -/
  | other (value : Json)
  deriving DecidableEq

namespace InvoiceKey

instance : Inhabited InvoiceKey := ⟨.text ""⟩

/-- The key that a value is; a double without a fraction is the key of its integer. -/
def ofJson : Json → InvoiceKey
  | .str units => .text (Utf16.toText units)
  | .num (.double x) =>
    match x.toInt? with
    | some value => .other (.int value)
    | none => .other (.num (.double x))
  | value => .other value

/-- The key as a value. -/
def toJson : InvoiceKey → Json
  | text value => .text value
  | other value => value

/-- The key in a message. -/
def display : InvoiceKey → String
  | text value => value
  | other value => value.display

/-- The key in a message that tells it only where it is neither empty nor zero. -/
def named : InvoiceKey → String
  | text value => value
  | other value => if value.truthy then value.display else ""

/-- Whether invoices can be looked for under the key: not under lists and objects. -/
def isSingle : InvoiceKey → Bool
  | text _ => true
  | other (.arr _) => false
  | other (.obj _) => false
  | other _ => true

end InvoiceKey

end DepositGateway
