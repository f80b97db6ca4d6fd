import DepositGateway.Invoice.Basic

/-!
# Copies of invoices

A copy of an invoice shares nothing with it: its key is a key of its own, and its receipt is built
anew through all its depth, the members of each object in the order they had.

* `Json.copy`, `SecretKey.copy`, `Invoice.copy`: the copies.
* `Invoice.copy_eq`: a copy has the value of the original.
-/

namespace DepositGateway

namespace Json

mutual

/-- A value built anew through all its depth. -/
def copy : Json → Json
  | .arr items => .arr (copyItems items)
  | .obj members => .obj (copyMembers members)
  | value => value

/-- The copies of the items, in their order. -/
def copyItems : List Json → List Json
  | [] => []
  | item :: rest => copy item :: copyItems rest

/-- The members with copies of their values, in their order. -/
def copyMembers : List (Utf16 × Json) → List (Utf16 × Json)
  | [] => []
  | (key, value) :: rest => (key, copy value) :: copyMembers rest

end

mutual

theorem copy_eq : ∀ value : Json, copy value = value
  | .null | .bool _ | .num _ | .str _ => rfl
  | .arr items => by rw [copy, copyItems_eq items]
  | .obj members => by rw [copy, copyMembers_eq members]

theorem copyItems_eq : ∀ items : List Json, copyItems items = items
  | [] => rfl
  | item :: rest => by rw [copyItems, copy_eq item, copyItems_eq rest]

theorem copyMembers_eq : ∀ members : List (Utf16 × Json), copyMembers members = members
  | [] => rfl
  | (key, value) :: rest => by rw [copyMembers, copy_eq value, copyMembers_eq rest]

end

end Json

/-- A key of its own with the same bytes. -/
def SecretKey.copy (key : SecretKey) : SecretKey := ⟨key.bytes⟩

namespace Invoice

/-- An invoice of its own with the same fields. -/
def copy (invoice : Invoice) : Invoice :=
  { invoice with wallet := invoice.wallet.copy, receipt := invoice.receipt.copy }

/-- A copy has the value of the original. -/
theorem copy_eq (invoice : Invoice) : invoice.copy = invoice := by
  rw [copy, Json.copy_eq]
  rfl

end Invoice

end DepositGateway
