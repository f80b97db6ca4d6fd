import DepositGateway.Action
import DepositGateway.Invoice.Basic
import DepositGateway.Store.Key

/-!
# Invoice stores

A store keeps invoices under distinct keys in order of insertion. What it hands out are values of
their own; changing one never changes what is stored.
-/

namespace DepositGateway

/-- The operations of a store. -/
structure Store (ω : Type) where
  get : (key : InvoiceKey) → Action ω Invoice
  /-- All entries in order of insertion. -/
  getAll : Action ω (List (InvoiceKey × Invoice))
  /-- The entry that was inserted last. -/
  latest : Action ω (InvoiceKey × Invoice)
  /-- Replaces in place where the key is present, and appends otherwise. -/
  set : (key : InvoiceKey) → Invoice → Action ω Unit
  delete : (key : InvoiceKey) → Action ω Unit

/-- An operation of a store. -/
inductive StoreMethod where
  | get
  | getAll
  | latest
  | set
  | delete
  deriving DecidableEq

/-- Where a part of a world is kept. -/
structure Cell (ω σ : Type) where
  look : ω → σ
  put : σ → ω → ω

namespace Cell

variable {ω σ : Type} (cell : Cell ω σ)

/-- Reads the part. -/
def read {α : Type} (view : σ → α) : Action ω α := Action.read fun world => view (cell.look world)

/-- Changes the part. -/
def update (change : σ → σ) : Action ω Unit :=
  Action.update fun world => cell.put (change (cell.look world)) world

/-- The whole world as its own part. -/
def whole : Cell ω ω := ⟨id, fun part _ => part⟩

end Cell

end DepositGateway
