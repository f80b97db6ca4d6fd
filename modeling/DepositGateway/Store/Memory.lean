import DepositGateway.Store.Basic
import DepositGateway.Store.Keyed

/-!
# The volatile store

Invoices are kept as they are. Whatever ends the process loses every pending invoice and its key.
-/

namespace DepositGateway

/-- Fails because a key is not there. -/
def Action.notFound {ω α : Type} (key : InvoiceKey) : Action ω α :=
  Action.fail (.store (.notFound key.named))

namespace Store

variable {ω : Type}

/-- What is found under a key; nothing can be looked for under a list or an object. -/
def found (cell : Cell ω (Keyed InvoiceKey Invoice)) (key : InvoiceKey) :
    Action ω (Option Invoice) :=
  if key.isSingle then cell.read (·.find? key) else Action.fail .badType

/-- The store that keeps its invoices in a part of the world. -/
def ofMemory (cell : Cell ω (Keyed InvoiceKey Invoice)) : Store ω where
  get key := do
    match ← found cell key with
    | some invoice => return invoice
    | none => Action.notFound key
  getAll := cell.read (·.entries)
  latest := do
    match ← cell.read (·.latest?) with
    | some entry => return entry
    | none => Action.notFound default
  set key invoice := do
    let _ ← found cell key
    cell.update (·.put key invoice)
  delete key := do
    match ← found cell key with
    | some _ => cell.update (·.erase key)
    | none => Action.notFound key

end Store

end DepositGateway
