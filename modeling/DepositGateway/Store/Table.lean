import DepositGateway.Invoice.Record
import DepositGateway.Log.Entry
import DepositGateway.Store.Memory
import DepositGateway.Store.Rows

/-!
# The durable store

Invoices are kept as records in the rows of a table. A row that is no record is reported and
passed over when all are read, and keeps its bytes until its own key is set or deleted.

* `Store.readRows`: the readable rows in order; each of the others is reported.
* `Store.ofTable`: the store over a table in a part of the world.
-/

namespace DepositGateway

/-- A table of records; a table that is gone refuses every operation. -/
structure Table where
  rows : Rows := {}
  isGone : Bool := false

namespace Store

variable {ω : Type} (cell : Cell ω Table) (journal : Journal ω)

/-- Reports that the table refuses an operation. -/
def refused {α : Type} : Action ω α := do
  journal.error .store "Db interaction error"
  Action.fail (.store (.communicate "Could not communicate with database"))

/-- What the table does while it is there. -/
def withTable {α : Type} (operation : Action ω α) : Action ω α := do
  if ← cell.read (·.isGone) then refused journal else operation

/-- The text under which the table keeps a key. Null is never the key of a row; lists and objects
are refused, and so are integers of more than 64 bits. -/
def column (key : InvoiceKey) : Action ω (Option String) :=
  match key with
  | .text value => pure (some value)
  | .other .null => pure none
  | .other (.bool value) => pure (some (if value then "1" else "0"))
  | .other (.num (.int value)) =>
    if -Nat.pow 2 63 ≤ value ∧ value < Nat.pow 2 63 then pure (some (Decimal.textInt value))
    else Action.fail .overflow
  | .other (.num (.double x)) => pure (some (Number.double x).text)
  | .other _ => refused journal

/-- The invoice of a row. -/
def readRow (data : Bytes) : Action ω Invoice :=
  match Invoice.decode data with
  | .ok invoice => pure invoice
  | .error fault => Action.fail fault.toFault

/-- The readable rows; each of the others is reported. What is not a refusal ends the reading. -/
def readRows : List Row → Action ω (List (InvoiceKey × Invoice))
  | [] => return []
  | row :: rest => do
    match ← Action.attempt (readRow row.data) with
    | .ok invoice =>
      let others ← readRows rest
      return (.text row.key, invoice) :: others
    | .error (.store (.deserialize text)) => do
      journal.error .store ("Skipping unreadable invoice " ++ row.key ++ ": " ++ text)
      readRows rest
    | .error fault => Action.fail fault

/-- Changes the rows. -/
def updateRows (change : Rows → Rows) : Action ω Unit :=
  cell.update fun table => { table with rows := change table.rows }

/-- The row of a key. -/
def findRow (key : InvoiceKey) : Action ω (Option Row) := withTable cell journal do
  match ← column journal key with
  | some name => cell.read (·.rows.find? name)
  | none => return none

/-- Puts bytes into the row of a key. -/
def putRow (key : InvoiceKey) (data : Bytes) : Action ω Unit := withTable cell journal do
  match ← column journal key with
  | some name => updateRows cell (·.put name data)
  | none => refused journal

/-- Takes the row of a key out and tells whether there was one. -/
def eraseRow (key : InvoiceKey) : Action ω Bool := withTable cell journal do
  match ← column journal key with
  | some name => do
    let present ← cell.read fun table => (table.rows.find? name).isSome
    updateRows cell (·.erase name)
    return present
  | none => return false

/-- The store over a table in a part of the world. -/
def ofTable : Store ω where
  get key := do
    match ← findRow cell journal key with
    | some row => readRow row.data
    | none => Action.notFound key
  getAll := do
    let rows ← withTable cell journal (cell.read (·.rows.inOrder))
    readRows journal rows
  latest := do
    match ← withTable cell journal (cell.read (·.rows.latest?)) with
    | some row => return (.text row.key, ← readRow row.data)
    | none => Action.notFound default
  set key invoice := do
    let data ← Action.ofExcept invoice.encode
    putRow cell journal key data
  delete key := do
    if ← eraseRow cell journal key then return
    else Action.notFound key

end Store

end DepositGateway
