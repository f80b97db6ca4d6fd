import DepositGateway.Store.Table

/-!
# Where a simulation keeps its invoices

In memory, in a table that is lost with its connection, or in a table of a file.

* `Shelf.reopened`: what is left after the store was closed and opened again.
-/

namespace DepositGateway

/-- A place for invoices. -/
inductive Shelf where
  | memory (invoices : Keyed InvoiceKey Invoice)
  | table (table : Table)
  | file (table : Table)

namespace Shelf

/-- The invoices in memory. -/
def invoices : Shelf → Keyed InvoiceKey Invoice
  | memory invoices => invoices
  | _ => {}

/-- Puts the invoices in memory. -/
def setInvoices (invoices : Keyed InvoiceKey Invoice) : Shelf → Shelf
  | memory _ => memory invoices
  | shelf => shelf

/-- The table. -/
def rows : Shelf → Table
  | memory _ => {}
  | table content => content
  | file content => content

/-- Puts a table in the place of the present one. -/
def setRows (content : Table) : Shelf → Shelf
  | memory invoices => memory invoices
  | table _ => table content
  | file _ => file content

/-- Whether the invoices are in memory. -/
def isMemory : Shelf → Bool
  | memory _ => true
  | _ => false

/-- What is left after closing and opening: the rows of a file, whose table is made anew where it
was gone. -/
def reopened : Shelf → Shelf
  | memory _ => memory {}
  | table _ => table {}
  | file content => file (if content.isGone then {} else content)

end Shelf

end DepositGateway
