import DepositGateway.Invoice.Id
import DepositGateway.Log.Entry
import DepositGateway.Store.Basic

/-!
# The gateway

Creates invoices and looks them up. Each invoice gets a fresh key and the deposit address of that
key; a key is used up even where the invoice is then refused. An invoice is stored before it is
reported, so that one whose last moment has too many digits is stored all the same, and its creation
fails.

* `Gateway.newInvoice`: issues an address and stores a pending invoice for it.
-/

namespace DepositGateway

/-- What a gateway needs. -/
structure Gateway (ω : Type) where
  name : String := "evmpay"
  store : Store ω
  journal : Journal ω
  clock : ω → Number × ω
  /-- A fresh key with its deposit address. -/
  issueKey : Action ω (String × SecretKey)

namespace Gateway

variable {ω : Type} (gateway : Gateway ω)

/-- The present moment. -/
def readClock : Action ω Number := Action.step gateway.clock

/-- What is said of an invoice that would expire before it is created. -/
def negativeExpiry : Fault := .invalid "expires_in_seconds must be >= 0"

/-- Creates and stores a pending invoice that expires in the given number of seconds. -/
def newInvoice (amount : Json) (method : PaymentMethod := .native) (message : Bytes := [])
    (expiresIn : Number := 3600) : Action ω (String × Invoice) := do
  if expiresIn.lt 0 then Action.fail negativeExpiry
  else
    let (address, key) ← gateway.issueKey
    let created ← Action.ofExcept (← gateway.readClock).toInteger
    let lifetime ← Action.ofExcept expiresIn.toInteger
    let expires := Number.int (created + lifetime)
    let amount ← Action.ofExcept (amount.toInteger >>= Amount.ofInt)
    let invoice : Invoice :=
      { address, wallet := key, amount, method, message, expires := .num expires }
    let millis ← Action.ofExcept (wholeMillis (← gateway.readClock))
    let id := invoiceId address millis
    gateway.store.set (.text id) invoice
    gateway.journal.infoWritten .gateway expires.isWritable ("Created invoice " ++ id ++ " for "
      ++ address ++ " (expires " ++ expires.text ++ ")")
    return (id, invoice)

/-- The invoice of an id. -/
def invoice (id : InvoiceKey) : Action ω Invoice := gateway.store.get id

/-- All invoices in order of creation. -/
def invoices : Action ω (List (InvoiceKey × Invoice)) := gateway.store.getAll

/-- The invoice that was created last. -/
def latestInvoice : Action ω (InvoiceKey × Invoice) := gateway.store.latest

end Gateway

end DepositGateway
