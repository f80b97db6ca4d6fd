import DepositGateway.Json.Integer
import DepositGateway.Ledger.Basic
import DepositGateway.Notice.Basic
import DepositGateway.Store.Basic

/-!
# Reconciliation passes

A pass goes through the stored invoices one by one. An unpaid invoice past its last moment is
removed; a paid one is swept, removed and handed over, whatever became of the sweep; any other is
left as it is. After each invoice there is a pause, and nothing is kept from one pass to the next.

* `Poller.process`: what happens to one invoice.
* `Poller.runPass`: one pass over what is stored at its beginning.
-/

namespace DepositGateway

/-- What became of an invoice in a pass. -/
inductive InvoiceStatus where
  | pending
  | expired
  | settled
  | settlementFailed
  deriving DecidableEq

namespace InvoiceStatus

/-- The name of a status. -/
def name : InvoiceStatus → String
  | pending => "pending"
  | expired => "expired"
  | settled => "settled"
  | settlementFailed => "settlement_failed"

end InvoiceStatus

/-- What a poller needs. -/
structure Poller (ω : Type) where
  store : Store ω
  ledger : Ledger ω
  /-- Sweeps an invoice and gives hash and receipt. -/
  sweep : Invoice → Action ω (String × Json)
  notifier : Notifier ω
  journal : Journal ω
  clock : ω → Number × ω
  sleep : Json → ω → ω
  /-- Whether the poller was told to stop. -/
  stopped : ω → Bool × ω
  invoiceDelay : Json := .int 1
  pollerDelay : Json := .int 10

namespace Poller

variable {ω : Type} (poller : Poller ω)

/-- The present moment in whole seconds. -/
def now : Action ω Int := do
  let reading ← Action.step poller.clock
  Action.ofExcept reading.toInteger

/-- A pause. -/
def pause (seconds : Json) : Action ω Unit := Action.update (poller.sleep seconds)

/-- Whether the poller was told to stop. -/
def isStopped : Action ω Bool := Action.step poller.stopped

/-- Reports what goes on. -/
def info (text : String) : Action ω Unit := poller.journal.info .poller text

/-- Removes an invoice; that it could not be removed is only reported. -/
def remove (key : InvoiceKey) : Action ω Unit := do
  match ← Action.attempt (poller.store.delete key) with
  | .ok _ => return
  | .error (.store (.notFound _)) =>
    poller.journal.warning .poller ("Invoice " ++ key.display ++ " was already removed")
  | .error (.store fault) =>
    poller.journal.error .poller ("Could not remove invoice " ++ key.display ++ ": " ++ fault.text)
  | .error fault => Action.fail fault

/-- The balance of the deposit address in what the invoice is paid in. -/
def balanceOf (invoice : Invoice) : Action ω Json :=
  match invoice.method with
  | .native => poller.ledger.nativeBalance invoice.address
  | .token address => poller.ledger.tokenBalance address invoice.address

/-- Whether a balance covers an amount; only a number can. -/
def covers (balance : Json) (amount : Amount) : Except Fault Bool :=
  match balance.asNumber? with
  | some number => .ok (Number.le (.int amount.toNat) number)
  | none => .error .badType

/-- Whether the invoice is paid. -/
def isPaid (invoice : Invoice) : Action ω Bool := do
  let balance ← poller.balanceOf invoice
  Action.ofExcept (covers balance invoice.amount)

/-- Only the coin of the chain is swept: tokens stay at the deposit address. -/
def warnOfTokens (key : InvoiceKey) (invoice : Invoice) : Action ω Unit :=
  match invoice.method with
  | .native => pure ()
  | .token address => poller.journal.warning .poller
      ("Invoice " ++ key.display ++ " was paid in token " ++ address ++ "; the tokens stay at "
        ++ invoice.address ++ " and must be recovered with the invoice key")

/-- Sweeps a paid invoice; the invoice comes back with hash and receipt where that went well. -/
def settle (key : InvoiceKey) (invoice : Invoice) : Action ω (InvoiceStatus × Invoice) := do
  match ← Action.attempt (poller.sweep invoice) with
  | .ok (hash, receipt) => return (.settled, { invoice with hash := .text hash, receipt })
  | .error (.transfer fault) => do
    poller.journal.error .poller
      ("Could not transfer paid invoice " ++ key.display ++ " to treasury: " ++ fault.text)
    return (.settlementFailed, invoice)
  | .error fault => Action.fail fault

/-- Sweeps, removes and hands over a paid invoice. -/
def handlePaid (key : InvoiceKey) (invoice : Invoice) : Action ω InvoiceStatus := do
  let detectedAt ← poller.now
  poller.info
    ("Payment detected for invoice " ++ key.display ++ ", starting transfer to treasury")
  let (status, invoice) ← poller.settle key invoice
  poller.warnOfTokens key invoice
  poller.remove key
  let _ ← deliver poller.notifier poller.journal key { invoice with paidAt := .int detectedAt }
  return status

/-- Treats one invoice. -/
def process (key : InvoiceKey) (invoice : Invoice) : Action ω InvoiceStatus := do
  let now ← poller.now
  if ← Action.ofExcept (invoice.isExpired (.int now)) then
    poller.info ("Invoice " ++ key.display ++ " expired")
    poller.remove key
    return .expired
  else
    match ← Action.attempt (poller.isPaid invoice) with
    | .ok true => poller.handlePaid key invoice
    | .ok false => return .pending
    | .error (.ledger fault) => do
      poller.journal.error .poller
        ("Failed to check balance of " ++ invoice.address ++ ": " ++ fault.text)
      return .pending
    | .error fault => Action.fail fault

/-- Treats the invoices in order until the poller is told to stop, a pause after each. -/
def processAll : List (InvoiceKey × Invoice) → Action ω (List (InvoiceKey × InvoiceStatus))
  | [] => return []
  | (key, invoice) :: rest => do
    if ← poller.isStopped then return []
    else do
      let status ← poller.process key invoice
      poller.pause poller.invoiceDelay
      let others ← processAll rest
      return (key, status) :: others

/-- One pass over what is stored; a store that cannot be read makes it an empty one. -/
def runPass : Action ω (List (InvoiceKey × InvoiceStatus)) := do
  match ← Action.attempt poller.store.getAll with
  | .ok invoices =>
    poller.info ("Pending invoices: " ++ Decimal.text invoices.length)
    poller.processAll invoices
  | .error (.store fault) => do
    poller.journal.error .poller
      ("Could not get all invoices, skipping pass: " ++ fault.text)
    return []
  | .error fault => Action.fail fault

end Poller

end DepositGateway
