import DepositGateway.Http.Api
import DepositGateway.Notice.Webhook
import DepositGateway.Poller.Loop
import DepositGateway.Simulation.World
import DepositGateway.Sweep.Engine

/-!
# A gateway in the simulated world

All parts of the gateway put together over the simulated world.

* `World.store`: the store over the shelf of the world. An operation that is set to fail does so
  before it does anything.
* `Outlet.notifier`: the ways to hand over invoices.
* `Deployment.start`, `Deployment.stop`: the poller in the background.
-/

namespace DepositGateway

namespace World

/-! ## The store -/

/-- The invoices in memory as a part of the world. -/
def memory : Cell World (Keyed InvoiceKey Invoice) where
  look world := world.shelf.invoices
  put invoices world := { world with shelf := world.shelf.setInvoices invoices }

/-- The table as a part of the world. -/
def table : Cell World Table where
  look world := world.shelf.rows
  put rows world := { world with shelf := world.shelf.setRows rows }

/-- An operation of the store, unless it is set to fail. -/
def stored {α : Type} (method : StoreMethod) (operation : Store World → Action World α) :
    Action World α := do
  match ← Action.read fun world => world.storeFailures.lookup method with
  | some fault => Action.fail fault
  | none =>
    if ← Action.read fun world => world.shelf.isMemory then operation (Store.ofMemory memory)
    else operation (Store.ofTable table journal)

/-- The store over the shelf. -/
def store : Store World where
  get key := stored .get fun store => store.get key
  getAll := stored .getAll fun store => store.getAll
  latest := stored .latest fun store => store.latest
  set key invoice := stored .set fun store => store.set key invoice
  delete key := stored .delete fun store => store.delete key

/-- Closes the store and opens it again. -/
def reopen : Action World Unit :=
  Action.update fun world => { world with shelf := world.shelf.reopened, storeFailures := [] }

/-- Sets an operation of the store to fail, or lets it work again. -/
def setStoreFailure (method : StoreMethod) (failure : Option Fault) : Action World Unit :=
  Action.update fun world =>
    let others := world.storeFailures.filter fun entry => entry.1 ≠ method
    { world with storeFailures := match failure with
        | some fault => (method, fault) :: others
        | none => others }

/-- How many invoices there are in memory; a table is not counted. -/
def count : Action World Nat := do
  if ← Action.read fun world => world.shelf.isMemory then memory.read (·.size)
  else Action.fail .badType

/-! ## Clock and keys -/

/-- Reads the clock. -/
def readClock (world : World) : Number × World := (world.clock, world)

/-- Lets time pass. -/
def advance (seconds : Number) : Action World Unit := do
  match ← Action.read fun world => world.clock.add? seconds with
  | some clock => Action.update fun world => { world with clock }
  | none => Action.fail .overflow

/-- The key of an issue, counted from one. -/
def keyOf (keys : List SecretKey) (number : Nat) : SecretKey :=
  (keys[number - 1]?).getD ⟨Bytes.ofNatPadded 32 number⟩

/-- Issues the next key with its address. -/
def issueKey : Action World (String × SecretKey) := do
  let key ← Action.step fun world =>
    let number := world.issued + 1
    (keyOf world.keys number, { world with issued := number })
  match key.address? with
  | some address => return (address, key)
  | none => Action.fail .badValue

/-- Whether the poller was told to stop. -/
def readStopped (world : World) : Bool × World := (world.stopped, world)

/-! ## Notices -/

/-- The queue as a part of the world. -/
def waiting : Cell World NoticeQueue where
  look world := world.queue
  put queue world := { world with queue }

/-- Records what is handed over, then raises the fault that is set to be raised, if any. -/
def hand (sending : Sending) (failure : Option Fault) : Action World Unit := do
  Action.update fun world => { world with sent := sending :: world.sent }
  match failure with
  | some fault => Action.fail fault
  | none => pure ()

/-- Takes all that waits in the queue. -/
def drain : Action World (List (InvoiceKey × Invoice)) := Action.step fun world =>
  let (taken, queue) := world.queue.drain
  (taken, { world with queue })

end World

/-- A way to hand over invoices in a simulation. -/
inductive Outlet where
  | queue
  | callback (failure : Option Fault)
  | webhook (hook : Webhook) (status : Int) (failure : Option Fault)
  | unspecified

/-- The notifier of an outlet. -/
def Outlet.notifier : Outlet → Notifier World
  | queue => .ofQueue World.waiting
  | callback failure => ⟨fun key invoice => World.hand (.told key invoice) failure⟩
  | webhook hook status failure => .ofWebhook hook fun url body timeout => do
      World.hand (.posted url body timeout) failure
      return status
  | unspecified => .unspecified

/-- The choices that make a gateway. -/
structure Deployment where
  name : String := "evmpay"
  settings : SweepSettings
  outlet : Outlet := .queue
  addressRule : Address.CaseRule := .lenient
  invoiceDelay : Json := .int 1
  pollerDelay : Json := .int 10

namespace Deployment

variable (deployment : Deployment)

/-- The gateway. -/
def gateway : Gateway World where
  name := deployment.name
  store := World.store
  journal := World.journal
  clock := World.readClock
  issueKey := World.issueKey

/-- The sweeper. -/
def sweeper : Sweeper World where
  ledger := World.ledger
  journal := World.journal
  sleep := World.sleep
  settings := deployment.settings

/-- The poller. -/
def poller : Poller World where
  store := World.store
  ledger := World.ledger
  sweep := deployment.sweeper.sweep
  notifier := deployment.outlet.notifier
  journal := World.journal
  clock := World.readClock
  sleep := World.sleep
  stopped := World.readStopped
  invoiceDelay := deployment.invoiceDelay
  pollerDelay := deployment.pollerDelay

/-- The gateway as it is served over HTTP. -/
def site : Site World where
  gateway := deployment.gateway
  isPolling := World.isPolling
  addressRule := deployment.addressRule

/-- Runs an action during which the given pause tells the poller to stop. -/
def stoppingAt {α : Type} (pause : Option Nat) (action : Action World α) : Action World α := do
  Action.update fun world => { world with pausesLeft := pause }
  let result ← Action.attempt action
  Action.update fun world => { world with pausesLeft := none }
  Action.ofExcept result

/-- Puts the poller to work in the background and tells whether it was at work already. It comes to
rest at its first pause, or ends without one. -/
def start : Action World Bool := do
  if ← Action.read World.isPolling then return true
  else do
    let begun ← Action.read World.toScene
    Action.update fun world => { world with rest := .awaited }
    let _ ← deployment.poller.runForever 1
    Action.update fun world =>
      match world.rest with
      | .reached moment => { toScene := moment, background := .resting begun }
      | _ => { world with rest := .recorded, background := .ended }
    return false

/-- Tells the poller to stop and waits until the work in the background has ended: it is gone
through again up to its rest, and from there on in the present scene. -/
def stop : Action World Unit := do
  Action.update fun world => { world with stopped := true }
  match ← Action.read World.background with
  | .resting begun => do
    Action.update fun world =>
      { toScene := begun, rest := .resuming world.toScene, background := .ended }
    let _ ← deployment.poller.runForever 1
    return
  | _ => return

end Deployment

end DepositGateway
