import DepositGateway.Log.Entry
import DepositGateway.Notice.Queue
import DepositGateway.Simulation.Chain
import DepositGateway.Simulation.Shelf

/-!
# The simulated world

Everything around the gateway in one value: the chain, the clock, the invoices, and what was
called, paused for, handed over and reported, the latest first. A pause is only recorded, but it may
be the one that tells the poller to stop.

A poller at work in the background comes to rest at its first pause. From there it goes on only
when it is told to stop; what the world has become by then is what it goes on in. So a world knows
how its next pause is taken.

* `World.sleep`: what a pause does.
* `World.ledger`: the ledger of the simulated chain. Every call is recorded before it may fail.
-/

namespace DepositGateway

/-- Something that was handed over. -/
inductive Sending where
  /-- An invoice, to the application. -/
  | told (key : InvoiceKey) (invoice : Invoice)
  /-- A body, to a web hook. -/
  | posted (url : String) (body : Json) (timeout : Json)

/-- Everything at one moment. -/
structure Scene where
  chain : Chain := {}
  clock : Number := .int 1700000000
  stopped : Bool := false
  /-- How many pauses are left until the poller is told to stop. -/
  pausesLeft : Option Nat := none
  shelf : Shelf := .memory {}
  storeFailures : List (StoreMethod × Fault) := []
  queue : NoticeQueue := {}
  /-- The keys that will be issued; after them come the numbers of the issues. -/
  keys : List SecretKey := []
  issued : Nat := 0
  calls : List LedgerCall := []
  sleeps : List Json := []
  sent : List Sending := []
  logs : List LogEntry := []

namespace Scene

/-- The scene with nothing recorded. -/
def unrecorded (scene : Scene) : Scene :=
  { scene with calls := [], sleeps := [], sent := [], logs := [] }

/-- Records a pause, which counts down to the moment at which the poller is told to stop. -/
def sleep (seconds : Json) (scene : Scene) : Scene :=
  let scene := { scene with sleeps := seconds :: scene.sleeps }
  match scene.pausesLeft with
  | none => scene
  | some 1 => { scene with pausesLeft := none, stopped := true }
  | some left => { scene with pausesLeft := some (left - 1) }

end Scene

/-- How the next pause is taken. -/
inductive Rest where
  /-- It is only recorded. -/
  | recorded
  /-- It is where the poller comes to rest. -/
  | awaited
  /-- The poller has come to rest at the given moment; what follows does not count. -/
  | reached (moment : Scene)
  /-- It is where the poller rested, and the present scene takes the place of the past one. -/
  | resuming (present : Scene)

/-- The work in the background. -/
inductive Background where
  | never
  /-- It rests; it was begun in the given scene. -/
  | resting (begun : Scene)
  | ended

/-- The scene together with the work in the background. -/
structure World extends Scene where
  rest : Rest := .recorded
  background : Background := .never

namespace World

/-- Records what is reported. -/
def journal : Journal World := fun entry world => { world with logs := entry :: world.logs }

/-- Takes a pause; no time passes. -/
def sleep (seconds : Json) (world : World) : World :=
  match world.rest with
  | .recorded => { world with toScene := world.toScene.sleep seconds }
  | .awaited =>
    let moment := world.toScene.sleep seconds
    { world with toScene := { moment with stopped := true }, rest := .reached moment }
  | .reached _ => world
  | .resuming present => { world with toScene := present, rest := .recorded }

/-- Whether there is a poller at work in the background. -/
def isPolling (world : World) : Bool :=
  match world.background with
  | .resting _ => true
  | _ => false

/-! ## The ledger -/

/-- Records a call, then raises the fault that the operation is set to raise, if any. -/
def call (method : LedgerMethod) (arguments : List Json) : Action World Unit := do
  Action.update fun world => { world with calls := ⟨method, arguments⟩ :: world.calls }
  match ← Action.read fun world => world.chain.failureOf? method with
  | some fault => Action.fail fault
  | none => pure ()

/-- Changes the chain. -/
def updateChain (change : Chain → Chain) : Action World Unit :=
  Action.update fun world => { world with chain := change world.chain }

/-- Takes an answer from the chain. -/
def takeFrom {α : Type} (take : Chain → Scripted α × Chain) : Action World α := do
  let next ← Action.step fun world =>
    let (next, chain) := take world.chain
    (next, { world with chain })
  Action.ofExcept next.toExcept

/-- The ledger of the simulated chain. -/
def ledger : Ledger World where
  nativeBalance address := do
    call .nativeBalance [.text address]
    Action.read fun world => Chain.amountOf address world.chain.balances
  tokenBalance token holder := do
    call .tokenBalance [.text token, .text holder]
    Action.read fun world => Chain.amountOf (token ++ "/" ++ holder) world.chain.tokenBalances
  chainId := do
    call .chainId []
    Action.read fun world => world.chain.chainId
  gasPrice := do
    call .gasPrice []
    Action.read fun world => world.chain.gasPrice
  latestBaseFee := do
    call .latestBaseFee []
    takeFrom Chain.nextBaseFee
  recentFeeSamples := do
    call .recentFeeSamples []
    takeFrom Chain.nextFeeSamples
  transactionCount address := do
    call .transactionCount [.text address]
    updateChain fun chain => { chain with sender := address }
    Action.read fun world => Chain.amountOf address world.chain.nonces
  estimateGas draft := do
    call .estimateGas [draft]
    Action.read fun world => world.chain.gas
  submitRaw raw := do
    call .submitRaw [.text (Bytes.toHexMarked raw)]
    let accepted ← Action.step fun world =>
      let (accepted, chain) := world.chain.accept
      (accepted, { world with chain })
    Action.ofExcept accepted
    return Bytes.toHexMarked (keccak256 raw)
  awaitConfirmation hash patience := do
    call .awaitConfirmation
      [.text hash, patience.minConfirmations, patience.timeout, patience.latency]
    Action.read fun world => world.chain.receiptOf hash

end World

end DepositGateway
