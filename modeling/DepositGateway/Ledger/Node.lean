import DepositGateway.Address
import DepositGateway.Ledger.Basic
import DepositGateway.Ledger.Confirmation
import DepositGateway.Ledger.Method
import DepositGateway.Ledger.NodeValue
import DepositGateway.Log.Entry

/-!
# The ledger of a node

Turns the answers of a node into the readings of a ledger, and what goes wrong on the way into
ledger faults: transport failures make the node unreachable, values of the wrong shape are
malformed answers, malformed values and errors of the node are rejections.

* `LedgerMethod.translate`: which ledger fault a fault becomes.
* `Ledger.confirmedReceipt`: waits for the receipt of a transaction and for its depth. The messages
  after a wait in vain name timeout and depth in full, however many digits that takes.
* `Ledger.ofNode`: the ledger.
-/

namespace DepositGateway

/-- What is asked of a node. -/
structure Node (ω : Type) where
  balance : (address : String) → Action ω NodeValue
  tokenBalance : (token holder : String) → Action ω NodeValue
  chainId : Action ω NodeValue
  gasPrice : Action ω NodeValue
  blockNumber : Action ω NodeValue
  /-- The latest block, with whole transactions or only their hashes. -/
  latestBlock : (whole : Bool) → Action ω NodeValue
  transactionCount : (address : String) → Action ω NodeValue
  estimateGas : (draft : Json) → Action ω NodeValue
  sendRaw : (raw : NodeValue) → Action ω NodeValue
  /-- Waits for the first receipt of a transaction. -/
  waitForReceipt : (hash : NodeValue) → (timeout latency : Json) → Action ω NodeValue
  /-- The present receipt of a transaction. -/
  receipt : (hash : NodeValue) → Action ω NodeValue

/-- A clock that only goes forward, and a way to let a number of seconds pass. -/
structure Timer (ω : Type) where
  now : ω → Number × ω
  sleep : (seconds : Json) → Action ω Unit

namespace LedgerMethod

/-- The name of the operation with what is known of the failure. -/
def blame (method : LedgerMethod) (failure : Failure) : String :=
  match failure.text with
  | some text => method.name ++ ": " ++ text
  | none => method.name

/-- The fault of an operation that ran into a fault. Ledger faults stay as they are, and so does
what is neither a failure of transport nor of the node nor of a value. -/
def translate (method : LedgerMethod) : Fault → Fault
  | .other failure =>
    if failure.cause.isTransport then .ledger (.unreachable (method.blame failure))
    else if failure.cause.isType || failure.cause = .missingKey || failure.cause = .blockNotFound
    then .ledger (.malformed (method.blame failure))
    else if failure.cause.isValue || failure.cause.isNode
    then .ledger (.rejected (method.blame failure))
    else .other failure
  | fault => fault

end LedgerMethod

namespace Ledger

variable {ω : Type}

/-- Runs an operation and translates its fault. -/
def guarded {α : Type} (method : LedgerMethod) (action : Action ω α) : Action ω α := do
  match ← Action.attempt action with
  | .ok answer => return answer
  | .error fault => Action.fail (method.translate fault)

/-- The text of a value that is given for an address: a text itself, bytes and integers as their
hexadecimal digits. -/
def addressText : NodeValue → Except Fault String
  | .str units => .ok (Utf16.toText units)
  | value => value.toHex

/-- The checksum form of an address that is handed to the node. -/
def nodeAddress (address : NodeValue) : Except Fault String := do
  match Address.checksum? (← addressText address) with
  | some text => .ok text
  | none => .error .badValue

/-- An integer answer. -/
def readInteger (answer : Action ω NodeValue) : Action ω Json := do
  let value ← answer
  return .int (← Action.ofExcept value.toInteger)

/-- The base fee that a block shows, null where it shows none. -/
def baseFeeOf (block : NodeValue) : Except Fault Json := do
  match ← block.get "baseFeePerGas" with
  | .null => return .null
  | fee => return .int (← fee.toInteger)

/-- The two fees of a transaction, where it shows both. -/
def feesOf (transaction : NodeValue) : Except Fault (Option (Int × Int)) := do
  let maxFee ← transaction.get "maxFeePerGas"
  let priorityFee ← transaction.get "maxPriorityFeePerGas"
  match maxFee, priorityFee with
  | .null, _ => return none
  | _, .null => return none
  | maxFee, priorityFee => return some (← maxFee.toInteger, ← priorityFee.toInteger)

/-- The fees of the transactions that show both, in their order. -/
def samplesOf : List NodeValue → Except Fault (List (Int × Int))
  | [] => .ok []
  | transaction :: rest => do
    let fees ← feesOf transaction
    let others ← samplesOf rest
    return fees.toList ++ others

/-- The fees of a list of transactions as a list of pairs. -/
def sampleList (transactions : List NodeValue) : Except Fault Json := do
  return .arr ((← samplesOf transactions).map fun (maxFee, priorityFee) =>
    .arr [.int maxFee, .int priorityFee])

/-- The most looks that a wait for depth takes where nothing else is said. -/
def maxLooks : Nat := 1000000

/-- Whether the clock is at or past the deadline. -/
def isPast (deadline now : Number) : Bool := deadline.le now

/-- The number of a setting that must be one. -/
def settingNumber (setting : Json) : Except Fault Number :=
  match setting.asNumber? with
  | some number => .ok number
  | none => .error .badType

/-- Waits for the first receipt. -/
def firstReceipt (node : Node ω) (hash : NodeValue) (patience : Patience) :
    Action ω NodeValue := do
  match ← Action.attempt (node.waitForReceipt hash patience.timeout patience.latency) with
  | .ok receipt => return receipt
  | .error (.other ⟨.receiptTimeout, _⟩) =>
    Action.fail (.ledger (.timeout
      ("no receipt for " ++ hash.display ++ " after " ++ patience.timeout.display ++ "s")))
  | .error fault => Action.fail fault

/-- Reads the receipt again, because the chain may have been reorganised in the meantime. -/
def secondReceipt (node : Node ω) (hash : NodeValue) : Action ω NodeValue := do
  match ← Action.attempt (node.receipt hash) with
  | .ok receipt => return receipt
  | .error (.other ⟨.transactionNotFound, _⟩) =>
    Action.fail (.ledger (.timeout (hash.display ++ " dropped while waiting for confirmations")))
  | .error fault => Action.fail fault

/-- The number of the block that is the head. -/
def readHead (node : Node ω) : Action ω Int := do
  let value ← node.blockNumber
  Action.ofExcept value.toInteger

/-- Whether a depth is what was asked for. -/
def isDeepEnough (patience : Patience) (depth : Int) : Except Fault Bool := do
  return (← settingNumber patience.minConfirmations).le (.int depth)

/-- Waits until the transaction is deep enough. -/
def confirmDepth (node : Node ω) (timer : Timer ω) (hash : NodeValue) (patience : Patience)
    (deadline : Number) (minedIn : Int) (looks : Nat := maxLooks) : Action ω Unit := do
  let outcome ← awaitDepth (readHead node) (Action.step timer.now) (isPast deadline)
    (timer.sleep patience.latency) minedIn (isDeepEnough patience) looks
  let short (depth : String) : Action ω Unit := Action.fail (.ledger (.timeout
    (hash.display ++ " has " ++ depth ++ "/" ++ patience.minConfirmations.display
      ++ " confirmations")))
  match outcome with
  | .reached => return
  | .late depth => short (Decimal.textInt depth)
  | .exhausted => short "too few"

/-- The moment at which a wait that starts now gives up. -/
def deadlineFrom (timer : Timer ω) (patience : Patience) : Action ω Number := do
  let start ← Action.step timer.now
  let timeout ← Action.ofExcept (settingNumber patience.timeout)
  match start.add? timeout with
  | some deadline => return deadline
  | none => Action.fail .overflow

/-- The receipt after the wait, which is read again where more than one block was asked for. -/
def lastReceipt (node : Node ω) (hash : NodeValue) (patience : Patience) (first : NodeValue) :
    Action ω NodeValue := do
  let required ← Action.ofExcept (settingNumber patience.minConfirmations)
  if Number.lt 1 required then secondReceipt node hash else return first

/-- What is returned of a transaction that is deep enough: its receipt as it is then, which is
reported. -/
def settledReceipt (node : Node ω) (journal : Journal ω) (hash : NodeValue) (patience : Patience)
    (first : NodeValue) : Action ω Json := do
  let receipt ← lastReceipt node hash patience first
  let block ← Action.ofExcept (receipt.index "blockNumber")
  journal.infoWritten .ledger block.isWritable
    ("Transaction confirmed: " ++ hash.display ++ " (block " ++ block.display ++ ")")
  match receipt.toJson? with
  | some json => return json
  | none => Action.fail .badType

/-- The receipt of a transaction that is deep enough. -/
def confirmedReceipt (node : Node ω) (timer : Timer ω) (journal : Journal ω) (hash : NodeValue)
    (patience : Patience) (looks : Nat := maxLooks) : Action ω Json := do
  let deadline ← deadlineFrom timer patience
  let first ← firstReceipt node hash patience
  let minedIn ← Action.ofExcept (first.index "blockNumber" >>= NodeValue.toInteger)
  confirmDepth node timer hash patience deadline minedIn looks
  settledReceipt node journal hash patience first

/-- The balance of an address. -/
def readBalance (node : Node ω) (address : NodeValue) : Action ω Json := do
  readInteger (node.balance (← Action.ofExcept (nodeAddress address)))

/-- The balance of a holder in a token. -/
def readTokenBalance (node : Node ω) (token holder : NodeValue) : Action ω Json := do
  let token ← Action.ofExcept (nodeAddress token)
  readInteger (node.tokenBalance token (← Action.ofExcept (nodeAddress holder)))

/-- The base fee of the latest block. -/
def readBaseFee (node : Node ω) : Action ω Json := do
  let block ← node.latestBlock false
  Action.ofExcept (baseFeeOf block)

/-- The fees that the transactions of the latest block show. -/
def readSamples (node : Node ω) : Action ω Json := do
  let block ← node.latestBlock true
  Action.ofExcept (block.index "transactions" >>= NodeValue.elements >>= sampleList)

/-- The count of the transactions of an address. -/
def readCount (node : Node ω) (address : NodeValue) : Action ω Json := do
  readInteger (node.transactionCount (← Action.ofExcept (nodeAddress address)))

/-- The hash that the node gives for what is handed in. -/
def sendSigned (node : Node ω) (raw : NodeValue) : Action ω String := do
  let answer ← node.sendRaw raw
  Action.ofExcept answer.toHex

/-- The ledger of a node; a wait for depth takes at most so many looks. -/
def ofNode (node : Node ω) (timer : Timer ω) (journal : Journal ω) (looks : Nat := maxLooks) :
    Ledger ω where
  nativeBalance address := guarded .nativeBalance (readBalance node (.text address))
  tokenBalance token holder :=
    guarded .tokenBalance (readTokenBalance node (.text token) (.text holder))
  chainId := guarded .chainId (readInteger node.chainId)
  gasPrice := guarded .gasPrice (readInteger node.gasPrice)
  latestBaseFee := guarded .latestBaseFee (readBaseFee node)
  recentFeeSamples := guarded .recentFeeSamples (readSamples node)
  transactionCount address := guarded .transactionCount (readCount node (.text address))
  estimateGas draft := guarded .estimateGas (readInteger (node.estimateGas draft))
  submitRaw raw := guarded .submitRaw (sendSigned node (.bytes raw))
  awaitConfirmation hash patience := guarded .awaitConfirmation
    (confirmedReceipt node timer journal (.text hash) patience looks)

end Ledger

end DepositGateway
