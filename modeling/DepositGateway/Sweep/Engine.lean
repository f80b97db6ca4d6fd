import DepositGateway.Invoice.Basic
import DepositGateway.Json.Display
import DepositGateway.Json.Integer
import DepositGateway.Json.Printer
import DepositGateway.Log.Entry
import DepositGateway.Sweep.Fees
import DepositGateway.Sweep.Transaction

/-!
# Sweeps

A sweep moves what a deposit address holds to the treasury: the balance at that time less the
worst-case gas. The kind of its fault tells how far it came: nothing was submitted, the submission
was refused or failed on the chain, or the confirmation is unknown. A balance or a value of too many
digits to be written ends a sweep before anything is submitted, and with no fault of a sweep.

* `Sweeper.draft`: the unsigned transaction for the present balance.
* `Sweeper.sweep`: draft, sign, submit and wait for the receipt.
-/

namespace DepositGateway

/-- How fees are offered. -/
inductive TransactionKind where
  | legacy
  | feeMarket
  deriving DecidableEq

namespace TransactionKind

/-- The name of a kind. -/
def name : TransactionKind → String
  | legacy => "legacy"
  | feeMarket => "eip1559"

/-- The kind of a name. -/
def ofName? (name : String) : Option TransactionKind :=
  if name = "legacy" then some legacy
  else if name = "eip1559" then some feeMarket
  else none

end TransactionKind

/-- How sweeps are made. -/
structure SweepSettings where
  /-- Where the funds go, in checksum form. -/
  treasury : String
  kind : TransactionKind := .legacy
  patience : Patience := {}
  /-- A fixed gas limit in place of the estimate; whatever is empty or zero stands for none. -/
  gasLimit : Json := .null
  feeRetries : Json := .int 3
  feeRetryDelay : Json := .int 2
  deriving DecidableEq

namespace SweepSettings

/-- Takes the treasury address into checksum form, or refuses it. -/
def withTreasury (settings : SweepSettings) (address : Json)
    (rule : Address.CaseRule := .lenient) : Except Fault SweepSettings :=
  let checked := match address with
    | .str units => (Utf16.toString? units).bind (Address.accepted? rule)
    | _ => none
  match checked with
  | some treasury => .ok { settings with treasury }
  | none => .error (.invalid ("Invalid treasury address: " ++ address.display))

end SweepSettings

/-- What a sweep needs: a ledger, somewhere to report, a way to pause, and the settings. -/
structure Sweeper (ω : Type) where
  ledger : Ledger ω
  journal : Journal ω
  sleep : Json → ω → ω
  settings : SweepSettings

namespace Sweeper

variable {ω : Type} (sweeper : Sweeper ω)

/-- Reports an error of a sweep. -/
def reportError (text : String) : Action ω Unit := sweeper.journal.error .sweep text

/-! ## Readings -/

/-- The chain id. -/
def readChainId : Action ω Json := do
  match ← Action.attempt sweeper.ledger.chainId with
  | .ok chainId => return chainId
  | .error (.ledger fault) => do
    sweeper.reportError ("Could not get chain id: " ++ fault.text)
    Action.fail (.transfer (.chainIdUnavailable fault.text))
  | .error fault => Action.fail fault

/-- Balance and nonce of the deposit address. -/
def readSender (address : String) : Action ω (Json × Json) := do
  let readings : Action ω (Json × Json) := do
    let balance ← sweeper.ledger.nativeBalance address
    let nonce ← sweeper.ledger.transactionCount address
    return (balance, nonce)
  match ← Action.attempt readings with
  | .ok found => return found
  | .error (.ledger fault) =>
    Action.fail (.transfer (.buildFailed ("Could not read sender state: " ++ fault.text)))
  | .error fault => Action.fail fault

/-- The gas price. -/
def readGasPrice : Action ω Json := do
  match ← Action.attempt sweeper.ledger.gasPrice with
  | .ok gasPrice => return gasPrice
  | .error (.ledger fault) => do
    sweeper.reportError
      ("Could not get gas price (maybe chain uses EIP-1559?): " ++ fault.text)
    Action.fail (.transfer (.feeEstimationExhausted ("Could not get gas price: " ++ fault.text)))
  | .error fault => Action.fail fault

/-- The draft without value whose gas the node estimates. -/
def gasQuery (sender : String) (nonce chainId : Json) (fees : FeeFields) : Json :=
  .object ([("from", .text sender), ("to", .text sweeper.settings.treasury), ("value", .int 0),
    ("nonce", nonce)] ++ fees.toMembers chainId)

/-- The gas limit: the fixed one, or the estimate of the node. -/
def readGasLimit (sender : String) (nonce chainId : Json) (fees : FeeFields) : Action ω Json := do
  let limit := sweeper.settings.gasLimit
  if limit.truthy then return .int (← Action.ofExcept limit.toInteger)
  else
    let query := sweeper.gasQuery sender nonce chainId fees
    match ← Action.attempt (sweeper.ledger.estimateGas query) with
    | .ok gas => return gas
    | .error (.ledger fault) => do
      sweeper.reportError ("Gas estimation failed: " ++ fault.text)
      Action.fail (.transfer (.feeEstimationExhausted ("Gas estimation failed: " ++ fault.text)))
    | .error fault => Action.fail fault

/-! ## Draft -/

/-- The fee fields, and the fee for each unit of gas that the value is reckoned with. -/
def readFees : Action ω (FeeFields × Json) := do
  match sweeper.settings.kind with
  | .legacy =>
    let gasPrice ← sweeper.readGasPrice
    return (.legacy gasPrice, gasPrice)
  | .feeMarket =>
    let quote ← quoteFeesWithRetry sweeper.ledger sweeper.sleep sweeper.settings.feeRetries
      sweeper.settings.feeRetryDelay
    let maxFee ← Action.ofExcept quote.offeredMaxFee
    return (.feeMarket maxFee quote.priorityFee, .num maxFee)

/-- What the sweep moves, out of the readings as they came. -/
def valueOf (balance gas fee : Json) : Except Fault Int := do
  let balance ← balance.toInteger
  let gas ← gas.toInteger
  let fee ← fee.toInteger
  return sweepValue balance gas fee

/-- What ends a draft where nothing is left to move: the balance is named, if it can be written. -/
def nothingToSweep (address : String) (balance : Json) : Fault :=
  if balance.isWritable then
    .transfer (.nothingToSweep
      ("Balance " ++ balance.display ++ " of " ++ address ++ " does not cover gas reserve"))
  else .tooManyDigits

/-- The unsigned sweep of the present balance. -/
def draft (invoice : Invoice) : Action ω Draft := do
  let chainId ← sweeper.readChainId
  let (balance, nonce) ← sweeper.readSender invoice.address
  let (fees, fee) ← sweeper.readFees
  let gas ← sweeper.readGasLimit invoice.address nonce chainId fees
  let value ← Action.ofExcept (valueOf balance gas fee)
  if value = 0 then Action.fail (nothingToSweep invoice.address balance)
  else
    return { recipient := sweeper.settings.treasury, value, gas, nonce, chainId, fees }

/-! ## Sweep -/

/-- The signing key of an invoice. -/
def signingKey (invoice : Invoice) : Action ω Nat :=
  match invoice.wallet.scalar? with
  | some scalar => pure scalar
  | none => Action.fail (.transfer (.buildFailed "Invalid invoice key"))

/-- Hands in the signed bytes. -/
def submit (raw : Bytes) : Action ω String := do
  match ← Action.attempt (sweeper.ledger.submitRaw raw) with
  | .ok hash => return hash
  | .error (.ledger fault) => do
    sweeper.reportError ("Transaction send failed: " ++ fault.text)
    Action.fail (.transfer (.submissionFailed fault.text))
  | .error fault => Action.fail fault

/-- Waits for the receipt of a submitted transaction. -/
def confirm (hash : String) : Action ω Json := do
  match ← Action.attempt (sweeper.ledger.awaitConfirmation hash sweeper.settings.patience) with
  | .ok receipt => return receipt
  | .error (.ledger fault) => do
    sweeper.reportError ("Error waiting for confirmations of " ++ hash ++ ": " ++ fault.text)
    Action.fail (.transfer (.confirmationTimeout (hash ++ ": " ++ fault.text)))
  | .error fault => Action.fail fault

/-- The status that a receipt tells; only an object can tell one. -/
def statusOf : Json → Except Fault Json
  | .obj members => .ok ((Json.obj members).memberOrNull "status")
  | _ => .error .missingAttribute

/-- Refuses the receipt of a transaction that failed on the chain. -/
def checkReceipt (hash : String) (receipt : Json) : Action ω Unit := do
  let status ← Action.ofExcept (statusOf receipt)
  if status.equalsInt 1 then pure ()
  else Action.fail (.transfer (.submissionFailed ("Sweep " ++ hash ++ " reverted")))

/-- Drafts, reports, signs, submits and confirms the sweep of an invoice. -/
def sweep (invoice : Invoice) : Action ω (String × Json) := do
  let scalar ← signingKey invoice
  let draft ← sweeper.draft invoice
  sweeper.journal.infoWritten .sweep (Number.int draft.value).isWritable ("Sweeping "
    ++ Decimal.textInt draft.value ++ " wei from " ++ invoice.address ++ " to "
    ++ sweeper.settings.treasury)
  let raw ← Action.ofExcept (draft.sign scalar)
  let hash ← sweeper.submit raw
  let receipt ← sweeper.confirm hash
  checkReceipt hash receipt
  return (hash, receipt)

end Sweeper

end DepositGateway
