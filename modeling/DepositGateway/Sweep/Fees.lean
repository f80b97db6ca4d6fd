import DepositGateway.Json.Double
import DepositGateway.Json.Sequence
import DepositGateway.Ledger.Basic

/-!
# Fees

* `sweepValue`: what is left of a balance after the worst-case gas, never below zero.
* `averageFees`: the floor averages of fee samples.
* `quoteFees`: one reading of base fee and samples.
* `quoteFeesWithRetry`: one attempt and the allowed retries, a pause between two attempts. The
  message after the last one names the allowed attempts in full, however many digits that takes.
-/

namespace DepositGateway

/-- What a sweep moves: the balance less the worst-case gas, never below zero. -/
def sweepValue (balance gasLimit feePerGas : Int) : Int := max (balance - gasLimit * feePerGas) 0

/-! ## Averages -/

/-- A sum that goes on with one more value; only numbers can be added. -/
def addValue (sum : Number) (value : Json) : Except Fault Number :=
  match value.asNumber? with
  | none => .error .badType
  | some number =>
    match sum.add? number with
    | some sum => .ok sum
    | none => .error .overflow

/-- A sum that goes on with what stands at a place of each of the samples. -/
def totalFrom (place : Nat) (sum : Number) : List Json → Except Fault Number
  | [] => .ok sum
  | sample :: rest => do
    let value ← sample.item place
    totalFrom place (← addValue sum value) rest

/-- The floor average of what stands at a place of each of the samples. -/
def averageAt (place : Nat) (samples : List Json) : Except Fault Number := do
  let sum ← totalFrom place 0 samples
  if samples.isEmpty then .error (.other ⟨.divisionByZero, none⟩)
  else .ok (sum.floorDivNat samples.length)

/-- The floor averages of the two fees of the samples; no samples have none. -/
def averageFees (samples : Json) : Except Fault (Number × Number) := do
  let samples ← samples.elements
  let maxFee ← averageAt 0 samples
  let priorityFee ← averageAt 1 samples
  return (maxFee, priorityFee)

/-- Pairs of integers as samples. -/
def samplesOfPairs (pairs : List (Int × Int)) : Json :=
  .arr (pairs.map fun (maxFee, priorityFee) => .arr [.int maxFee, .int priorityFee])

/-! ## Quotes -/

/-- A base fee with the averages of maximum and priority fee. -/
structure FeeQuote where
  baseFee : Json
  maxFee : Number
  priorityFee : Number
  deriving DecidableEq

namespace FeeQuote

/-- The maximum fee a sweep offers: enough for the base fee and the tip. -/
def offeredMaxFee (quote : FeeQuote) : Except Fault Number :=
  match quote.baseFee.asNumber? with
  | none => .error .badType
  | some baseFee =>
    match baseFee.add? quote.priorityFee with
    | some needed => .ok (quote.maxFee.greater needed)
    | none => .error .overflow

theorem offeredMaxFee_int (baseFee maxFee priorityFee : Int) :
    offeredMaxFee ⟨.int baseFee, .int maxFee, .int priorityFee⟩ =
      .ok (.int (max maxFee (baseFee + priorityFee))) := by
  simp [offeredMaxFee, Json.asNumber?]

end FeeQuote

/-- Why the latest block gave no quote, though every reading succeeded. -/
inductive NoQuote where
  | noBaseFee
  | noSamples
  deriving DecidableEq

namespace NoQuote

/-- The reason in words. -/
def text : NoQuote → String
  | noBaseFee => "No base fee in block"
  | noSamples => "No fee-market transactions in block"

end NoQuote

variable {ω : Type}

/-- Reads the base fee and, only where there is one, the samples. -/
def quoteFees (ledger : Ledger ω) : Action ω (Except NoQuote FeeQuote) := do
  let baseFee ← ledger.latestBaseFee
  if baseFee = .null then return .error .noBaseFee
  else
    let samples ← ledger.recentFeeSamples
    if samples.truthy then
      let (maxFee, priorityFee) ← Action.ofExcept (averageFees samples)
      return .ok { baseFee, maxFee, priorityFee }
    else return .error .noSamples

/-- One attempt; a fault of the ledger ends the whole estimate. -/
def attemptQuote (ledger : Ledger ω) : Action ω (Except NoQuote FeeQuote) := do
  match ← Action.attempt (quoteFees ledger) with
  | .ok result => return result
  | .error (.ledger fault) =>
    Action.fail (.transfer (.feeEstimationExhausted ("Could not read fee data: " ++ fault.text)))
  | .error fault => Action.fail fault

/-! ## Retries -/

/-- The attempts: one more than the retries left. `allowed` is named when all of them were in
vain. -/
def quoteFeesAttempts (ledger : Ledger ω) (pause : Action ω Unit) (allowed : Number) :
    Nat → Action ω FeeQuote
  | 0 => do
    match ← attemptQuote ledger with
    | .ok quote => return quote
    | .error reason => Action.fail (.transfer (.feeEstimationExhausted
        (reason.text ++ " (gave up after " ++ allowed.text ++ " attempts)")))
  | retries + 1 => do
    match ← attemptQuote ledger with
    | .ok quote => return quote
    | .error _ => do
      pause
      quoteFeesAttempts ledger pause allowed retries

/-- The most retries that are made where any number of them is allowed. -/
def mostRetries : Nat := 1000000

/-- How many retries follow the first attempt where a number of attempts is allowed. -/
def retriesWithin (allowed : Number) : Nat := (allowed.ceilNat?.getD mostRetries) - 1

/-- How many attempts are allowed: one more than the retries. -/
def allowedAttempts (retries : Json) : Except Fault Number :=
  match retries.asNumber? with
  | none => .error .badType
  | some retries =>
    match retries.add? 1 with
    | some allowed => .ok allowed
    | none => .error .overflow

/-- One attempt and up to `retries` more, `delay` apart. A reading that fails is not retried. -/
def quoteFeesWithRetry (ledger : Ledger ω) (sleep : Json → ω → ω) (retries delay : Json) :
    Action ω FeeQuote := do
  let allowed ← Action.ofExcept (allowedAttempts retries)
  let delay ← Action.ofExcept delay.toDouble
  quoteFeesAttempts ledger (Action.update (sleep (.num (.double delay)))) allowed
    (retriesWithin allowed)

end DepositGateway
