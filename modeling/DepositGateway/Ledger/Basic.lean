import DepositGateway.Action
import DepositGateway.Bytes.BigEndian
import DepositGateway.Json.Value

/-!
# The ledger

What the gateway asks of a chain. Answers that should be integers are kept as they came, because
what is not an integer only shows where it is used, and so is what the gateway was told to wait for.
-/

namespace DepositGateway

/-- How a confirmation is waited for. -/
structure Patience where
  /-- How many blocks, its own included, a transaction must be deep. -/
  minConfirmations : Json := .int 1
  /-- For how many seconds to wait. -/
  timeout : Json := .int 300
  /-- How many seconds lie between two looks. -/
  latency : Json := .int 5
  deriving DecidableEq

/-- The readings of a chain and the two ways to act on it. -/
structure Ledger (ω : Type) where
  nativeBalance : (address : String) → Action ω Json
  tokenBalance : (token holder : String) → Action ω Json
  chainId : Action ω Json
  gasPrice : Action ω Json
  /-- The base fee of the latest block, null on chains without one. -/
  latestBaseFee : Action ω Json
  /-- A list with the maximum fee and the priority fee of each fee-market transaction of the latest
  block. -/
  recentFeeSamples : Action ω Json
  transactionCount : (address : String) → Action ω Json
  estimateGas : (draft : Json) → Action ω Json
  /-- Hands in a signed transaction and gives its hash. -/
  submitRaw : (raw : Bytes) → Action ω String
  /-- The receipt of a transaction that is deep enough. -/
  awaitConfirmation : (hash : String) → Patience → Action ω Json

end DepositGateway
