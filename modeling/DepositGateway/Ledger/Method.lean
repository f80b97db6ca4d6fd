/-!
# The operations of a ledger by name
-/

namespace DepositGateway

/-- An operation of a ledger. -/
inductive LedgerMethod where
  | nativeBalance
  | tokenBalance
  | chainId
  | gasPrice
  | latestBaseFee
  | recentFeeSamples
  | transactionCount
  | estimateGas
  | submitRaw
  | awaitConfirmation
  deriving DecidableEq

namespace LedgerMethod

/-- The name of an operation, as it stands in messages. -/
def name : LedgerMethod → String
  | nativeBalance => "native_balance"
  | tokenBalance => "token_balance"
  | chainId => "chain_id"
  | gasPrice => "gas_price"
  | latestBaseFee => "latest_base_fee"
  | recentFeeSamples => "recent_block_fee_samples"
  | transactionCount => "transaction_count"
  | estimateGas => "estimate_gas"
  | submitRaw => "submit_raw"
  | awaitConfirmation => "await_confirmation"

/-- All operations. -/
def all : List LedgerMethod :=
  [nativeBalance, tokenBalance, chainId, gasPrice, latestBaseFee, recentFeeSamples,
   transactionCount, estimateGas, submitRaw, awaitConfirmation]

/-- The operation of a name. -/
def ofName? (name : String) : Option LedgerMethod := all.find? fun method => method.name = name

end LedgerMethod

end DepositGateway
