import DepositGateway.Ledger.Node

/-!
# Requests of ledger operations

An operation of the ledger of a node may be asked for by its name, with a list of arguments of any
kind. Too few or too many arguments make a malformed request, and so do arguments of a wrong kind.

* `Ledger.perform`: the answer to a request.
-/

namespace DepositGateway

namespace Ledger

variable {ω : Type}

/-- What is waited for: depth, seconds and pause, each of which may be left out from the end. -/
def patienceOf : List NodeValue → Except Fault Patience
  | [] => .ok {}
  | [depth] => .ok { minConfirmations := depth.toJson }
  | [depth, timeout] => .ok { minConfirmations := depth.toJson, timeout := timeout.toJson }
  | [depth, timeout, latency] => .ok
    { minConfirmations := depth.toJson, timeout := timeout.toJson, latency := latency.toJson }
  | _ => .error .badType

/-- Performs an operation with its arguments. -/
def performUnguarded (node : Node ω) (timer : Timer ω) (journal : Journal ω) :
    LedgerMethod → List NodeValue → Action ω Json
  | .nativeBalance, [address] => readBalance node address
  | .tokenBalance, [token, holder] => readTokenBalance node token holder
  | .chainId, [] => readInteger node.chainId
  | .gasPrice, [] => readInteger node.gasPrice
  | .latestBaseFee, [] => readBaseFee node
  | .recentFeeSamples, [] => readSamples node
  | .transactionCount, [address] => readCount node address
  | .estimateGas, [draft] => readInteger (node.estimateGas draft.toJson)
  | .submitRaw, [raw] => do return .text (← sendSigned node raw)
  | .awaitConfirmation, hash :: rest => do
    confirmedReceipt node timer journal hash (← Action.ofExcept (patienceOf rest))
  | _, _ => Action.fail .badType

/-- The answer to a request of an operation by name; a name that is none is no operation. -/
def perform (node : Node ω) (timer : Timer ω) (journal : Journal ω) (name : String)
    (arguments : List NodeValue) : Action ω Json :=
  match LedgerMethod.ofName? name with
  | some method => guarded method (performUnguarded node timer journal method arguments)
  | none => Action.fail .missingAttribute

end Ledger

end DepositGateway
