import DepositGateway.Bytes.Hex
import DepositGateway.Hash.Keccak
import DepositGateway.Ledger.Basic
import DepositGateway.Ledger.Method
import DepositGateway.Text.Lowercase

/-!
# A simulated chain

A chain held in memory: balances and nonces by address, fees, a receipt, and for each operation a
fault that it may be set to raise. An accepted submission empties the address that was asked for
its nonce last and raises that nonce.

* `Chain.accept`: what a submission does to the chain.
* `Chain.amountOf`: balances and nonces are kept under the lower-case text of their key.
-/

namespace DepositGateway

/-- An answer that is given, or a fault that is raised in its place. -/
inductive Scripted (α : Type) where
  | answer (value : α)
  | raise (fault : Fault)

namespace Scripted

/-- The answer or the fault. -/
def toExcept {α : Type} : Scripted α → Except Fault α
  | answer value => .ok value
  | raise fault => .error fault

end Scripted

/-- One call of an operation, with its arguments. -/
structure LedgerCall where
  method : LedgerMethod
  arguments : List Json
  deriving DecidableEq

/-- The chain. -/
structure Chain where
  chainId : Json := .int 1337
  gasPrice : Json := .int 10
  baseFee : Scripted Json := .answer (.int 100)
  feeSamples : Scripted Json :=
    .answer (.arr [.arr [.int 300, .int 20], .arr [.int 500, .int 40]])
  baseFeeQueue : List (Scripted Json) := []
  feeSamplesQueue : List (Scripted Json) := []
  gas : Json := .int 21000
  receiptStatus : Json := .int 1
  receipt : Json := .null
  balances : List (String × Json) := []
  tokenBalances : List (String × Json) := []
  nonces : List (String × Json) := []
  failures : List (LedgerMethod × Fault) := []
  /-- The address whose nonce was read last. -/
  sender : String := ""

namespace Chain

/-- Sets the value of a key, which is kept in lower case. -/
def setAmount (key : String) (value : Json) : List (String × Json) → List (String × Json)
  | [] => [(lowerCase key, value)]
  | (other, old) :: rest =>
    if other = lowerCase key then (other, value) :: rest
    else (other, old) :: setAmount key value rest

/-- The value of a key, zero where there is none. -/
def amountOf (key : String) (amounts : List (String × Json)) : Json :=
  (amounts.lookup (lowerCase key)).getD (.int 0)

/-- The fault that an operation is set to raise. -/
def failureOf? (chain : Chain) (method : LedgerMethod) : Option Fault :=
  chain.failures.lookup method

/-- The next base fee. -/
def nextBaseFee (chain : Chain) : Scripted Json × Chain :=
  match chain.baseFeeQueue with
  | [] => (chain.baseFee, chain)
  | next :: rest => (next, { chain with baseFeeQueue := rest })

/-- The next fee samples. -/
def nextFeeSamples (chain : Chain) : Scripted Json × Chain :=
  match chain.feeSamplesQueue with
  | [] => (chain.feeSamples, chain)
  | next :: rest => (next, { chain with feeSamplesQueue := rest })

/-- A nonce after one more transaction; only a number can be raised. -/
def raised (nonce : Json) : Except Fault Json :=
  match nonce.asNumber? with
  | none => .error .badType
  | some number =>
    match number.add? 1 with
    | some next => .ok (.num next)
    | none => .error .overflow

/-- The sender without its balance. -/
def emptied (chain : Chain) : Chain :=
  { chain with balances := setAmount chain.sender (.int 0) chain.balances }

/-- Accepts a submission: the sender is emptied, then its nonce raised where it can be. -/
def accept (chain : Chain) : Except Fault Unit × Chain :=
  let after := chain.emptied
  match raised (amountOf chain.sender chain.nonces) with
  | .ok nonce => (.ok (), { after with nonces := setAmount chain.sender nonce after.nonces })
  | .error fault => (.error fault, after)

/-- The receipt of a transaction. -/
def receiptOf (chain : Chain) (hash : String) : Json :=
  if chain.receipt = .null then
    .object [("status", chain.receiptStatus), ("transactionHash", .text hash),
      ("blockNumber", .int 1)]
  else chain.receipt

end Chain

end DepositGateway
