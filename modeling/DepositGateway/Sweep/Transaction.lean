import DepositGateway.Address
import DepositGateway.Curve.Signature
import DepositGateway.Fault
import DepositGateway.Hash.Keccak
import DepositGateway.Json.Value
import DepositGateway.Rlp.Item

/-!
# Sweep transactions

A draft names recipient, value, gas, nonce, chain and fees as they were read. Signing it checks
that each of them is a number and writes the transaction, unless it is too long to be written.

* `Draft.toJson`: the draft as it is shown.
* `Draft.sign`: the signed bytes, or the fault that stands in their way.
-/

namespace DepositGateway

/-- The fee fields of the two kinds of transaction. -/
inductive FeeFields where
  | legacy (gasPrice : Json)
  | feeMarket (maxFee priorityFee : Number)
  deriving DecidableEq

namespace FeeFields

/-- The fee fields with the chain id, as they stand in a draft for the node. -/
def toMembers (fees : FeeFields) (chainId : Json) : List (String × Json) :=
  match fees with
  | legacy gasPrice => [("gasPrice", gasPrice), ("chainId", chainId)]
  | feeMarket maxFee priorityFee =>
    [("type", .int 2), ("maxFeePerGas", .num maxFee), ("maxPriorityFeePerGas", .num priorityFee),
     ("chainId", chainId)]

end FeeFields

/-- An unsigned transaction. -/
structure Draft where
  /-- The recipient, in checksum form. -/
  recipient : String
  value : Int
  gas : Json
  nonce : Json
  chainId : Json
  fees : FeeFields
  deriving DecidableEq

namespace Draft

/-- The draft as it is shown. -/
def toJson (draft : Draft) : Json :=
  match draft.fees with
  | .legacy gasPrice => .object
      [("to", .text draft.recipient), ("value", .int draft.value), ("gas", draft.gas),
       ("gasPrice", gasPrice), ("nonce", draft.nonce), ("chainId", draft.chainId),
       ("data", .text "0x")]
  | .feeMarket maxFee priorityFee => .object
      [("type", .int 2), ("to", .text draft.recipient), ("value", .int draft.value),
       ("gas", draft.gas), ("maxFeePerGas", .num maxFee),
       ("maxPriorityFeePerGas", .num priorityFee), ("nonce", draft.nonce),
       ("chainId", draft.chainId), ("data", .text "0x"), ("accessList", .arr [])]

/-! ## Numbers of a transaction -/

/-- The value of a run of hexadecimal digits; an empty run has none. -/
def hexNumber? (run : List Char) : Option Nat :=
  if run.isEmpty then none
  else (run.mapM hexValue?).map fun digits => digits.foldl (fun sum v => sum * 16 + v) 0

/-- The integer of a field: an integer, or hexadecimal text after the mark `0x`. -/
def quantity? : Json → Option Int
  | .num (.int value) => some value
  | .str units => do
    let text ← Utf16.toString? units
    match text.toList with
    | '0' :: 'x' :: run => (hexNumber? run).map Int.ofNat
    | '0' :: 'X' :: run => (hexNumber? run).map Int.ofNat
    | _ => none
  | _ => none

/-- What is said of a draft that cannot be signed. -/
def unsignable : Fault := .transfer (.buildFailed "Could not sign sweep")

/-- The integer of a field that must be one. -/
def quantity (field : Json) : Except Fault Int :=
  match quantity? field with
  | some value => .ok value
  | none => .error unsignable

/-- What has no form as a field. -/
def unencodable : Fault := .other ⟨.unencodable, none⟩

/-- The natural of an integer; a negative one cannot be a field. -/
def natural (value : Int) : Except Fault Nat :=
  if value < 0 then .error unencodable else .ok value.toNat

/-! ## Signing -/

/-- A number as an item. -/
def numberItem (value : Nat) : Rlp.Item := .ofNat value

/-- The written form of an item; one that is too long has none and cannot be signed. -/
def written (item : Rlp.Item) : Except Fault Bytes :=
  match item.encode? with
  | some bytes => .ok bytes
  | none => .error unsignable

/-- The signed form of a transaction of the first kind: the chain id, where there is one, is
signed with the fields and then hidden in the parity. -/
def signLegacy (scalar nonce gasPrice gas value : Nat) (recipient : Bytes) (chainId? : Option Nat) :
    Except Fault Bytes := do
  let fields := [numberItem nonce, numberItem gasPrice, numberItem gas, .bytes recipient,
    numberItem value, .bytes []]
  let (signed, base) := match chainId? with
    | some chainId => (fields ++ [numberItem chainId, numberItem 0, numberItem 0], 35 + 2 * chainId)
    | none => (fields, 27)
  let unsigned ← written (.list signed)
  let signature := Signature.sign scalar (keccak256 unsigned)
  written (.list (fields ++
    [numberItem (base + signature.parity), numberItem signature.r, numberItem signature.s]))

/-- The signed form of a fee-market transaction, after its mark 2. -/
def signFeeMarket (scalar chainId nonce priorityFee maxFee gas value : Nat) (recipient : Bytes) :
    Except Fault Bytes := do
  let fields := [numberItem chainId, numberItem nonce, numberItem priorityFee, numberItem maxFee,
    numberItem gas, .bytes recipient, numberItem value, .bytes [], .list []]
  let unsigned ← written (.list fields)
  let signature := Signature.sign scalar (keccak256 (2 :: unsigned))
  let signed ← written (.list (fields ++
    [numberItem signature.parity, numberItem signature.r, numberItem signature.s]))
  return 2 :: signed

/-- The signed bytes of a draft. -/
def sign (draft : Draft) (scalar : Nat) : Except Fault Bytes := do
  let recipient := (Address.ofText? draft.recipient).getD []
  let nonce ← quantity draft.nonce
  let gas ← quantity draft.gas
  match draft.fees with
  | .legacy gasPrice =>
    let gasPrice ← quantity gasPrice
    let chainId? ← if draft.chainId = .null then pure none else some <$> quantity draft.chainId
    let nonce ← natural nonce
    let gasPrice ← natural gasPrice
    let gas ← natural gas
    let value ← natural draft.value
    let chainId? ← chainId?.mapM natural
    signLegacy scalar nonce gasPrice gas value recipient chainId?
  | .feeMarket maxFee priorityFee =>
    let chainId ← quantity draft.chainId
    let maxFee ← quantity (.num maxFee)
    let priorityFee ← quantity (.num priorityFee)
    let chainId ← natural chainId
    let nonce ← natural nonce
    let priorityFee ← natural priorityFee
    let maxFee ← natural maxFee
    let gas ← natural gas
    let value ← natural draft.value
    signFeeMarket scalar chainId nonce priorityFee maxFee gas value recipient

end Draft

end DepositGateway
