import DepositGateway.Proofs.Independence.Lockstep
import DepositGateway.Proofs.Sweep.Outcome
import DepositGateway.Simulation.Deployment

/-!
# Sweeps in lockstep

A sweep reads and changes the account of its own deposit address only, and on a chain whose script
is regular it fails only as sweeps do.

* `SweepSettings.Usable`: the settings name a number wherever one is needed.
* `InStep.draft`: a draft is in step, and made of numbers that are not below zero.
* `InStep.sweep`: a sweep is in step.
-/

namespace DepositGateway

/-- The settings name numbers: the limit of gas, if there is one, how often a look at the fees is
repeated, and how long after. -/
structure SweepSettings.Usable (settings : SweepSettings) : Prop where
  gasLimit : settings.gasLimit = .null ∨ ∃ limit : Nat, settings.gasLimit = .int limit
  feeRetries : ∃ allowed, allowedAttempts settings.feeRetries = .ok allowed
  feeRetryDelay : ∃ seconds, settings.feeRetryDelay.toDouble = .ok seconds

/-- A quote of numbers that are not below zero. -/
def FeeQuote.IsNatural (quote : FeeQuote) : Prop :=
  ∃ baseFee maxFee tip : Nat, quote = ⟨.int baseFee, .int maxFee, .int tip⟩

namespace Comparison.InStep

variable {c : Comparison} {deployment : Deployment} {before : Bool}

/-! ## Fees -/

theorem quoteFees : c.InStep before (quoteFees World.ledger) before
    (fun found => ∀ quote, found = .ok quote → quote.IsNatural) Fault.IsLedger := by
  refine bind latestBaseFee fun baseFee hbaseFee => ?_
  split
  · exact InStep.pure nofun
  · next hsome =>
    obtain ⟨fee, rfl⟩ := hbaseFee.resolve_left hsome
    refine bind recentFeeSamples fun samples hsamples => ?_
    obtain ⟨samples, rfl⟩ := hsamples
    split
    · next hpresent =>
      rw [averageFees_samplesOf ((truthy_samplesOf samples).1 hpresent)]
      refine InStep.pure fun quote hquote => ?_
      cases hquote
      exact ⟨_, _, _, rfl⟩
    · exact InStep.pure nofun

theorem attemptQuote : c.InStep before (attemptQuote World.ledger) before
    (fun found => ∀ quote, found = .ok quote → quote.IsNatural) Fault.IsTransfer := by
  refine attempt_bind quoteFees (fun found hfound => InStep.pure hfound) fun fault hfault => ?_
  obtain ⟨reason, rfl⟩ := hfault
  exact fail ⟨_, rfl⟩

theorem quoteFeesAttempts (seconds : Json) (allowed : Number) (retries : Nat) :
    c.InStep before (quoteFeesAttempts World.ledger (Action.update (World.sleep seconds)) allowed
      retries) before FeeQuote.IsNatural Fault.IsTransfer := by
  induction retries with
  | zero =>
    refine bind attemptQuote fun found hfound => ?_
    cases found with
    | ok quote => exact InStep.pure (hfound quote rfl)
    | error reason => exact fail ⟨_, rfl⟩
  | succ retries ih =>
    refine bind attemptQuote fun found hfound => ?_
    cases found with
    | ok quote => exact InStep.pure (hfound quote rfl)
    | error reason => exact bind (sleep seconds) fun _ _ => ih

theorem readGasPrice : c.InStep before deployment.sweeper.readGasPrice before
    (fun price => ∃ number : Nat, price = .int number) Fault.IsTransfer := by
  refine attempt_bind gasPrice (fun price hprice => InStep.pure hprice) fun fault hfault => ?_
  obtain ⟨reason, rfl⟩ := hfault
  exact bind (report _ _ _) fun _ _ => fail ⟨_, rfl⟩

theorem quoteFeesWithRetry {settings : SweepSettings} (hs : settings.Usable) :
    c.InStep before (quoteFeesWithRetry World.ledger World.sleep settings.feeRetries
      settings.feeRetryDelay) before FeeQuote.IsNatural Fault.IsTransfer := by
  obtain ⟨allowed, hallowed⟩ := hs.feeRetries
  obtain ⟨seconds, hseconds⟩ := hs.feeRetryDelay
  exact bind (known hallowed) fun _ _ => bind (known hseconds) fun _ _ =>
    quoteFeesAttempts _ _ _

theorem readFees (hs : deployment.settings.Usable) :
    c.InStep before deployment.sweeper.readFees before (fun fees => ∃ offered : OfferedFees,
      fees = (offered.fields, .int offered.perGas)) Fault.IsTransfer := by
  unfold Sweeper.readFees
  split
  · refine bind readGasPrice fun price hprice => ?_
    obtain ⟨price, rfl⟩ := hprice
    exact InStep.pure ⟨.legacy price, rfl⟩
  · refine bind (quoteFeesWithRetry hs) fun quote hquote => ?_
    obtain ⟨baseFee, maxFee, tip, rfl⟩ := hquote
    refine bind (known (FeeQuote.offeredMaxFee_int _ _ _)) fun offeredMax hoffered => ?_
    subst hoffered
    refine InStep.pure ⟨.feeMarket (max maxFee (baseFee + tip)) tip, ?_⟩
    have hmax : max (maxFee : Int) (baseFee + tip) = (max maxFee (baseFee + tip) : Nat) := by omega
    rw [hmax]
    rfl

/-! ## Readings -/

theorem readChainId : c.InStep before deployment.sweeper.readChainId before
    (fun id => ∃ number : Nat, id = .int number) Fault.IsTransfer := by
  refine attempt_bind chainId (fun id hid => InStep.pure hid) fun fault hfault => ?_
  obtain ⟨reason, rfl⟩ := hfault
  exact bind (report _ _ _) fun _ _ => fail ⟨_, rfl⟩

/-- The nonce is read last. -/
theorem readSender : c.InStep before (deployment.sweeper.readSender c.address) true
    (fun found => ∃ balance nonce : Nat, (Number.int balance).isWritable = true ∧
      found = (.int balance, .int nonce)) Fault.IsTransfer := by
  have hreadings : c.InStep before (do
      let balance ← World.ledger.nativeBalance c.address
      let nonce ← World.ledger.transactionCount c.address
      return (balance, nonce)) true
      (fun found => ∃ balance nonce : Nat, (Number.int balance).isWritable = true ∧
        found = (.int balance, .int nonce)) Fault.IsLedger := by
    refine bind nativeBalance fun balance hbalance => bind transactionCount fun nonce hnonce => ?_
    obtain ⟨balance, hwritten, rfl⟩ := hbalance
    obtain ⟨nonce, rfl⟩ := hnonce
    exact InStep.pure ⟨balance, nonce, hwritten, rfl⟩
  refine attempt_bind hreadings (fun found hfound => InStep.pure hfound) fun fault hfault => ?_
  obtain ⟨reason, rfl⟩ := hfault
  exact fail ⟨_, rfl⟩

theorem readGasLimit (hs : deployment.settings.Usable) (sender : String) (nonce chainId : Json)
    (fees : FeeFields) :
    c.InStep before (deployment.sweeper.readGasLimit sender nonce chainId fees) before
      (fun gas => ∃ number : Nat, gas = .int number) Fault.IsTransfer := by
  unfold Sweeper.readGasLimit
  dsimp only
  split
  · next htruthy =>
    obtain hnull | ⟨limit, hlimit⟩ := hs.gasLimit
    · have hset : deployment.sweeper.settings.gasLimit = .null := hnull
      rw [hset] at htruthy
      cases htruthy
    · refine bind (known (congrArg Json.toInteger hlimit)) fun value hvalue => ?_
      subst hvalue
      exact InStep.pure ⟨limit, rfl⟩
  · refine attempt_bind (estimateGas _) (fun gas hgas => InStep.pure hgas) fun fault hfault => ?_
    obtain ⟨reason, rfl⟩ := hfault
    exact bind (report _ _ _) fun _ _ => fail ⟨_, rfl⟩

/-! ## Sweeps -/

/-- A draft is made of the numbers that were read. -/
theorem draft (hs : deployment.settings.Usable) {invoice : Invoice}
    (haddress : invoice.address = c.address) :
    c.InStep before (deployment.sweeper.draft invoice) true
      (fun draft => ∃ q : Quantities, q.Written ∧ draft = q.draft deployment.settings.treasury)
      Fault.IsTransfer := by
  unfold Sweeper.draft
  rw [haddress]
  refine bind readChainId fun chainId hchainId => ?_
  refine bind readSender fun sender hsender => ?_
  refine bind (readFees hs) fun fees hfees => ?_
  refine bind (readGasLimit hs _ _ _ _) fun gas hgas => ?_
  obtain ⟨chainId, rfl⟩ := hchainId
  obtain ⟨balance, nonce, hwritten, rfl⟩ := hsender
  obtain ⟨offered, rfl⟩ := hfees
  obtain ⟨gas, rfl⟩ := hgas
  let q : Quantities := ⟨chainId, nonce, balance, gas, offered⟩
  have hq : q.Written := hwritten
  -- From here on both runs compute the same, with the same numbers.
  intro w v beside
  rw [(deployment.sweeper.drafted_shows _ _ _ _ _ _ _ w).plain,
    (deployment.sweeper.drafted_shows _ _ _ _ _ _ _ v).plain,
    deployment.sweeper.drafted_quantities c.address q, Sweeper.nothingToSweep_of_written hq]
  split
  · exact .ok ⟨q, hq, rfl⟩ beside
  · exact .error ⟨_, rfl⟩ beside.forget

theorem submit (raw : Bytes) : c.InStep true (deployment.sweeper.submit raw) true
    (fun _ => True) Fault.IsTransfer := by
  refine attempt_bind (submitRaw raw) (fun hash hhash => InStep.pure hhash) fun fault hfault => ?_
  obtain ⟨reason, rfl⟩ := hfault
  exact bind (report _ _ _) fun _ _ => fail ⟨_, rfl⟩

theorem confirm (hash : String) : c.InStep before (deployment.sweeper.confirm hash) before
    (fun receipt => ∃ members, receipt = .obj members) Fault.IsTransfer := by
  refine attempt_bind (awaitConfirmation hash _)
    (fun receipt hreceipt => InStep.pure hreceipt) fun fault hfault => ?_
  obtain ⟨reason, rfl⟩ := hfault
  exact bind (report _ _ _) fun _ _ => fail ⟨_, rfl⟩

theorem checkReceipt (hash : String) {receipt : Json} (h : ∃ members, receipt = .obj members) :
    c.InStep before (Sweeper.checkReceipt hash receipt) before (fun _ => True)
      Fault.IsTransfer := by
  obtain ⟨members, rfl⟩ := h
  refine bind (ofExcept (P := fun _ => True) (fun _ _ => trivial) nofun) fun status _ => ?_
  split
  · exact InStep.pure trivial
  · exact fail ⟨_, rfl⟩

/-- A sweep is in step and fails only as sweeps do. -/
theorem sweep (hs : deployment.settings.Usable) {invoice : Invoice}
    (haddress : invoice.address = c.address) :
    c.InStep before (deployment.sweeper.sweep invoice) true (fun _ => True)
      Fault.IsTransfer := by
  have hkey : c.InStep before (Sweeper.signingKey invoice) before (fun _ => True)
      Fault.IsTransfer := by
    unfold Sweeper.signingKey
    split
    · exact InStep.pure trivial
    · exact fail ⟨_, rfl⟩
  refine bind hkey fun scalar _ => ?_
  refine bind (draft hs haddress) fun draft hdraft => ?_
  obtain ⟨q, hwritten, rfl⟩ := hdraft
  refine bind (infoWritten (hwritten.reported _) _ _) fun _ _ => ?_
  refine bind (ofExcept (P := fun _ => True) (fun _ _ => trivial) fun fault hfault => ?_)
    fun raw _ => ?_
  · exact ⟨_, Quantities.sign_error hfault⟩
  refine bind (submit raw) fun hash _ => ?_
  refine bind (confirm hash) fun receipt hreceipt => ?_
  exact bind (checkReceipt hash hreceipt) fun _ _ => InStep.pure trivial

end Comparison.InStep

end DepositGateway
