import DepositGateway.Proofs.History.Traced
import DepositGateway.Sweep.Engine

/-!
# The parts of a sweep

A sweep puts questions to a ledger, hands in what it signed, reports and pauses, and does nothing
else. So a property of actions that all of these have, and that is passed on to whatever is made of
such actions, is one of sweeps.

* `Question.put`: puts a question to a ledger.
* `Sweeper.Composes`: the calls have a property, and it is passed on.
* `Composes.draft`, `Composes.confirm`, `Composes.sweep`: what is made of calls has it too.
-/

namespace DepositGateway

variable {ω : Type}

/-- Puts a question to a ledger. -/
def Question.put (ledger : Ledger ω) : Question → Action ω Json
  | nativeBalance address => ledger.nativeBalance address
  | tokenBalance token holder => ledger.tokenBalance token holder
  | chainId => ledger.chainId
  | gasPrice => ledger.gasPrice
  | latestBaseFee => ledger.latestBaseFee
  | recentFeeSamples => ledger.recentFeeSamples
  | transactionCount address => ledger.transactionCount address
  | estimateGas draft => ledger.estimateGas draft
  | awaitConfirmation hash patience => ledger.awaitConfirmation hash patience

namespace Sweeper

/-- The calls of a sweeper have a property, and so has whatever goes on from answers or faults of
actions that have it. -/
structure Composes (sweeper : Sweeper ω) (P : (α : Type) → Action ω α → Prop) : Prop where
  known : ∀ {α : Type} (result : Except Fault α), P α (Action.ofExcept result)
  bind : ∀ {α β : Type} {first : Action ω α} {next : α → Action ω β}, P α first →
    (∀ answer, P β (next answer)) → P β (first >>= next)
  attempt : ∀ {α : Type} {action : Action ω α}, P α action →
    P (Except Fault α) (Action.attempt action)
  put : ∀ question : Question, P Json (question.put sweeper.ledger)
  submitRaw : ∀ raw, P String (sweeper.ledger.submitRaw raw)
  report : ∀ level text, P Unit (sweeper.journal.report .sweep level text)
  sleep : ∀ seconds, P Unit (Action.update (sweeper.sleep seconds))

namespace Composes

variable {sweeper : Sweeper ω} {P : (α : Type) → Action ω α → Prop}

section

variable (h : sweeper.Composes P)

include h

theorem pure {α : Type} (value : α) : P α (Pure.pure value) := h.known (.ok value)

theorem fail {α : Type} (fault : Fault) : P α (Action.fail fault) := h.known _

theorem attempt_bind {α β : Type} {action : Action ω α} {next : Except Fault α → Action ω β}
    (hfirst : P α action) (hnext : ∀ result, P β (next result)) :
    P β (Action.attempt action >>= next) := h.bind (h.attempt hfirst) hnext

theorem infoWritten (writable : Bool) (text : String) :
    P Unit (sweeper.journal.infoWritten .sweep writable text) := by
  cases writable with
  | false => exact h.fail _
  | true => exact h.report .info text

/-! ## Fees -/

theorem quoteFees : P _ (quoteFees sweeper.ledger) := by
  refine h.bind (h.put .latestBaseFee) fun baseFee => ?_
  split
  · exact h.pure _
  · refine h.bind (h.put .recentFeeSamples) fun samples => ?_
    split
    · exact h.bind (h.known _) fun _ => h.pure _
    · exact h.pure _

theorem attemptQuote : P _ (attemptQuote sweeper.ledger) := by
  refine h.attempt_bind h.quoteFees fun answer => ?_
  split
  · exact h.pure _
  · exact h.fail _
  · exact h.fail _

theorem quoteFeesAttempts (seconds : Json) (allowed : Number) (retries : Nat) :
    P _ (quoteFeesAttempts sweeper.ledger (Action.update (sweeper.sleep seconds)) allowed
      retries) := by
  induction retries with
  | zero =>
    refine h.bind h.attemptQuote fun found => ?_
    cases found with
    | ok quote => exact h.pure _
    | error reason => exact h.fail _
  | succ retries ih =>
    refine h.bind h.attemptQuote fun found => ?_
    cases found with
    | ok quote => exact h.pure _
    | error reason => exact h.bind (h.sleep seconds) fun _ => ih

theorem readFees : P _ sweeper.readFees := by
  unfold Sweeper.readFees
  split
  · refine h.bind (h.attempt_bind (h.put .gasPrice) fun answer => ?_) fun _ => h.pure _
    split
    · exact h.pure _
    · exact h.bind (h.report _ _) fun _ => h.fail _
    · exact h.fail _
  · refine h.bind ?_ fun quote => h.bind (h.known _) fun _ => h.pure _
    exact h.bind (h.known _) fun _ => h.bind (h.known _) fun _ => h.quoteFeesAttempts _ _ _

/-! ## Readings -/

theorem readChainId : P _ sweeper.readChainId := by
  refine h.attempt_bind (h.put .chainId) fun answer => ?_
  split
  · exact h.pure _
  · exact h.bind (h.report _ _) fun _ => h.fail _
  · exact h.fail _

theorem readSender (address : String) : P _ (sweeper.readSender address) := by
  refine h.attempt_bind (h.bind (h.put (.nativeBalance address)) fun _ =>
    h.bind (h.put (.transactionCount address)) fun _ => h.pure _) fun answer => ?_
  split
  · exact h.pure _
  · exact h.fail _
  · exact h.fail _

theorem readGasLimit (sender : String) (nonce chainId : Json) (fees : FeeFields) :
    P _ (sweeper.readGasLimit sender nonce chainId fees) := by
  dsimp only [Sweeper.readGasLimit]
  split
  · exact h.bind (h.known _) fun _ => h.pure _
  · refine h.attempt_bind (h.put (.estimateGas _)) fun answer => ?_
    split
    · exact h.pure _
    · exact h.bind (h.report _ _) fun _ => h.fail _
    · exact h.fail _

/-! ## Sweeps -/

theorem draft (invoice : Invoice) : P _ (sweeper.draft invoice) := by
  refine h.bind h.readChainId fun chainId => ?_
  refine h.bind (h.readSender invoice.address) fun found => ?_
  refine h.bind h.readFees fun fees => ?_
  refine h.bind (h.readGasLimit _ _ _ _) fun gas => ?_
  refine h.bind (h.known _) fun value => ?_
  split
  · exact h.fail _
  · exact h.pure _

theorem submit (raw : Bytes) : P _ (sweeper.submit raw) := by
  refine h.attempt_bind (h.submitRaw raw) fun answer => ?_
  split
  · exact h.pure _
  · exact h.bind (h.report _ _) fun _ => h.fail _
  · exact h.fail _

theorem confirm (hash : String) : P _ (sweeper.confirm hash) := by
  refine h.attempt_bind (h.put (.awaitConfirmation hash _)) fun answer => ?_
  split
  · exact h.pure _
  · exact h.bind (h.report _ _) fun _ => h.fail _
  · exact h.fail _

theorem checkReceipt (hash : String) (receipt : Json) :
    P _ (Sweeper.checkReceipt hash receipt) := by
  refine h.bind (h.known _) fun status => ?_
  split
  · exact h.pure _
  · exact h.fail _

theorem sweep (invoice : Invoice) : P _ (sweeper.sweep invoice) := by
  refine h.bind ?_ fun scalar => ?_
  · unfold signingKey
    split
    · exact h.pure _
    · exact h.fail _
  refine h.bind (h.draft invoice) fun draft => ?_
  refine h.bind (h.infoWritten _ _) fun _ => h.bind (h.known _) fun raw => ?_
  refine h.bind (h.submit raw) fun hash => h.bind (h.confirm hash) fun receipt => ?_
  exact h.bind (h.checkReceipt hash receipt) fun _ => h.pure _

end

end Composes

end Sweeper

end DepositGateway
