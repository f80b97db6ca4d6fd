import DepositGateway.Proofs.Secrecy.TwoWorlds
import DepositGateway.Proofs.Sweep.Parts
import DepositGateway.Proofs.Sweep.Signed

/-!
# Sweeps with different keys

A sweep uses its key to sign, and hands what it signed to the ledger. A ledger that answers without
regard to the signed bytes makes two sweeps that differ in a valid key report the same and end
alike.

* `Invoice.Twins`: invoices that differ in their keys only, both valid.
* `Draft.sign_same`: whether a draft of short numbers can be signed does not depend on the key.
* `Sweeper.Blind`: everything a sweeper calls leaves related worlds related.
  `Sweeper.Blind.sweep`: so do the sweeps of twins.
-/

namespace DepositGateway

variable {ω : Type}

/-- Two invoices that are the same but for their keys, both of which can sign. -/
structure Invoice.Twins (invoice twin : Invoice) : Prop where
  same : twin = { invoice with wallet := twin.wallet }
  valid : invoice.wallet.scalar?.isSome
  validTwin : twin.wallet.scalar?.isSome

/-! ## Signing -/

namespace Draft

/-- The fields that must be numbers. -/
def numbers (draft : Draft) : List Json :=
  [.int draft.value, draft.gas, draft.nonce, draft.chainId] ++
    match draft.fees with
    | .legacy gasPrice => [gasPrice]
    | .feeMarket maxFee priorityFee => [.num maxFee, .num priorityFee]

/-- Every number has fewer than 2^56 bytes. -/
def Short (draft : Draft) : Prop :=
  ∀ field ∈ draft.numbers, ∀ value : Nat, quantity? field = some value → Bytes.Short value

variable {draft : Draft}

theorem Short.number (h : draft.Short) {field : Json} (hfield : field ∈ draft.numbers) {value : Int}
    {number : Nat} (hvalue : quantity field = .ok value) (hnumber : natural value = .ok number) :
    Bytes.Short number := by
  rw [natural_ok hnumber] at hvalue
  exact h field hfield number (quantity_ok hvalue)

/-- Two results that are there are alike, if nothing is asked of them. -/
theorem sameEnd_of_ok {x y : Except Fault Bytes} (hx : ∃ raw, x = .ok raw)
    (hy : ∃ raw, y = .ok raw) : SameEnd (fun _ _ => True) x y := by
  obtain ⟨raw, rfl⟩ := hx
  obtain ⟨other, rfl⟩ := hy
  exact .ok trivial

/-- A draft of short numbers can be signed with any key, or with none for the same reason. -/
theorem sign_same (h : draft.Short) (scalar other : Nat) :
    SameEnd (fun _ _ => True) (draft.sign scalar) (draft.sign other) := by
  have hrecipient := length_recipient_le draft.recipient
  have hvalue {number : Nat} (hnumber : natural draft.value = .ok number) : Bytes.Short number := by
    have hmem : .int draft.value ∈ draft.numbers := by simp [numbers]
    exact h.number hmem rfl hnumber
  unfold sign
  refine SameEnd.bind_same fun nonce hnonce => SameEnd.bind_same fun gas hgas => ?_
  cases hfees : draft.fees with
  | legacy gasPrice =>
    refine SameEnd.bind_same fun price hprice => ?_
    have hrest (chainId? : Option Int)
        (hchainId : ∀ id ∈ chainId?, quantity draft.chainId = .ok id) :
        let signedBy (key : Nat) : Except Fault Bytes := do
          let nonce ← natural nonce
          let price ← natural price
          let gas ← natural gas
          let value ← natural draft.value
          let chainId? ← chainId?.mapM natural
          signLegacy key nonce price gas value ((Address.ofText? draft.recipient).getD []) chainId?
        SameEnd (fun _ _ => True) (signedBy scalar) (signedBy other) := by
      refine SameEnd.bind_same fun nonce' hnonce' => SameEnd.bind_same fun price' hprice' => ?_
      refine SameEnd.bind_same fun gas' hgas' => SameEnd.bind_same fun value' hvalue' => ?_
      refine SameEnd.bind_same fun chainId' hchainId' => ?_
      have hchain : ∀ id ∈ chainId', Bytes.Short id := by
        cases chainId? with
        | none =>
          cases hchainId'
          simp
        | some id =>
          obtain ⟨id', hid', rfl⟩ := ok_of_map hchainId'
          rintro _ ⟨⟩
          exact h.number (by simp [numbers]) (hchainId id rfl) hid'
      have hok (key : Nat) : ∃ raw, signLegacy key nonce' price' gas' value'
          ((Address.ofText? draft.recipient).getD []) chainId' = .ok raw :=
        signLegacy_ok (h.number (by simp [numbers]) hnonce hnonce')
          (h.number (by simp [numbers, hfees]) hprice hprice')
          (h.number (by simp [numbers]) hgas hgas') (hvalue hvalue') hchain hrecipient
      exact sameEnd_of_ok (hok scalar) (hok other)
    dsimp only
    by_cases hnull : draft.chainId = .null
    · rw [if_pos hnull, if_pos hnull]
      exact hrest none (by simp)
    · rw [if_neg hnull, if_neg hnull]
      refine SameEnd.bind_same fun chainId? hchainId => ?_
      obtain ⟨id, hid, rfl⟩ := ok_of_map hchainId
      refine hrest (some id) ?_
      rintro _ ⟨⟩
      exact hid
  | feeMarket maxFee priorityFee =>
    refine SameEnd.bind_same fun chainId hchainId => SameEnd.bind_same fun most hmost => ?_
    refine SameEnd.bind_same fun tip htip => SameEnd.bind_same fun chainId' hchainId' => ?_
    refine SameEnd.bind_same fun nonce' hnonce' => SameEnd.bind_same fun tip' htip' => ?_
    refine SameEnd.bind_same fun most' hmost' => SameEnd.bind_same fun gas' hgas' => ?_
    refine SameEnd.bind_same fun value' hvalue' => ?_
    have hok (key : Nat) : ∃ raw, signFeeMarket key chainId' nonce' tip' most' gas' value'
        ((Address.ofText? draft.recipient).getD []) = .ok raw :=
      signFeeMarket_ok (h.number (by simp [numbers]) hchainId hchainId')
        (h.number (by simp [numbers]) hnonce hnonce')
        (h.number (by simp [numbers, hfees]) htip htip')
        (h.number (by simp [numbers, hfees]) hmost hmost')
        (h.number (by simp [numbers]) hgas hgas') (hvalue hvalue') hrecipient
    exact sameEnd_of_ok (hok scalar) (hok other)

end Draft

/-! ## Sweeps -/

namespace Sweeper

/-- What a sweeper calls leaves related worlds related and answers alike, whatever signed bytes it
is handed. -/
structure Blind (R : ω → ω → Prop) (sweeper : Sweeper ω) : Prop where
  put : ∀ question : Question, Action.Blind R (question.put sweeper.ledger)
  submitRaw : ∀ raw other, Action.Concur R Eq (sweeper.ledger.submitRaw raw)
    (sweeper.ledger.submitRaw other)
  journal : sweeper.journal.Blind R
  sleep : ∀ seconds w v, R w v → R (sweeper.sleep seconds w) (sweeper.sleep seconds v)

/-- Every draft that a sweeper makes in such worlds is of short numbers. -/
def Modest (R : ω → ω → Prop) (sweeper : Sweeper ω) : Prop :=
  ∀ invoice w v, R w v →
    ∀ draft w', (sweeper.draft invoice).apply w = (.ok draft, w') → draft.Short

namespace Blind

variable {R : ω → ω → Prop} {sweeper : Sweeper ω}

/-- What does not tell worlds apart is passed on to all that is made of it. -/
theorem composes (h : sweeper.Blind R) :
    sweeper.Composes fun _ action => Action.Blind R action where
  known := .ofExcept
  bind := .bind
  attempt := .attempt
  put := h.put
  submitRaw raw := h.submitRaw raw raw
  report level text := h.journal.report .sweep level text
  sleep seconds := .update (h.sleep seconds)

/-- What is submitted does not show in the answer. -/
theorem submit (h : sweeper.Blind R) (raw other : Bytes) :
    Action.Concur R Eq (sweeper.submit raw) (sweeper.submit other) := by
  refine (h.submitRaw raw other).attempt_bind fun x y hend => ?_
  obtain rfl := hend.eq
  split
  · exact .pure rfl
  · exact (h.journal.report _ _ _).bind fun _ => .fail _
  · exact Action.Blind.fail _

/-- Sweeps of twins report the same and end alike. -/
theorem sweep (h : sweeper.Blind R) (hmodest : sweeper.Modest R) {invoice twin : Invoice}
    (htwins : invoice.Twins twin) :
    Action.Concur R Eq (sweeper.sweep invoice) (sweeper.sweep twin) := by
  obtain ⟨hsame, hvalid, hvalidTwin⟩ := htwins
  obtain ⟨scalar, hscalar⟩ := Option.isSome_iff_exists.mp hvalid
  obtain ⟨other, hother⟩ := Option.isSome_iff_exists.mp hvalidTwin
  have hdraft : sweeper.draft twin = sweeper.draft invoice := by
    rw [hsame]
    rfl
  have haddress : twin.address = invoice.address := by
    rw [hsame]
  unfold Sweeper.sweep signingKey
  rw [hscalar, hother, hdraft, haddress]
  simp only [pure_bind]
  refine ((h.composes.draft invoice).with_property (hmodest invoice)).bind fun draft _ hmade => ?_
  obtain ⟨rfl, hshort⟩ := hmade
  refine (h.journal.infoWritten _ _ _).then_concur fun _ => ?_
  -- What is signed differs, and only the ledger is told.
  refine (Action.Concur.ofExcept (Draft.sign_same hshort scalar other)).bind fun raw raw' _ => ?_
  refine (h.submit raw raw').bind fun hash _ heq => ?_
  obtain rfl := heq
  refine (h.composes.confirm hash).then_concur fun receipt => ?_
  exact (h.composes.checkReceipt hash receipt).then_concur fun _ => .pure rfl

end Blind

end Sweeper

end DepositGateway
