import DepositGateway.Proofs.Sweep.Amount
import DepositGateway.Proofs.Sweep.Retries
import Mathlib.Algebra.Order.BigOperators.Group.List
import Mathlib.Algebra.Order.Ring.Nat

/-!
# Fees within the market

What a fee-market transaction offers lies within what the block showed: the averages of the samples
lie between the least and the greatest of them, and the maximum fee covers base fee and tip without
going beyond the greatest that the block itself paid for.

* `Market`: a base fee and samples of which there are some. `Market.offeredFee`: the maximum fee
  that a sweep offers there.
* `Market.Within`: the bounds. `Market.within`: averages and offered fee keep them.
* `Sweeper.FeesCourse.offers_market`: a sweep that read a market offers these fees, and nothing
  stands in the way.
* `Sweeper.fees_within_market`: so does every draft.
-/

namespace DepositGateway

variable {ω : Type}

/-! ## Averages -/

/-- The floor of the average does not exceed the greatest value. -/
theorem average_le_max {values : List Nat} (h : values ≠ []) : average values ≤ values.max h := by
  have hsum : values.sum ≤ values.length * values.max h :=
    List.sum_le_card_nsmul values _ ((List.max_le_iff h).1 (Nat.le_refl _))
  exact Nat.div_le_of_le_mul hsum

/-- Nor does it fall below the least one: a floor is at least every integer below the quotient. -/
theorem min_le_average {values : List Nat} (h : values ≠ []) : values.min h ≤ average values := by
  have hsum : values.length * values.min h ≤ values.sum :=
    List.card_nsmul_le_sum values _ ((List.le_min_iff h).1 (Nat.le_refl _))
  rw [Nat.mul_comm] at hsum
  exact (Nat.le_div_iff_mul_le (List.length_pos_of_ne_nil h)).2 hsum

theorem average_perm {values others : List Nat} (h : values.Perm others) :
    average values = average others := by
  rw [average, average, h.sum_eq, h.length_eq]

/-! ## Markets -/

/-- What a block showed of its fees: the base fee, and maximum fee and tip of some transactions. -/
structure Market where
  baseFee : Nat
  samples : List (Nat × Nat)
  present : samples ≠ []

namespace Market

variable (market : Market)

/-- The maximum fees of the samples. -/
def maxFees : List Nat := market.samples.map Prod.fst

/-- The tips of the samples. -/
def tips : List Nat := market.samples.map Prod.snd

theorem maxFees_ne_nil : market.maxFees ≠ [] := mt List.map_eq_nil_iff.1 market.present

theorem tips_ne_nil : market.tips ≠ [] := mt List.map_eq_nil_iff.1 market.present

/-- The greatest maximum fee that was sampled. -/
def highestFee : Nat := market.maxFees.max market.maxFees_ne_nil

/-- The greatest tip that was sampled. -/
def highestTip : Nat := market.tips.max market.tips_ne_nil

/-- The maximum fee that is offered: the average of the samples, or what base fee and average tip
come to, if that is more. -/
def offeredFee : Nat := max (average market.maxFees) (market.baseFee + average market.tips)

/-- The calls that read the market: the base fee and, right after it, the samples. -/
def readings : List Event := sampling (.int market.baseFee) (samplesOf market.samples)

/-- Bounds for averages of the samples and for a fee that is offered on top of them. -/
structure Within (maxFee tip offered : Nat) : Prop where
  maxFee_ge : market.maxFees.min market.maxFees_ne_nil ≤ maxFee
  maxFee_le : maxFee ≤ market.highestFee
  tip_ge : market.tips.min market.tips_ne_nil ≤ tip
  tip_le : tip ≤ market.highestTip
  ordered : (∀ sample ∈ market.samples, sample.2 ≤ sample.1) → tip ≤ maxFee
  coversTip : tip ≤ offered
  coversBase : market.baseFee + tip ≤ offered
  coversAverage : maxFee ≤ offered
  offered_le : offered ≤ max market.highestFee (market.baseFee + market.highestTip)

/-- The averages and the fee that is offered keep the bounds. -/
theorem within : market.Within (average market.maxFees) (average market.tips) market.offeredFee :=
  have hfee := average_le_max market.maxFees_ne_nil
  have htip := average_le_max market.tips_ne_nil
  { maxFee_ge := min_le_average market.maxFees_ne_nil
    maxFee_le := hfee
    tip_ge := min_le_average market.tips_ne_nil
    tip_le := htip
    ordered := fun h => by
      have hlength : market.tips.length = market.maxFees.length := by simp [tips, maxFees]
      rw [average, average, hlength]
      exact Nat.div_le_div_right (List.sum_le_sum h)
    coversTip := Nat.le_trans (Nat.le_add_left _ _) (Nat.le_max_right _ _)
    coversBase := Nat.le_max_right _ _
    coversAverage := Nat.le_max_left _ _
    offered_le := Nat.max_le.2
      ⟨Nat.le_trans hfee (Nat.le_max_left _ _),
        Nat.le_trans (Nat.add_le_add_left htip _) (Nat.le_max_right _ _)⟩ }

/-- The samples have averages, in whatever order they come. -/
theorem averageFees_eq {samples : List (Nat × Nat)} (h : samples.Perm market.samples) :
    averageFees (samplesOf samples) =
      .ok (.int (average market.maxFees), .int (average market.tips)) := by
  have hpresent : samples ≠ [] := by
    rintro rfl
    exact market.present h.symm.eq_nil
  rw [averageFees_samplesOf hpresent, average_perm (h.map Prod.fst), average_perm (h.map Prod.snd)]
  rfl

/-- What an attempt finds out that reads the market. -/
def quote : FeeQuote :=
  { baseFee := .int market.baseFee, maxFee := .int (average market.maxFees),
    priorityFee := .int (average market.tips) }

theorem averages : Averages market.readings market.quote :=
  ⟨nofun, _, (truthy_samplesOf _).2 market.present, rfl, market.averageFees_eq (.refl _)⟩

end Market

/-! ## Sweeps that read a market -/

theorem pair_infix_of_append_left {α : Type} {first second : α} {before after : List α}
    (h : [first, second] <:+: before ++ after) (hsecond : second ∉ before)
    (hfirst : ¬ [first] <:+ before) : [first, second] <:+: after := by
  rcases List.infix_append_iff.1 h with hbefore | hafter | ⟨front, back, hpair, hfront, hback⟩
  · exact absurd (hbefore.subset (by simp)) hsecond
  · exact hafter
  · match front, hpair with
    | [], hpair => exact hpair ▸ hback.isInfix
    | [_], hpair =>
      cases hpair
      exact absurd hfront hfirst
    | [_, _], hpair =>
      cases hpair
      exact absurd (hfront.subset (by simp)) hsecond

theorem pair_infix_of_append_right {α : Type} {first second : α} {before after : List α}
    (h : [first, second] <:+: before ++ after) (hsecond : second ∉ after) :
    [first, second] <:+: before := by
  rcases List.infix_append_iff.1 h with hbefore | hafter | ⟨front, back, hpair, hfront, hback⟩
  · exact hbefore
  · exact absurd (hafter.subset (by simp)) hsecond
  · match back, hpair with
    | [], hpair => exact (hpair.trans (List.append_nil _)) ▸ hfront.isInfix
    | last :: others, hpair =>
      have hmem : second ∈ last :: others := by
        have hlast := congrArg List.getLast? hpair
        rw [List.getLast?_append_cons] at hlast
        exact List.mem_of_getLast? hlast.symm
      exact absurd (hback.subset hmem) hsecond

variable {market : Market}

/-- An attempt that reads a market finds out its averages. -/
theorem QuoteCourse.of_market {answer : Except Fault (Except NoQuote FeeQuote)}
    {events : List Event} (h : QuoteCourse answer events) (hread : market.readings <:+: events) :
    answer = .ok (.ok market.quote) := by
  have hlength : events.length ≤ market.readings.length := by
    cases h <;> simp [Market.readings, sampling]
  have heq := hread.eq_of_length (Nat.le_antisymm hread.length_le hlength)
  exact (h.averages_iff market.quote).1 (heq ▸ market.averages)

/-- So does an estimate one of whose attempts reads it: that attempt is the last one. -/
theorem QuoteRun.of_market {delay : Json} {allowed : Number} {retries : Nat}
    {result : Except Fault FeeQuote} {events : List Event}
    (h : QuoteRun delay allowed retries result events) (hread : market.readings <:+: events) :
    result = .ok market.quote := by
  induction h with
  | failed attempt => cases attempt.of_market hread
  | quoted attempt =>
    cases attempt.of_market hread
    rfl
  | exhausted attempt => cases attempt.of_market hread
  | @again _ reason _ events others attempt _ ih =>
    have hsamples : .asked .recentFeeSamples (.ok (samplesOf market.samples)) ∉ events := by
      rcases attempt.unavailable_iff.2 ⟨reason, rfl⟩ with rfl | ⟨_, samples, _, hnone, rfl⟩
      · simp
      · have hsome := (truthy_samplesOf _).2 market.present
        simp only [sampling, List.mem_cons, List.not_mem_nil, or_false]
        rintro (hbase | hsame)
        · cases hbase
        · cases hsame
          exact Bool.false_ne_true (hnone.symm.trans hsome)
    rw [List.append_cons] at hread
    refine ih (pair_infix_of_append_left hread (by simpa using hsamples) fun hsuffix => ?_)
    obtain hnil | ⟨front, hfront, -⟩ := List.suffix_concat_iff.1 hsuffix
    · cases hnil
    · simpa using congrArg List.getLast? hfront

theorem SenderCourse.not_baseFee {address : String} {result : Except Fault (Json × Json)}
    {events : List Event} (h : SenderCourse address result events) (given : Except Fault Json) :
    .asked .latestBaseFee given ∉ events := by
  cases h <;> simp

namespace Sweeper

/-- Where a market was read, its fees are offered. -/
theorem FeesCourse.offers_market {settings : SweepSettings}
    {result : Except Fault (FeeFields × Json)} {prices : List Event}
    (h : FeesCourse settings result prices) (hread : market.readings <:+: prices) :
    result = .ok (.feeMarket (.int market.offeredFee) (.int (average market.tips)),
      .int market.offeredFee) := by
  cases h with
  | legacy => exact absurd hread.length_le (by simp [Market.readings, sampling])
  | unset => exact absurd hread.length_le (by simp [Market.readings, sampling])
  | quoted kind run =>
    have hmax (a b : Nat) :
        max (a : Int) (market.baseFee + b) = (max a (market.baseFee + b) : Nat) := by omega
    rw [run.of_market hread]
    show offer market.quote = _
    rw [offer, Market.quote, FeeQuote.offeredMaxFee_int, hmax]
    rfl

/-- A draft has the fees that it was reckoned with. -/
theorem fees_of_drafted {sweeper : Sweeper ω} {address : String}
    {chainId balance nonce fee gas : Json} {fees : FeeFields} {draft : Draft}
    (h : sweeper.drafted address chainId balance nonce fees fee gas = .ok draft) :
    draft.fees = fees := by
  obtain ⟨value, -, h⟩ := ok_of_bind h
  split at h
  · cases h
  · cases h
    rfl

theorem DraftCourse.offers_market {sweeper : Sweeper ω} {address : String} {draft : Draft}
    {events : List Event} (h : DraftCourse sweeper address (.ok draft) events)
    (hread : market.readings <:+: events) :
    draft.fees = .feeMarket (.int market.offeredFee) (.int (average market.tips)) := by
  generalize hr : (Except.ok draft : Except Fault Draft) = result at h
  cases h with
  | unknownChain => exact absurd (recast_eq_ok.mp hr.symm) (by simp)
  | unreadSender => exact absurd (recast_eq_ok.mp hr.symm) (by simp)
  | unpriced | unmeasured => cases hr
  | @reckoned _ _ _ _ _ _ sender _ limits read priced measured =>
    have hlimits : .asked .recentFeeSamples (.ok (samplesOf market.samples)) ∉ limits :=
      fun hmem => by cases measured.asked hmem
    have hprices := pair_infix_of_append_left (pair_infix_of_append_right hread hlimits)
      (by simpa using read.not_sampled _)
      fun hsuffix => absurd (hsuffix.subset (List.mem_singleton.2 rfl))
        (by simpa using read.not_baseFee _)
    rw [fees_of_drafted hr.symm]
    cases priced.offers_market hprices
    rfl

/-- The calls of finding out the fees, begun in a world. -/
def feeCalls (sweeper : Sweeper ω) (w : ω) : List Event :=
  (sweeper.traced.readFees.apply ⟨w, []⟩).2.history

theorem feeCalls_course (sweeper : Sweeper ω) (w : ω) :
    FeesCourse sweeper.settings (sweeper.readFees.apply w).1 (sweeper.feeCalls w) := by
  obtain ⟨result, events, w', hs, hc⟩ := sweeper.readFees_shows w
  rw [feeCalls, hs.history, hs.plain]
  exact hc

/-- The calls of making a draft, begun in a world. -/
def draftCalls (sweeper : Sweeper ω) (invoice : Invoice) (w : ω) : List Event :=
  ((sweeper.traced.draft invoice).apply ⟨w, []⟩).2.history

theorem draftCalls_course (sweeper : Sweeper ω) (invoice : Invoice) (w : ω) :
    DraftCourse sweeper invoice.address ((sweeper.draft invoice).apply w).1
      (sweeper.draftCalls invoice w) := by
  obtain ⟨result, events, w', hs, hc⟩ := sweeper.draft_shows invoice w
  rw [draftCalls, hs.history, hs.plain]
  exact hc

end Sweeper

/-- A fee-market draft is signed to a transaction of the second kind, with the fees of the draft. -/
theorem Draft.feeMarket_of_sign {draft : Draft} {scalar maxFee tip : Nat} {raw : Bytes}
    (h : draft.sign scalar = .ok raw) (hfees : draft.fees = .feeMarket (.int maxFee) (.int tip)) :
    raw.head? = some 2 ∧
      ∃ tx, SignedTransaction.ofBytes? raw = some tx ∧ tx.fees = .feeMarket maxFee tip := by
  have hchain : draft.chainId ≠ .null := by
    intro hnull
    obtain ⟨nonce, -, h⟩ := ok_of_bind h
    obtain ⟨gas, -, h⟩ := ok_of_bind h
    simp only [hfees, hnull] at h
    cases h
  obtain ⟨tx, hread, -, -, -, -, -, -, hoffered⟩ := sign_reads h hchain
  rw [hfees] at hoffered
  have hsame : tx.fees = .feeMarket maxFee tip := OfferedFees.eq_of_feesRead
    (show FeesRead (OfferedFees.feeMarket maxFee tip).fields tx.fees from hoffered)
  exact ⟨(SignedTransaction.head?_eq_two_iff hread).2 ⟨_, _, hsame⟩, tx, hread, hsame⟩

namespace Sweeper

/-- Whatever a block shows, its samples have averages, the same in any order. A sweep that reads
base fee and samples goes on with a maximum fee and the average tip within the bounds of the market,
and these are the fees of every draft and of what it is signed to. -/
theorem fees_within_market (market : Market) :
    ∃ maxFee tip offered : Nat,
      (∀ samples, samples.Perm market.samples →
        averageFees (samplesOf samples) = .ok (.int maxFee, .int tip)) ∧
      market.Within maxFee tip offered ∧
      ∀ {ω : Type} (sweeper : Sweeper ω) (w : ω),
        (market.readings <:+: sweeper.feeCalls w → (sweeper.readFees.apply w).1 =
          .ok (.feeMarket (.int offered) (.int tip), .int offered)) ∧
        ∀ invoice draft, market.readings <:+: sweeper.draftCalls invoice w →
          ((sweeper.draft invoice).apply w).1 = .ok draft →
          draft.fees = .feeMarket (.int offered) (.int tip) ∧
          ∀ scalar raw, draft.sign scalar = .ok raw → raw.head? = some 2 ∧
            ∃ tx, SignedTransaction.ofBytes? raw = some tx ∧ tx.fees = .feeMarket offered tip := by
  refine ⟨_, _, _, fun _ => market.averageFees_eq, market.within, fun sweeper w => ⟨?_, ?_⟩⟩
  · exact (sweeper.feeCalls_course w).offers_market
  · intro invoice draft hread hdraft
    have hcourse := sweeper.draftCalls_course invoice w
    rw [hdraft] at hcourse
    have hfees := hcourse.offers_market hread
    exact ⟨hfees, fun scalar raw hsign => Draft.feeMarket_of_sign hsign hfees⟩

/-- A sweeper with fees of the market whose ledger shows no base fee and no samples at first. -/
def patchy : Sweeper Nat where
  ledger := { Ledger.patchy with nativeBalance := fun _ => pure (.int 1000000000) }
  journal _ w := w
  sleep _ w := w
  settings := { treasury := "", kind := .feeMarket, gasLimit := .int 21000 }

/-- What the third attempt reads there. -/
def patchyMarket : Market := ⟨92, [(301, 20), (500, 41)], by decide⟩

theorem fees_within_market_patchy :
    patchyMarket.readings <:+: patchy.draftCalls funded 0 ∧
      ∃ draft, ((patchy.draft funded).apply 0).1 = .ok draft ∧
        draft.fees = .feeMarket (.int 400) (.int 30) ∧ patchyMarket.Within 400 30 400 := by
  obtain ⟨maxFee, tip, offered, haverages, hwithin, hoffers⟩ := fees_within_market patchyMarket
  have hread : patchyMarket.readings <:+: patchy.draftCalls funded 0 := by
    refine ⟨(patchy.draftCalls funded 0).take 8, [], ?_⟩
    rfl
  have hdraft : ((patchy.draft funded).apply 0).1 = .ok
      { recipient := "", value := 991600000, gas := .int 21000, nonce := .int 0, chainId := .int 0,
        fees := .feeMarket (.int 400) (.int 30) } := rfl
  have haverage : averageFees (samplesOf patchyMarket.samples) = .ok (.int 400, .int 30) := rfl
  cases haverage.symm.trans (haverages _ (.refl _))
  cases ((hoffers patchy 0).2 funded _ hread hdraft).1
  exact ⟨hread, _, hdraft, rfl, hwithin⟩

end Sweeper

end DepositGateway
