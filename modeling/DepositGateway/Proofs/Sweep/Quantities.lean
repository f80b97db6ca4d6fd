import DepositGateway.Proofs.Sweep.Calls
import DepositGateway.Proofs.Sweep.Signed
import Mathlib.Algebra.BigOperators.Ring.Finset

/-!
# The quantities of a sweep

What a sweep reads from a ledger whose integers are not below zero, as natural numbers.

* `averageFees_pairs`: the floor averages of samples that are pairs of integers.
* `Event.Natural`: an answer tells no negative integer.
* `Offers`, `Measures`, `Sweeper.Readings`: the fees, the gas and all the numbers that a sweep went
  by, each the only answer to its question.
* `Sweeper.DraftCourse.draft_eq`: a draft is made of such numbers, and they leave something to move.
* `Sweeper.DraftCourse.nothing_left`: where every reading came and no draft was made, they leave
  nothing.
-/

namespace DepositGateway

variable {ω : Type}

/-- A question was answered, and with nothing else. -/
def OnlyAnswer (question : Question) (events : List Event) (answer : Json) : Prop :=
  ∀ given, .asked question given ∈ events ↔ given = .ok answer

theorem OnlyAnswer.append {question : Question} {events others : List Event} {answer : Json}
    (h : OnlyAnswer question events answer) (ho : ∀ given, .asked question given ∉ others) :
    OnlyAnswer question (events ++ others) answer := by
  intro given
  rw [List.mem_append, h given]
  exact or_iff_left (ho given)

theorem OnlyAnswer.prepend {question : Question} {events others : List Event} {answer : Json}
    (h : OnlyAnswer question events answer) (ho : ∀ given, .asked question given ∉ others) :
    OnlyAnswer question (others ++ events) answer := by
  intro given
  rw [List.mem_append, h given]
  exact or_iff_right (ho given)

theorem OnlyAnswer.single (question : Question) (answer : Json) :
    OnlyAnswer question [.asked question (.ok answer)] answer := by
  intro given
  simp

/-- What is summed up of pairs of integers is the fee that stands at the place. -/
theorem totalFrom_pairs {place : Nat} {fee : Int × Int → Int}
    (h : ∀ pair, (Json.arr [.int pair.1, .int pair.2]).item place = .ok (.int (fee pair)))
    (pairs : List (Int × Int)) (sum : Int) :
    totalFrom place (.int sum) (pairs.map fun (a, b) => Json.arr [.int a, .int b]) =
      .ok (.int (sum + (pairs.map fee).sum)) := by
  induction pairs generalizing sum with
  | nil => simp [totalFrom]
  | cons pair rest ih =>
    have hadd : addValue (.int sum) (.int (fee pair)) = .ok (.int (sum + fee pair)) := rfl
    simp only [List.map_cons, totalFrom, h, hadd, bind, Except.bind, ih, List.sum_cons,
      Int.add_assoc]

/-- The averages of pairs of integers are the floors of the quotients of their sums. -/
theorem averageFees_pairs (pairs : List (Int × Int)) (h : pairs ≠ []) :
    averageFees (samplesOfPairs pairs) = .ok
      (.int ((pairs.map Prod.fst).sum.fdiv pairs.length),
        .int ((pairs.map Prod.snd).sum.fdiv pairs.length)) := by
  have first : totalFrom 0 (.int 0) _ = .ok (.int (0 + (pairs.map Prod.fst).sum)) :=
    totalFrom_pairs (fun _ => rfl) pairs 0
  have second : totalFrom 1 (.int 0) _ = .ok (.int (0 + (pairs.map Prod.snd).sum)) :=
    totalFrom_pairs (fun _ => rfl) pairs 0
  have nonempty : (pairs.map fun (a, b) => Json.arr [.int a, .int b]).isEmpty = false := by
    cases pairs with
    | nil => exact absurd rfl h
    | cons pair rest => rfl
  have zero : (0 : Number) = .int 0 := rfl
  simp only [Int.zero_add] at first second
  simp only [averageFees, samplesOfPairs, Json.elements, averageAt, zero, first, second,
    nonempty, bind, Except.bind, List.length_map, Number.floorDivNat_int, pure, Except.pure,
    Bool.false_eq_true, if_false]

/-! ## Naturals -/

/-- Samples of maximum and priority fee. -/
def samplesOf (samples : List (Nat × Nat)) : Json :=
  samplesOfPairs (samples.map fun (maxFee, tip) => ((maxFee : Int), (tip : Int)))

/-- The floor average. -/
def average (values : List Nat) : Nat := values.sum / values.length

/-- Whether the integers that an answer tells are there and not below zero. A base fee may be
missing, and a receipt tells none. -/
def Event.Natural : Event → Prop
  | .asked .latestBaseFee (.ok answer) => answer = .null ∨ ∃ baseFee : Nat, answer = .int baseFee
  | .asked .recentFeeSamples (.ok answer) => ∃ samples, answer = samplesOf samples
  | .asked (.awaitConfirmation _ _) _ => True
  | .asked _ (.ok answer) => ∃ value : Nat, answer = .int value
  | _ => True

theorem averageFees_samplesOf {samples : List (Nat × Nat)} (h : samples ≠ []) :
    averageFees (samplesOf samples) = .ok
      (.int (average (samples.map Prod.fst)), .int (average (samples.map Prod.snd))) := by
  have hne : (samples.map fun (a, b) => ((a : Int), (b : Int))) ≠ [] := by simpa using h
  have hfst : (samples.map fun (a, b) => ((a : Int), (b : Int))).map Prod.fst =
      (samples.map Prod.fst).map (↑) := by simp [List.map_map, Function.comp_def]
  have hsnd : (samples.map fun (a, b) => ((a : Int), (b : Int))).map Prod.snd =
      (samples.map Prod.snd).map (↑) := by simp [List.map_map, Function.comp_def]
  rw [samplesOf, averageFees_pairs _ hne, hfst, hsnd, ← Nat.cast_list_sum, ← Nat.cast_list_sum,
    average, average]
  simp [Int.fdiv_eq_ediv_of_nonneg]

theorem truthy_samplesOf (samples : List (Nat × Nat)) :
    (samplesOf samples).truthy = true ↔ samples ≠ [] := by
  cases samples <;> simp [samplesOf, samplesOfPairs, Json.truthy]

/-! ## Fees -/

/-- The fee fields with these numbers. -/
def OfferedFees.fields : OfferedFees → FeeFields
  | legacy gasPrice => .legacy (.int gasPrice)
  | feeMarket maxFee priorityFee => .feeMarket (.int maxFee) (.int priorityFee)

/-- The fees that a sweep offers after what it read: the gas price, or, on top of the average tip of
samples, whichever is more, their average maximum or the base fee that was read with them. -/
inductive Offers (kind : TransactionKind) (events : List Event) : OfferedFees → Prop
  | legacy {gasPrice : Nat} (legacy : kind = .legacy)
      (read : OnlyAnswer .gasPrice events (.int gasPrice)) : Offers kind events (.legacy gasPrice)
  | feeMarket {baseFee : Nat} {samples : List (Nat × Nat)} (market : kind = .feeMarket)
      (present : samples ≠ [])
      (read : [.asked .latestBaseFee (.ok (.int baseFee)),
        .asked .recentFeeSamples (.ok (samplesOf samples))] <:+: events) :
      Offers kind events (.feeMarket
        (max (average (samples.map Prod.fst)) (baseFee + average (samples.map Prod.snd)))
        (average (samples.map Prod.snd)))

theorem Offers.append {kind : TransactionKind} {events others : List Event} {fees : OfferedFees}
    (h : Offers kind events fees) (ho : ∀ given, .asked .gasPrice given ∉ others) :
    Offers kind (events ++ others) fees := by
  cases h with
  | legacy legacy read => exact .legacy legacy (read.append ho)
  | feeMarket market present read =>
    exact .feeMarket market present (read.trans (List.prefix_append _ _).isInfix)

theorem Offers.prepend {kind : TransactionKind} {events others : List Event} {fees : OfferedFees}
    (h : Offers kind events fees) (ho : ∀ given, .asked .gasPrice given ∉ others) :
    Offers kind (others ++ events) fees := by
  cases h with
  | legacy legacy read => exact .legacy legacy (read.prepend ho)
  | feeMarket market present read =>
    exact .feeMarket market present (read.trans (List.suffix_append _ _).isInfix)

theorem QuoteCourse.asked {answer : Except Fault (Except NoQuote FeeQuote)} {events : List Event}
    (h : QuoteCourse answer events) {question : Question} {given : Except Fault Json}
    (hq : .asked question given ∈ events) :
    question = .latestBaseFee ∨ question = .recentFeeSamples := by
  cases h with
  | unread | noBaseFee =>
    cases List.mem_singleton.mp hq
    exact .inl rfl
  | unsampled | noSamples | averaged =>
    rcases List.mem_cons.mp hq with hq | hq
    · cases hq
      exact .inl rfl
    · cases List.mem_singleton.mp hq
      exact .inr rfl

theorem QuoteRun.asked {delay : Json} {allowed : Number} {retries : Nat}
    {result : Except Fault FeeQuote} {events : List Event}
    (h : QuoteRun delay allowed retries result events) {question : Question}
    {given : Except Fault Json} (hq : .asked question given ∈ events) :
    question = .latestBaseFee ∨ question = .recentFeeSamples := by
  induction h with
  | failed attempt | quoted attempt | exhausted attempt => exact attempt.asked hq
  | again attempt rest ih =>
    rcases List.mem_append.mp hq with hq | hq
    · exact attempt.asked hq
    · rcases List.mem_cons.mp hq with hq | hq
      · cases hq
      · exact ih hq

/-- A quote was averaged from the samples that were read last. -/
theorem QuoteRun.averaged {delay : Json} {allowed : Number} {retries : Nat} {quote : FeeQuote}
    {result : Except Fault FeeQuote} {events : List Event}
    (h : QuoteRun delay allowed retries result events) (hr : result = .ok quote) :
    ∃ samples, averageFees samples = .ok (quote.maxFee, quote.priorityFee) ∧
      samples.truthy = true ∧ quote.baseFee ≠ .null ∧
      [.asked .latestBaseFee (.ok quote.baseFee), .asked .recentFeeSamples (.ok samples)] <:+:
        events := by
  induction h with
  | failed attempt => exact absurd (recast_eq_ok.mp hr) (by simp)
  | exhausted attempt => cases hr
  | quoted attempt =>
    cases hr
    generalize hq : (Except.ok (.ok quote) : Except Fault (Except NoQuote FeeQuote)) = answer
      at attempt
    cases attempt with
    | averaged some present =>
      obtain ⟨fees, hfees, hquote⟩ := ok_of_map hq.symm
      cases hquote
      exact ⟨_, hfees, present, some, List.infix_rfl⟩
    | _ => cases hq
  | again attempt rest ih =>
    obtain ⟨samples, hs, ht, hb, hi⟩ := ih hr
    exact ⟨samples, hs, ht, hb, (hi.trans (List.suffix_cons _ _).isInfix).trans
      (List.suffix_append _ _).isInfix⟩

/-- From natural answers the offered fees are natural. -/
theorem QuoteRun.offers {delay : Json} {allowed : Number} {retries : Nat} {quote : FeeQuote}
    {events : List Event} (h : QuoteRun delay allowed retries (.ok quote) events)
    (hn : ∀ event ∈ events, event.Natural) {kind : TransactionKind} (hk : kind = .feeMarket) :
    ∃ offered, Offers kind events offered ∧
      Sweeper.offer quote = .ok (offered.fields, .int offered.perGas) := by
  obtain ⟨samples, haverage, hpresent, hsome, hquote⟩ := h.averaged rfl
  have hbase := hn _ (hquote.subset List.mem_cons_self)
  have hsamples := hn _ (hquote.subset (List.mem_cons_of_mem _ List.mem_cons_self))
  obtain ⟨baseFee, hb⟩ : ∃ baseFee : Nat, quote.baseFee = .int baseFee := hbase.resolve_left hsome
  obtain ⟨pairs, rfl⟩ : ∃ pairs, samples = samplesOf pairs := hsamples
  have hne := (truthy_samplesOf pairs).mp hpresent
  rw [averageFees_samplesOf hne] at haverage
  obtain ⟨base, maxFee, tip⟩ := quote
  cases hb
  cases haverage
  refine ⟨_, .feeMarket hk hne hquote, ?_⟩
  have hmax (a b : Nat) : max (a : Int) (baseFee + b) = (max a (baseFee + b) : Nat) := by omega
  rw [Sweeper.offer, FeeQuote.offeredMaxFee_int, hmax]
  rfl

theorem Sweeper.FeesCourse.offers {settings : SweepSettings} {fees : FeeFields} {fee : Json}
    {prices : List Event} (h : FeesCourse settings (.ok (fees, fee)) prices)
    (hn : ∀ event ∈ prices, event.Natural) :
    ∃ offered, Offers settings.kind prices offered ∧ fees = offered.fields ∧
      fee = .int offered.perGas := by
  generalize hr : (Except.ok (fees, fee) : Except Fault (FeeFields × Json)) = result at h
  cases h with
  | legacy kind answer =>
    obtain ⟨_, rfl, hfees⟩ := ok_of_map (recast_eq_ok.mp hr.symm)
    cases hfees
    obtain ⟨price, rfl⟩ : ∃ price : Nat, fee = .int price := hn _ List.mem_cons_self
    exact ⟨_, .legacy kind (.single _ _), rfl, rfl⟩
  | unset => cases hr
  | quoted kind run =>
    obtain ⟨quote, rfl, hoffer⟩ := ok_of_bind hr.symm
    obtain ⟨offered, ho, hq⟩ := run.offers hn kind
    rw [hq] at hoffer
    cases hoffer
    exact ⟨offered, ho, rfl, rfl⟩

theorem Sweeper.FeesCourse.asked {settings : SweepSettings}
    {result : Except Fault (FeeFields × Json)} {prices : List Event}
    (h : FeesCourse settings result prices) {question : Question} {given : Except Fault Json}
    (hq : .asked question given ∈ prices) :
    question = .gasPrice ∨ question = .latestBaseFee ∨ question = .recentFeeSamples := by
  cases h with
  | legacy =>
    cases List.mem_singleton.mp hq
    exact .inl rfl
  | unset => cases hq
  | quoted kind run => exact .inr (run.asked hq)

/-! ## Gas -/

/-- The gas that a sweep allows for: the positive limit of the settings, or the estimate. -/
inductive Measures (settings : SweepSettings) (query : Json) (events : List Event) (gas : Nat) :
    Prop
  | fixed (pos : 0 < gas) (set : settings.gasLimit = .int gas)
  | estimated (unset : settings.gasLimit = .null)
      (read : OnlyAnswer (.estimateGas query) events (.int gas))

/-- The limit of gas is left open or a positive integer. -/
def SweepSettings.Limited (settings : SweepSettings) : Prop :=
  settings.gasLimit = .null ∨ ∃ limit : Nat, 0 < limit ∧ settings.gasLimit = .int limit

theorem truthy_int {limit : Nat} : (Json.int limit).truthy = true ↔ 0 < limit := by
  have h : (Json.int limit).truthy = !(Number.int limit).same (.int 0) := rfl
  rw [h, Number.same_int, Bool.not_eq_true', decide_eq_false_iff_not]
  omega

theorem Sweeper.GasCourse.measures {settings : SweepSettings} {query gas : Json}
    {limits : List Event} (h : GasCourse settings query (.ok gas) limits) (hl : settings.Limited)
    (hn : ∀ event ∈ limits, event.Natural) :
    ∃ cost : Nat, gas = .int cost ∧ Measures settings query limits cost := by
  generalize hr : (Except.ok gas : Except Fault Json) = result at h
  cases h with
  | fixed set =>
    rcases hl with hnull | ⟨limit, hpos, hlimit⟩
    · rw [hnull] at set
      cases set
    · rw [hlimit] at hr
      cases hr
      exact ⟨limit, rfl, .fixed hpos hlimit⟩
  | estimated unset answer =>
    have ha := recast_eq_ok.mp hr.symm
    subst ha
    obtain ⟨cost, rfl⟩ : ∃ cost : Nat, gas = .int cost := hn _ List.mem_cons_self
    refine ⟨cost, rfl, .estimated ?_ (.single _ _)⟩
    refine hl.resolve_right ?_
    rintro ⟨limit, hpos, hlimit⟩
    rw [hlimit] at unset
    exact unset (truthy_int.mpr hpos)

theorem Sweeper.GasCourse.asked {settings : SweepSettings} {query : Json}
    {result : Except Fault Json} {limits : List Event} (h : GasCourse settings query result limits)
    {question : Question} {given : Except Fault Json} (hq : .asked question given ∈ limits) :
    question = .estimateGas query := by
  cases h with
  | fixed => cases hq
  | estimated =>
    cases List.mem_singleton.mp hq
    rfl

/-! ## All the numbers -/

/-- The numbers that a sweep goes by. -/
structure Quantities where
  chainId : Nat
  nonce : Nat
  balance : Nat
  gas : Nat
  fees : OfferedFees

namespace Quantities

/-- The most that the gas of the sweep costs. -/
def reserve (q : Quantities) : Nat := q.gas * q.fees.perGas

/-- What is drafted from the numbers. -/
def draft (q : Quantities) (recipient : String) : Draft where
  recipient := recipient
  value := (q.balance - q.reserve : Nat)
  gas := .int q.gas
  nonce := .int q.nonce
  chainId := .int q.chainId
  fees := q.fees.fields

/-- The balance has no more digits than can be written. -/
def Written (q : Quantities) : Prop := (Number.int q.balance).isWritable = true

/-- What is moved of such a balance can be reported. -/
theorem Written.reported {q : Quantities} (h : q.Written) (recipient : String) :
    (q.draft recipient).Reported :=
  Number.isWritable_of_le (Nat.sub_le _ _) h

end Quantities

namespace Sweeper

/-- The numbers of a sweep are those that it read: each question but those for fees had one answer
only. Gas is estimated for the draft without value that has the same recipient, nonce, chain id and
fees. -/
structure Readings (sweeper : Sweeper ω) (sender : String) (events : List Event) (q : Quantities) :
    Prop where
  chainId : OnlyAnswer .chainId events (.int q.chainId)
  nonce : OnlyAnswer (.transactionCount sender) events (.int q.nonce)
  balance : OnlyAnswer (.nativeBalance sender) events (.int q.balance)
  fees : Offers sweeper.settings.kind events q.fees
  gas : Measures sweeper.settings
    (sweeper.gasQuery sender (.int q.nonce) (.int q.chainId) q.fees.fields) events q.gas

/-- What is asked after the readings does not count among them. -/
theorem Readings.append {sweeper : Sweeper ω} {sender : String} {events others : List Event}
    {q : Quantities} (h : sweeper.Readings sender events q)
    (ho : ∀ question : Question, question.IsReading → ∀ given, .asked question given ∉ others) :
    sweeper.Readings sender (events ++ others) q where
  chainId := h.chainId.append (ho _ trivial)
  nonce := h.nonce.append (ho _ trivial)
  balance := h.balance.append (ho _ trivial)
  fees := h.fees.append (ho _ trivial)
  gas := by
    cases h.gas with
    | fixed pos set => exact .fixed pos set
    | estimated unset read => exact .estimated unset (read.append (ho _ trivial))

theorem Transmission.natural {sweeper : Sweeper ω} {draft : Draft} {scalar : Nat}
    {result : Except Fault (String × Json)} {others : List Event}
    (h : Transmission sweeper draft scalar result others) :
    ∀ event ∈ others, event.Natural := by
  cases h <;> simp [Event.Natural]

/-- Where every reading came, it came as a number. -/
theorem readings_of_course {sweeper : Sweeper ω} {address : String}
    {chainId balance nonce fee gas : Json} {fees : FeeFields} {sender prices limits : List Event}
    (read : SenderCourse address (.ok (balance, nonce)) sender)
    (priced : FeesCourse sweeper.settings (.ok (fees, fee)) prices)
    (measured : GasCourse sweeper.settings (sweeper.gasQuery address nonce chainId fees) (.ok gas)
      limits) (hl : sweeper.settings.Limited)
    (hn : ∀ event ∈ .asked .chainId (.ok chainId) :: sender ++ prices ++ limits, event.Natural) :
    ∃ q, sweeper.Readings address (.asked .chainId (.ok chainId) :: sender ++ prices ++ limits) q ∧
      chainId = .int q.chainId ∧ balance = .int q.balance ∧ nonce = .int q.nonce ∧
      fees = q.fees.fields ∧ fee = .int q.fees.perGas ∧ gas = .int q.gas := by
  obtain ⟨offered, hoffers, rfl, rfl⟩ := priced.offers fun event h => hn event (by simp [h])
  obtain ⟨cost, rfl, hmeasures⟩ := measured.measures hl fun event h => hn event (by simp [h])
  obtain ⟨chain, rfl⟩ : ∃ chain : Nat, chainId = .int chain := hn _ List.mem_cons_self
  generalize hr : (Except.ok (balance, nonce) : Except Fault (Json × Json)) = result at read
  cases read with
  | unread => cases hr
  | read held answer =>
    obtain ⟨count, rfl, hpair⟩ := ok_of_map hr.symm
    cases hpair
    have hbalance := hn (.asked (.nativeBalance address) (.ok balance)) (by simp)
    have hnonce := hn (.asked (.transactionCount address) (.ok nonce)) (by simp)
    obtain ⟨held, rfl⟩ := hbalance
    obtain ⟨count, rfl⟩ := hnonce
    have hprices (question : Question)
        (h : question = .chainId ∨ question = .nativeBalance address ∨
          question = .transactionCount address ∨ ∃ query, question = .estimateGas query) (given) :
        .asked question given ∉ prices := by
      intro hq
      rcases priced.asked hq with rfl | rfl | rfl <;> simp at h
    have hlimits (question : Question) (h : ∀ query, question ≠ .estimateGas query) (given) :
        .asked question given ∉ limits := fun hq => h _ (measured.asked hq)
    refine ⟨⟨chain, count, held, cost, offered⟩, ⟨?_, ?_, ?_, ?_, ?_⟩, rfl, rfl, rfl, rfl, rfl, rfl⟩
    · refine (OnlyAnswer.append ?_ (hprices _ (by simp))).append (hlimits _ (by simp))
      exact fun given => by simp
    · refine (OnlyAnswer.append ?_ (hprices _ (by simp))).append (hlimits _ (by simp))
      exact fun given => by simp
    · refine (OnlyAnswer.append ?_ (hprices _ (by simp))).append (hlimits _ (by simp))
      exact fun given => by simp
    · refine (hoffers.prepend ?_).append (hlimits _ (by simp))
      simp
    · cases hmeasures with
      | fixed pos set => exact .fixed pos set
      | estimated unset read =>
        refine .estimated unset (read.prepend ?_)
        intro given hq
        rcases List.mem_append.mp hq with hq | hq
        · simp at hq
        · exact hprices _ (by simp) given hq

/-- What a draft made of the numbers fails with where nothing would be left and the balance can be
written. -/
def nothingLeft (address : String) (q : Quantities) : Fault :=
  .transfer (.nothingToSweep ("Balance " ++ (Json.int q.balance).display ++ " of " ++ address
    ++ " does not cover gas reserve"))

theorem nothingToSweep_of_written {q : Quantities} (h : q.Written) (address : String) :
    nothingToSweep address (.int q.balance) = nothingLeft address q := if_pos h

theorem drafted_quantities (sweeper : Sweeper ω) (address : String) (q : Quantities) :
    sweeper.drafted address (.int q.chainId) (.int q.balance) (.int q.nonce) q.fees.fields
      (.int q.fees.perGas) (.int q.gas) =
    if q.reserve < q.balance then .ok (q.draft sweeper.settings.treasury)
    else .error (nothingToSweep address (.int q.balance)) := by
  have hvalue : valueOf (.int q.balance) (.int q.gas) (.int q.fees.perGas) =
      .ok ((q.balance - q.reserve : Nat) : Int) := by
    show Except.ok (sweepValue q.balance q.gas q.fees.perGas) = _
    have hmul : (q.gas : Int) * q.fees.perGas = (q.reserve : Nat) := by simp [Quantities.reserve]
    rw [sweepValue, hmul]
    congr 1
    omega
  unfold drafted
  rw [hvalue]
  show (if ((q.balance - q.reserve : Nat) : Int) = 0 then _ else _) = _
  by_cases h : q.reserve < q.balance
  · rw [if_pos h, if_neg (by omega)]
    rfl
  · rw [if_neg h, if_pos (by omega)]

/-- Every draft is made of the numbers that were read, which leave something to move. -/
theorem DraftCourse.draft_eq {sweeper : Sweeper ω} {address : String} {draft : Draft}
    {events : List Event} (h : DraftCourse sweeper address (.ok draft) events)
    (hl : sweeper.settings.Limited) (hn : ∀ event ∈ events, event.Natural) :
    ∃ q, sweeper.Readings address events q ∧ q.reserve < q.balance ∧
      draft = q.draft sweeper.settings.treasury := by
  generalize hr : (Except.ok draft : Except Fault Draft) = result at h
  cases h with
  | unknownChain => exact absurd (recast_eq_ok.mp hr.symm) (by simp)
  | unreadSender => exact absurd (recast_eq_ok.mp hr.symm) (by simp)
  | unpriced | unmeasured => cases hr
  | reckoned read priced measured =>
    obtain ⟨q, hq, rfl, rfl, rfl, rfl, rfl, rfl⟩ := readings_of_course read priced measured hl hn
    rw [drafted_quantities] at hr
    by_cases hlt : q.reserve < q.balance
    · rw [if_pos hlt] at hr
      cases hr
      exact ⟨q, hq, hlt, rfl⟩
    · rw [if_neg hlt] at hr
      cases hr

end Sweeper

/-! ## Complete readings -/

/-- No reading was refused. -/
def Unrefused (events : List Event) : Prop :=
  ∀ question : Question, question.IsReading → ∀ fault, .asked question (.error fault) ∉ events

theorem Unrefused.mono {events others : List Event} (h : Unrefused events) (hs : others ⊆ events) :
    Unrefused others := fun question hq fault hmem => h question hq fault (hs hmem)

/-- Samples that are not empty were read. -/
def Sampled (events : List Event) : Prop :=
  ∃ samples, .asked .recentFeeSamples (.ok samples) ∈ events ∧ samples.truthy = true

theorem QuoteCourse.answered {answer : Except Fault (Except NoQuote FeeQuote)}
    {events : List Event} (h : QuoteCourse answer events) (hn : ∀ event ∈ events, event.Natural)
    (hr : Unrefused events) : ∃ found, answer = .ok found := by
  cases h with
  | unread fault => exact absurd (by simp) (hr .latestBaseFee trivial fault)
  | unsampled _ fault => exact absurd (by simp) (hr .recentFeeSamples trivial fault)
  | noBaseFee | noSamples => exact ⟨_, rfl⟩
  | @averaged _ samples _ present =>
    have hs := hn (.asked .recentFeeSamples (.ok samples)) (by simp)
    obtain ⟨pairs, rfl⟩ := hs
    rw [averageFees_samplesOf ((truthy_samplesOf pairs).mp present)]
    exact ⟨_, rfl⟩

theorem QuoteCourse.quoted {found : Except NoQuote FeeQuote} {events : List Event}
    (h : QuoteCourse (.ok found) events) (hs : Sampled events) : ∃ quote, found = .ok quote := by
  obtain ⟨samples, hmem, htruthy⟩ := hs
  generalize hr : (Except.ok found : Except Fault (Except NoQuote FeeQuote)) = answer at h
  cases h with
  | noBaseFee => simp at hmem
  | noSamples _ none =>
    simp only [List.mem_cons, List.not_mem_nil, or_false] at hmem
    rcases hmem with hmem | hmem
    · cases hmem
    · cases hmem
      exact absurd htruthy none
  | averaged =>
    obtain ⟨fees, -, rfl⟩ := ok_of_map hr.symm
    exact ⟨_, rfl⟩
  | _ => cases hr

theorem QuoteRun.answered {delay : Json} {allowed : Number} {retries : Nat}
    {result : Except Fault FeeQuote} {events : List Event}
    (h : QuoteRun delay allowed retries result events) (hn : ∀ event ∈ events, event.Natural)
    (hr : Unrefused events) (hs : Sampled events) : ∃ quote, result = .ok quote := by
  induction h with
  | failed attempt =>
    obtain ⟨found, hf⟩ := attempt.answered hn hr
    cases hf
  | quoted => exact ⟨_, rfl⟩
  | exhausted attempt =>
    obtain ⟨quote, hq⟩ := attempt.quoted hs
    cases hq
  | @again _ _ _ events others attempt rest ih =>
    have hrest : others ⊆ events ++ .paused delay :: others := by simp
    refine ih (fun event h => hn event (hrest h)) (hr.mono hrest) ?_
    obtain ⟨samples, hmem, htruthy⟩ := hs
    rcases List.mem_append.mp hmem with hmem | hmem
    · obtain ⟨quote, hq⟩ := attempt.quoted ⟨samples, hmem, htruthy⟩
      cases hq
    · rcases List.mem_cons.mp hmem with hmem | hmem
      · cases hmem
      · exact ⟨samples, hmem, htruthy⟩

theorem SenderCourse.answered {address : String} {result : Except Fault (Json × Json)}
    {events : List Event} (h : SenderCourse address result events) (hr : Unrefused events) :
    ∃ found, result = .ok found := by
  cases h with
  | unread fault => exact absurd (by simp) (hr (.nativeBalance address) trivial fault)
  | read balance answer =>
    cases answer with
    | error fault => exact absurd (by simp) (hr (.transactionCount address) trivial fault)
    | ok nonce => exact ⟨_, rfl⟩

theorem SenderCourse.not_sampled {address : String} {result : Except Fault (Json × Json)}
    {events : List Event} (h : SenderCourse address result events) (given : Except Fault Json) :
    .asked .recentFeeSamples given ∉ events := by
  cases h <;> simp

namespace Sweeper

theorem FeesCourse.answered {settings : SweepSettings} {result : Except Fault (FeeFields × Json)}
    {events : List Event} (h : FeesCourse settings result events)
    (hn : ∀ event ∈ events, event.Natural) (hr : Unrefused events)
    (hs : settings.kind = .feeMarket → Sampled events) : ∃ found, result = .ok found := by
  cases h with
  | legacy kind answer =>
    cases answer with
    | error fault => exact absurd (by simp) (hr .gasPrice trivial fault)
    | ok gasPrice => exact ⟨_, rfl⟩
  | unset kind =>
    obtain ⟨samples, hmem, -⟩ := hs kind
    cases hmem
  | quoted kind run =>
    obtain ⟨quote, rfl⟩ := run.answered hn hr (hs kind)
    obtain ⟨offered, -, hoffer⟩ := run.offers hn kind
    exact ⟨_, hoffer⟩

theorem GasCourse.answered {settings : SweepSettings} {query : Json} {result : Except Fault Json}
    {events : List Event} (h : GasCourse settings query result events) (hl : settings.Limited)
    (hr : Unrefused events) : ∃ found, result = .ok found := by
  cases h with
  | fixed set =>
    rcases hl with hnull | ⟨limit, -, hlimit⟩
    · rw [hnull] at set
      cases set
    · rw [hlimit]
      exact ⟨_, rfl⟩
  | estimated unset answer =>
    cases answer with
    | error fault => exact absurd (by simp) (hr (.estimateGas query) trivial fault)
    | ok gas => exact ⟨_, rfl⟩

/-- A draft whose readings all came fails only where nothing would be left. -/
theorem DraftCourse.nothing_left {sweeper : Sweeper ω} {address : String} {fault : Fault}
    {events : List Event} (h : DraftCourse sweeper address (.error fault) events)
    (hl : sweeper.settings.Limited) (hn : ∀ event ∈ events, event.Natural) (hr : Unrefused events)
    (hs : sweeper.settings.kind = .feeMarket → Sampled events) :
    ∃ q, sweeper.Readings address events q ∧ q.balance ≤ q.reserve ∧
      fault = nothingToSweep address (.int q.balance) := by
  generalize hf : (Except.error fault : Except Fault Draft) = result at h
  cases h with
  | unknownChain fault => exact absurd (by simp) (hr .chainId trivial fault)
  | unreadSender unread =>
    obtain ⟨found, h⟩ := unread.answered (hr.mono (List.subset_cons_self _ _))
    cases h
  | @unpriced chainId _ _ _ sender prices read unpriced =>
    have hsub : prices ⊆ .asked .chainId (.ok chainId) :: sender ++ prices :=
      List.subset_append_right _ _
    have hsampled (hk : sweeper.settings.kind = .feeMarket) : Sampled prices := by
      obtain ⟨samples, hmem, htruthy⟩ := hs hk
      rcases List.mem_append.mp hmem with hmem | hmem
      · rcases List.mem_cons.mp hmem with hmem | hmem
        · cases hmem
        · exact absurd hmem (read.not_sampled _)
      · exact ⟨samples, hmem, htruthy⟩
    obtain ⟨found, h⟩ :=
      unpriced.answered (fun event h => hn event (hsub h)) (hr.mono hsub) hsampled
    cases h
  | unmeasured read priced unmeasured =>
    obtain ⟨found, h⟩ := unmeasured.answered hl (hr.mono (List.subset_append_right _ _))
    cases h
  | reckoned read priced measured =>
    obtain ⟨q, hq, rfl, rfl, rfl, rfl, rfl, rfl⟩ := readings_of_course read priced measured hl hn
    rw [drafted_quantities] at hf
    by_cases hlt : q.reserve < q.balance
    · rw [if_pos hlt] at hf
      cases hf
    · rw [if_neg hlt] at hf
      cases hf
      exact ⟨q, hq, Nat.le_of_not_lt hlt, rfl⟩

end Sweeper

end DepositGateway
