import DepositGateway.Proofs.History.Traced
import DepositGateway.Sweep.Engine

/-!
# The course of a sweep

`Sweeper.sweep` said once and for all: which questions it asks the ledger, in which order, what it
hands in, and with which result.

* `Sweeper.traced`: the sweeper that notes its calls.
* `QuoteCourse`, `QuoteRun`, `FeesCourse`: how fees are found out.
* `DraftCourse`: how a draft is made, or at which reading it fails.
* `Transmission`, `SweepCourse`: how a sweep goes on from there.
* `Sweeper.calls`: the calls of a sweep. `Sweeper.calls_course`: every sweep goes one of these ways.
-/

namespace DepositGateway

variable {ω α : Type}

/-- A fault of the ledger as a fault of the sweep; everything else stays what it is. -/
def recast (into : LedgerFault → TransferFault) : Except Fault α → Except Fault α
  | .error (.ledger fault) => .error (.transfer (into fault))
  | answer => answer

@[simp] theorem recast_ok (into : LedgerFault → TransferFault) (value : α) :
    recast into (.ok value) = .ok value := rfl

theorem recast_eq_ok {into : LedgerFault → TransferFault} {answer : Except Fault α} {value : α} :
    recast into answer = .ok value ↔ answer = .ok value := by
  unfold recast
  split <;> simp

theorem recast_error_bind {β : Type} (into : LedgerFault → TransferFault) (fault : Fault)
    (f : α → Except Fault β) :
    (recast into (.error fault) >>= f) = recast into (.error fault) := by
  cases fault <;> rfl

/-! ## Fees -/

/-- One attempt to find out the fees of the market: base fee first, samples only if there is one. -/
inductive QuoteCourse : Except Fault (Except NoQuote FeeQuote) → List Event → Prop
  | unread (fault : Fault) : QuoteCourse (.error fault) [.asked .latestBaseFee (.error fault)]
  | noBaseFee : QuoteCourse (.ok (.error .noBaseFee)) [.asked .latestBaseFee (.ok .null)]
  | unsampled {baseFee : Json} (some : baseFee ≠ .null) (fault : Fault) :
      QuoteCourse (.error fault)
        [.asked .latestBaseFee (.ok baseFee), .asked .recentFeeSamples (.error fault)]
  | noSamples {baseFee samples : Json} (some : baseFee ≠ .null) (none : samples.truthy ≠ true) :
      QuoteCourse (.ok (.error .noSamples))
        [.asked .latestBaseFee (.ok baseFee), .asked .recentFeeSamples (.ok samples)]
  | averaged {baseFee samples : Json} (some : baseFee ≠ .null) (present : samples.truthy = true) :
      QuoteCourse ((averageFees samples).map fun fees => .ok ⟨baseFee, fees.1, fees.2⟩)
        [.asked .latestBaseFee (.ok baseFee), .asked .recentFeeSamples (.ok samples)]

/-- What a ledger fault makes of an attempt. -/
def unreadableFees (fault : LedgerFault) : TransferFault :=
  .feeEstimationExhausted ("Could not read fee data: " ++ fault.text)

/-- Attempts with up to so many retries, a pause between two. -/
inductive QuoteRun (delay : Json) (allowed : Number) :
    Nat → Except Fault FeeQuote → List Event → Prop
  | failed {retries : Nat} {fault : Fault} {events : List Event}
      (attempt : QuoteCourse (.error fault) events) :
      QuoteRun delay allowed retries (recast unreadableFees (.error fault)) events
  | quoted {retries : Nat} {quote : FeeQuote} {events : List Event}
      (attempt : QuoteCourse (.ok (.ok quote)) events) :
      QuoteRun delay allowed retries (.ok quote) events
  | exhausted {reason : NoQuote} {events : List Event}
      (attempt : QuoteCourse (.ok (.error reason)) events) :
      QuoteRun delay allowed 0 (.error (.transfer (.feeEstimationExhausted
        (reason.text ++ " (gave up after " ++ allowed.text ++ " attempts)")))) events
  | again {retries : Nat} {reason : NoQuote} {result : Except Fault FeeQuote}
      {events others : List Event} (attempt : QuoteCourse (.ok (.error reason)) events)
      (rest : QuoteRun delay allowed retries result others) :
      QuoteRun delay allowed (retries + 1) result (events ++ .paused delay :: others)

/-! ## Sender -/

/-- How balance and nonce are read, in this order. -/
inductive SenderCourse (address : String) : Except Fault (Json × Json) → List Event → Prop
  | unread (fault : Fault) :
      SenderCourse address (.error fault) [.asked (.nativeBalance address) (.error fault)]
  | read (balance : Json) (answer : Except Fault Json) :
      SenderCourse address (answer.map fun nonce => (balance, nonce))
        [.asked (.nativeBalance address) (.ok balance), .asked (.transactionCount address) answer]

/-- What a ledger fault makes of reading the deposit address. -/
def unreadableSender (fault : LedgerFault) : TransferFault :=
  .buildFailed ("Could not read sender state: " ++ fault.text)

/-! ## Drafts -/

/-- A draft can be reported if its value can be written. -/
def Draft.Reported (draft : Draft) : Prop := (Number.int draft.value).isWritable = true

namespace Sweeper

/-- What a ledger fault makes of reading the chain id. -/
def unknownChain (fault : LedgerFault) : TransferFault := .chainIdUnavailable fault.text

/-- What a ledger fault makes of reading the gas price. -/
def unpriced (fault : LedgerFault) : TransferFault :=
  .feeEstimationExhausted ("Could not get gas price: " ++ fault.text)

/-- What a ledger fault makes of estimating gas. -/
def unestimated (fault : LedgerFault) : TransferFault :=
  .feeEstimationExhausted ("Gas estimation failed: " ++ fault.text)

/-- The fees that a quote offers, and what is reckoned for a unit of gas. -/
def offer (quote : FeeQuote) : Except Fault (FeeFields × Json) :=
  quote.offeredMaxFee.map fun maxFee => (.feeMarket maxFee quote.priorityFee, .num maxFee)

/-- How the fees of a sweep are found out. -/
inductive FeesCourse (settings : SweepSettings) :
    Except Fault (FeeFields × Json) → List Event → Prop
  | legacy (kind : settings.kind = .legacy) (answer : Except Fault Json) :
      FeesCourse settings
        (recast unpriced (answer.map fun gasPrice => (.legacy gasPrice, gasPrice)))
        [.asked .gasPrice answer]
  /-- The settings do not say how often to try. -/
  | unset {fault : Fault} (kind : settings.kind = .feeMarket)
      (unset : allowedAttempts settings.feeRetries = .error fault ∨
        settings.feeRetryDelay.toDouble = .error fault) : FeesCourse settings (.error fault) []
  | quoted {allowed : Number} {delay : Binary64} {answer : Except Fault FeeQuote}
      {events : List Event} (kind : settings.kind = .feeMarket)
      (run : QuoteRun (.num (.double delay)) allowed (retriesWithin allowed) answer events) :
      FeesCourse settings (answer >>= offer) events

/-- How the gas limit is found out. -/
inductive GasCourse (settings : SweepSettings) (query : Json) :
    Except Fault Json → List Event → Prop
  | fixed (set : settings.gasLimit.truthy = true) :
      GasCourse settings query (settings.gasLimit.toInteger.map .int) []
  | estimated (unset : settings.gasLimit.truthy ≠ true) (answer : Except Fault Json) :
      GasCourse settings query (recast unestimated answer) [.asked (.estimateGas query) answer]

/-- What is drafted from the readings. -/
def drafted (sweeper : Sweeper ω) (address : String) (chainId balance nonce : Json)
    (fees : FeeFields) (fee gas : Json) : Except Fault Draft := do
  let value ← valueOf balance gas fee
  if value = 0 then .error (nothingToSweep address balance)
  else .ok { recipient := sweeper.settings.treasury, value, gas, nonce, chainId, fees }

/-- How a draft is made: chain id, sender, fees and gas are read in this order, and the first
reading that fails is the last. -/
inductive DraftCourse (sweeper : Sweeper ω) (address : String) :
    Except Fault Draft → List Event → Prop
  | unknownChain (fault : Fault) : DraftCourse sweeper address
      (recast unknownChain (.error fault)) [.asked .chainId (.error fault)]
  | unreadSender {chainId : Json} {fault : Fault} {sender : List Event}
      (unread : SenderCourse address (.error fault) sender) :
      DraftCourse sweeper address (recast unreadableSender (.error fault))
        (.asked .chainId (.ok chainId) :: sender)
  | unpriced {chainId balance nonce : Json} {fault : Fault} {sender prices : List Event}
      (read : SenderCourse address (.ok (balance, nonce)) sender)
      (unpriced : FeesCourse sweeper.settings (.error fault) prices) :
      DraftCourse sweeper address (.error fault) (.asked .chainId (.ok chainId) :: sender ++ prices)
  | unmeasured {chainId balance nonce fee : Json} {fees : FeeFields} {fault : Fault}
      {sender prices limits : List Event}
      (read : SenderCourse address (.ok (balance, nonce)) sender)
      (priced : FeesCourse sweeper.settings (.ok (fees, fee)) prices)
      (unmeasured : GasCourse sweeper.settings (sweeper.gasQuery address nonce chainId fees)
        (.error fault) limits) :
      DraftCourse sweeper address (.error fault)
        (.asked .chainId (.ok chainId) :: sender ++ prices ++ limits)
  | reckoned {chainId balance nonce fee gas : Json} {fees : FeeFields}
      {sender prices limits : List Event}
      (read : SenderCourse address (.ok (balance, nonce)) sender)
      (priced : FeesCourse sweeper.settings (.ok (fees, fee)) prices)
      (measured : GasCourse sweeper.settings (sweeper.gasQuery address nonce chainId fees)
        (.ok gas) limits) :
      DraftCourse sweeper address (sweeper.drafted address chainId balance nonce fees fee gas)
        (.asked .chainId (.ok chainId) :: sender ++ prices ++ limits)

end Sweeper

/-! ## The traced sweeper -/

namespace Sweeper

/-- The sweeper that notes its calls. -/
def traced (sweeper : Sweeper ω) : Sweeper (Traced ω) where
  ledger := sweeper.ledger.traced
  journal := Traced.journal sweeper.journal
  sleep seconds := Traced.change (.paused seconds) (sweeper.sleep seconds)
  settings := sweeper.settings

/-- What goes on after an attempt recasts the faults of the ledger and passes on every other
answer. -/
structure Recasts (into : LedgerFault → TransferFault) (next : Except Fault α → Action ω α)
    (next' : Except Fault α → Action (Traced ω) α) : Prop where
  ledger : ∀ fault w, ∃ w', Shows (next (.error (.ledger fault))) (next' (.error (.ledger fault))) w
    (.error (.transfer (into fault))) [] w'
  ok : ∀ value w, Shows (next (.ok value)) (next' (.ok value)) w (.ok value) [] w := by
    exact fun _ _ => Shows.pure _ _
  gateway : ∀ text w, Shows (next (.error (.gateway text))) (next' (.error (.gateway text))) w
    (.error (.gateway text)) [] w := by exact fun _ _ => Shows.fail _ _
  store : ∀ fault w, Shows (next (.error (.store fault))) (next' (.error (.store fault))) w
    (.error (.store fault)) [] w := by exact fun _ _ => Shows.fail _ _
  transfer : ∀ fault w, Shows (next (.error (.transfer fault))) (next' (.error (.transfer fault))) w
    (.error (.transfer fault)) [] w := by exact fun _ _ => Shows.fail _ _
  other : ∀ failure w, Shows (next (.error (.other failure))) (next' (.error (.other failure))) w
    (.error (.other failure)) [] w := by exact fun _ _ => Shows.fail _ _

theorem Recasts.shows {into : LedgerFault → TransferFault} {next : Except Fault α → Action ω α}
    {next' : Except Fault α → Action (Traced ω) α} (hn : Recasts into next next')
    {a : Action ω α} {a' : Action (Traced ω) α} {w w₁ : ω} {answer : Except Fault α}
    {events : List Event} (h : Shows a a' w answer events w₁) :
    ∃ w', Shows (Action.attempt a >>= next) (Action.attempt a' >>= next') w (recast into answer)
      events w' := by
  rcases answer with (text | fault | fault | fault | failure) | value
  · exact ⟨_, h.attempt.bind_quiet (hn.gateway text w₁)⟩
  · exact ⟨_, h.attempt.bind_quiet (hn.store fault w₁)⟩
  · obtain ⟨w', hs⟩ := hn.ledger fault w₁
    exact ⟨w', h.attempt.bind_quiet hs⟩
  · exact ⟨_, h.attempt.bind_quiet (hn.transfer fault w₁)⟩
  · exact ⟨_, h.attempt.bind_quiet (hn.other failure w₁)⟩
  · exact ⟨_, h.attempt.bind_quiet (hn.ok value w₁)⟩

/-- What follows a recast fault is not begun. -/
theorem bind_recast {β : Type} {into : LedgerFault → TransferFault} {a : Action ω α}
    {a' : Action (Traced ω) α} {f : α → Action ω β} {f' : α → Action (Traced ω) β} {fault : Fault}
    {w w₁ : ω} {events : List Event} (h : Shows a a' w (recast into (.error fault)) events w₁) :
    Shows (a >>= f) (a' >>= f') w (recast into (.error fault)) events w₁ := by
  cases fault <;> exact h.bind_error

theorem readChainId_shows (sweeper : Sweeper ω) (w : ω) :
    ∃ answer w', Shows sweeper.readChainId sweeper.traced.readChainId w
      (recast unknownChain answer) [.asked .chainId answer] w' := by
  refine ⟨_, Recasts.shows ?_ (Shows.recorded (.asked .chainId) sweeper.ledger.chainId w)⟩
  exact { ledger := fun _ _ => ⟨_, (Shows.report _ _ _ _ _).bind_quiet (Shows.fail _ _)⟩ }

theorem readGasPrice_shows (sweeper : Sweeper ω) (w : ω) :
    ∃ answer w', Shows sweeper.readGasPrice sweeper.traced.readGasPrice w
      (recast unpriced answer) [.asked .gasPrice answer] w' := by
  refine ⟨_, Recasts.shows ?_ (Shows.recorded (.asked .gasPrice) sweeper.ledger.gasPrice w)⟩
  exact { ledger := fun _ _ => ⟨_, (Shows.report _ _ _ _ _).bind_quiet (Shows.fail _ _)⟩ }

theorem submit_shows (sweeper : Sweeper ω) (raw : Bytes) (w : ω) :
    ∃ answer w', Shows (sweeper.submit raw) (sweeper.traced.submit raw) w
      (recast (fun fault => .submissionFailed fault.text) answer) [.submitted raw answer] w' := by
  refine ⟨_, Recasts.shows ?_ (Shows.recorded (.submitted raw) (sweeper.ledger.submitRaw raw) w)⟩
  exact { ledger := fun _ _ => ⟨_, (Shows.report _ _ _ _ _).bind_quiet (Shows.fail _ _)⟩ }

theorem confirm_shows (sweeper : Sweeper ω) (hash : String) (w : ω) :
    ∃ answer w', Shows (sweeper.confirm hash) (sweeper.traced.confirm hash) w
      (recast (fun fault => .confirmationTimeout (hash ++ ": " ++ fault.text)) answer)
      [.asked (.awaitConfirmation hash sweeper.settings.patience) answer] w' := by
  refine ⟨_, Recasts.shows ?_ (Shows.recorded
    (.asked (.awaitConfirmation hash sweeper.settings.patience))
    (sweeper.ledger.awaitConfirmation hash sweeper.settings.patience) w)⟩
  exact { ledger := fun _ _ => ⟨_, (Shows.report _ _ _ _ _).bind_quiet (Shows.fail _ _)⟩ }

theorem readSender_shows (sweeper : Sweeper ω) (address : String) (w : ω) :
    ∃ answer events w', Shows (sweeper.readSender address) (sweeper.traced.readSender address) w
      (recast unreadableSender answer) events w' ∧ SenderCourse address answer events := by
  have hreadings : ∃ answer events w₁, Shows
      (do
        let balance ← sweeper.ledger.nativeBalance address
        let nonce ← sweeper.ledger.transactionCount address
        return (balance, nonce))
      (do
        let balance ← sweeper.traced.ledger.nativeBalance address
        let nonce ← sweeper.traced.ledger.transactionCount address
        return (balance, nonce)) w answer events w₁ ∧ SenderCourse address answer events := by
    have hbalance := Shows.recorded (.asked (.nativeBalance address))
      (sweeper.ledger.nativeBalance address) w
    rcases h : (sweeper.ledger.nativeBalance address).apply w with ⟨fault | balance, w₁⟩
    · rw [h] at hbalance
      exact ⟨_, _, _, hbalance.bind_error, .unread fault⟩
    · rw [h] at hbalance
      have hnonce := Shows.recorded (.asked (.transactionCount address))
        (sweeper.ledger.transactionCount address) w₁
      rcases h' : (sweeper.ledger.transactionCount address).apply w₁ with ⟨fault | nonce, w₂⟩
      · rw [h'] at hnonce
        exact ⟨_, _, _, hbalance.bind hnonce.bind_error, .read balance (.error fault)⟩
      · rw [h'] at hnonce
        exact ⟨_, _, _, hbalance.bind (hnonce.bind_quiet (Shows.pure _ _)),
          .read balance (.ok nonce)⟩
  obtain ⟨answer, events, w₁, hs, hc⟩ := hreadings
  have hrecast : ∃ w', Shows (sweeper.readSender address) (sweeper.traced.readSender address) w
      (recast unreadableSender answer) events w' :=
    Recasts.shows { ledger := fun _ _ => ⟨_, Shows.fail _ _⟩ } hs
  obtain ⟨w', h⟩ := hrecast
  exact ⟨answer, events, w', h, hc⟩

theorem quoteFees_shows (sweeper : Sweeper ω) (w : ω) :
    ∃ answer events w', Shows (quoteFees sweeper.ledger) (quoteFees sweeper.traced.ledger) w
      answer events w' ∧ QuoteCourse answer events := by
  unfold quoteFees
  have hbase := Shows.recorded (.asked .latestBaseFee) sweeper.ledger.latestBaseFee w
  rcases h : sweeper.ledger.latestBaseFee.apply w with ⟨fault | baseFee, w₁⟩
  · rw [h] at hbase
    exact ⟨_, _, _, hbase.bind_error, .unread fault⟩
  · rw [h] at hbase
    by_cases hnull : baseFee = .null
    · subst hnull
      exact ⟨_, _, _, hbase.bind_quiet (Shows.pure _ _), .noBaseFee⟩
    · have hsamples := Shows.recorded (.asked .recentFeeSamples) sweeper.ledger.recentFeeSamples w₁
      rcases h' : sweeper.ledger.recentFeeSamples.apply w₁ with ⟨fault | samples, w₂⟩
      · rw [h'] at hsamples
        refine ⟨_, _, w₂, hbase.bind ?_, .unsampled hnull fault⟩
        rw [if_neg hnull, if_neg hnull]
        exact hsamples.bind_error
      · rw [h'] at hsamples
        by_cases hpresent : samples.truthy = true
        · refine ⟨_, _, w₂, hbase.bind ?_, .averaged hnull hpresent⟩
          rw [if_neg hnull, if_neg hnull]
          refine hsamples.bind_quiet ?_
          rw [if_pos hpresent, if_pos hpresent]
          cases averageFees samples with
          | error fault => exact (Shows.fail _ _).bind_error
          | ok fees => exact (Shows.ofExcept _ _).bind_quiet (Shows.pure _ _)
        · refine ⟨_, _, w₂, hbase.bind ?_, .noSamples hnull hpresent⟩
          rw [if_neg hnull, if_neg hnull]
          refine hsamples.bind_quiet ?_
          rw [if_neg hpresent, if_neg hpresent]
          exact Shows.pure _ _

theorem attemptQuote_shows (sweeper : Sweeper ω) (w : ω) :
    ∃ answer events w', Shows (attemptQuote sweeper.ledger) (attemptQuote sweeper.traced.ledger) w
      (recast unreadableFees answer) events w' ∧ QuoteCourse answer events := by
  obtain ⟨answer, events, w₁, hs, hc⟩ := quoteFees_shows sweeper w
  have hrecast : ∃ w', Shows (attemptQuote sweeper.ledger) (attemptQuote sweeper.traced.ledger) w
      (recast unreadableFees answer) events w' :=
    Recasts.shows { ledger := fun _ _ => ⟨_, Shows.fail _ _⟩ } hs
  obtain ⟨w', h⟩ := hrecast
  exact ⟨answer, events, w', h, hc⟩

theorem quoteFeesAttempts_shows (sweeper : Sweeper ω) (delay : Json) (allowed : Number)
    (retries : Nat) (w : ω) :
    ∃ result events w', Shows
      (quoteFeesAttempts sweeper.ledger (Action.update (sweeper.sleep delay)) allowed retries)
      (quoteFeesAttempts sweeper.traced.ledger (Action.update (sweeper.traced.sleep delay)) allowed
        retries) w result events w' ∧ QuoteRun delay allowed retries result events := by
  induction retries generalizing w with
  | zero =>
    obtain ⟨answer, events, w₁, hs, hc⟩ := attemptQuote_shows sweeper w
    unfold quoteFeesAttempts
    rcases answer with fault | (reason | quote)
    · exact ⟨_, _, _, bind_recast hs, .failed hc⟩
    · exact ⟨_, _, _, hs.bind_quiet (Shows.fail _ _), .exhausted hc⟩
    · exact ⟨_, _, _, hs.bind_quiet (Shows.pure _ _), .quoted hc⟩
  | succ retries ih =>
    obtain ⟨answer, events, w₁, hs, hc⟩ := attemptQuote_shows sweeper w
    unfold quoteFeesAttempts
    rcases answer with fault | (reason | quote)
    · exact ⟨_, _, _, bind_recast hs, .failed hc⟩
    · obtain ⟨result, others, w', hrest, hrun⟩ := ih (sweeper.sleep delay w₁)
      exact ⟨_, _, _, hs.bind ((Shows.change (.paused delay) (sweeper.sleep delay) w₁).bind hrest),
        .again hc hrun⟩
    · exact ⟨_, _, _, hs.bind_quiet (Shows.pure _ _), .quoted hc⟩

/-- The settings tell how often to try, or the estimate is not begun. -/
theorem quoteFeesWithRetry_shows (sweeper : Sweeper ω) (hkind : sweeper.settings.kind = .feeMarket)
    (w : ω) :
    ∃ result events w', Shows
      (quoteFeesWithRetry sweeper.ledger sweeper.sleep sweeper.settings.feeRetries
        sweeper.settings.feeRetryDelay)
      (quoteFeesWithRetry sweeper.traced.ledger sweeper.traced.sleep sweeper.settings.feeRetries
        sweeper.settings.feeRetryDelay) w result events w' ∧
      FeesCourse sweeper.settings (result >>= offer) events := by
  unfold quoteFeesWithRetry
  cases hallowed : allowedAttempts sweeper.settings.feeRetries with
  | error fault =>
    exact ⟨_, _, _, (Shows.fail _ _).bind_error, .unset hkind (.inl hallowed)⟩
  | ok allowed =>
    cases hdelay : sweeper.settings.feeRetryDelay.toDouble with
    | error fault =>
      exact ⟨_, _, _, (Shows.ofExcept _ _).bind (Shows.fail _ _).bind_error,
        .unset hkind (.inr hdelay)⟩
    | ok delay =>
      obtain ⟨result, events, w', hs, hrun⟩ := quoteFeesAttempts_shows sweeper
        (.num (.double delay)) allowed (retriesWithin allowed) w
      exact ⟨_, _, _, (Shows.ofExcept _ _).bind ((Shows.ofExcept _ _).bind hs),
        .quoted hkind hrun⟩

theorem readFees_shows (sweeper : Sweeper ω) (w : ω) :
    ∃ result events w', Shows sweeper.readFees sweeper.traced.readFees w result events w' ∧
      FeesCourse sweeper.settings result events := by
  unfold readFees
  cases hkind : sweeper.settings.kind with
  | legacy =>
    obtain ⟨answer, w₁, hs⟩ := readGasPrice_shows sweeper w
    have hkind' : sweeper.traced.settings.kind = .legacy := hkind
    simp only [hkind']
    cases answer with
    | error fault => exact ⟨_, _, _, bind_recast hs, .legacy hkind (.error fault)⟩
    | ok gasPrice => exact ⟨_, _, _, hs.bind_quiet (Shows.pure _ _), .legacy hkind (.ok gasPrice)⟩
  | feeMarket =>
    have hkind' : sweeper.traced.settings.kind = .feeMarket := hkind
    simp only [hkind']
    obtain ⟨answer, events, w₁, hs, hc⟩ := quoteFeesWithRetry_shows sweeper hkind w
    rcases answer with fault | quote
    · exact ⟨_, _, _, hs.bind_error, hc⟩
    · cases hoffer : quote.offeredMaxFee with
      | error fault =>
        refine ⟨_, _, _, hs.bind (Shows.known hoffer _).bind_error, ?_⟩
        simpa [offer, hoffer, bind, Except.bind, Except.map] using hc
      | ok maxFee =>
        refine ⟨_, _, _, hs.bind ((Shows.known hoffer _).bind_quiet (Shows.pure _ _)), ?_⟩
        simpa [offer, hoffer, bind, Except.bind, Except.map] using hc

theorem estimateGas_shows (sweeper : Sweeper ω) (query : Json) (w : ω) :
    ∃ answer w', Shows
      (do
        match ← Action.attempt (sweeper.ledger.estimateGas query) with
        | .ok gas => return gas
        | .error (.ledger fault) => do
          sweeper.reportError ("Gas estimation failed: " ++ fault.text)
          Action.fail (.transfer
            (.feeEstimationExhausted ("Gas estimation failed: " ++ fault.text)))
        | .error fault => Action.fail fault)
      (do
        match ← Action.attempt (sweeper.traced.ledger.estimateGas query) with
        | .ok gas => return gas
        | .error (.ledger fault) => do
          sweeper.traced.reportError ("Gas estimation failed: " ++ fault.text)
          Action.fail (.transfer
            (.feeEstimationExhausted ("Gas estimation failed: " ++ fault.text)))
        | .error fault => Action.fail fault) w
      (recast unestimated answer) [.asked (.estimateGas query) answer] w' := by
  refine ⟨_, Recasts.shows ?_ (Shows.recorded (.asked (.estimateGas query))
    (sweeper.ledger.estimateGas query) w)⟩
  exact { ledger := fun _ _ => ⟨_, (Shows.report _ _ _ _ _).bind_quiet (Shows.fail _ _)⟩ }

theorem readGasLimit_shows (sweeper : Sweeper ω) (sender : String) (nonce chainId : Json)
    (fees : FeeFields) (w : ω) :
    ∃ result events w', Shows (sweeper.readGasLimit sender nonce chainId fees)
      (sweeper.traced.readGasLimit sender nonce chainId fees) w result events w' ∧
      GasCourse sweeper.settings (sweeper.gasQuery sender nonce chainId fees) result events := by
  by_cases hset : sweeper.settings.gasLimit.truthy = true
  · have hset' : sweeper.traced.settings.gasLimit.truthy = true := hset
    simp only [readGasLimit, if_pos hset, if_pos hset']
    exact ⟨_, _, _, Shows.ofExcept_map Json.int _ w, .fixed hset⟩
  · have hset' : ¬ sweeper.traced.settings.gasLimit.truthy = true := hset
    simp only [readGasLimit, if_neg hset, if_neg hset']
    obtain ⟨answer, w', hs⟩ := estimateGas_shows sweeper
      (sweeper.gasQuery sender nonce chainId fees) w
    exact ⟨_, _, _, hs, .estimated hset answer⟩

theorem drafted_shows (sweeper : Sweeper ω) (address : String) (chainId balance nonce : Json)
    (fees : FeeFields) (fee gas : Json) (w : ω) :
    Shows
      (do
        let value ← Action.ofExcept (valueOf balance gas fee)
        if value = 0 then Action.fail (nothingToSweep address balance)
        else
          return { recipient := sweeper.settings.treasury, value, gas, nonce, chainId, fees })
      (do
        let value ← Action.ofExcept (valueOf balance gas fee)
        if value = 0 then Action.fail (nothingToSweep address balance)
        else
          return {
            recipient := sweeper.traced.settings.treasury, value, gas, nonce, chainId, fees })
      w (sweeper.drafted address chainId balance nonce fees fee gas) [] w := by
  unfold drafted
  cases valueOf balance gas fee with
  | error fault => exact (Shows.fail fault w).bind_error
  | ok value =>
    refine (Shows.ofExcept (.ok value) w).bind_quiet ?_
    show Shows _ _ w (if value = 0 then _ else _) [] w
    by_cases hzero : value = 0
    · rw [if_pos hzero, if_pos hzero, if_pos hzero]
      exact Shows.fail _ w
    · rw [if_neg hzero, if_neg hzero, if_neg hzero]
      exact Shows.pure _ w

theorem draft_shows (sweeper : Sweeper ω) (invoice : Invoice) (w : ω) :
    ∃ result events w', Shows (sweeper.draft invoice) (sweeper.traced.draft invoice) w result
      events w' ∧ DraftCourse sweeper invoice.address result events := by
  unfold draft
  obtain ⟨chainId, w₁, hchain⟩ := sweeper.readChainId_shows w
  rcases chainId with fault | chainId
  · exact ⟨_, _, _, bind_recast hchain, .unknownChain fault⟩
  obtain ⟨reading, sender, w₂, hsender, hread⟩ := sweeper.readSender_shows invoice.address w₁
  rcases reading with fault | ⟨balance, nonce⟩
  · exact ⟨_, _, _, hchain.bind (bind_recast hsender), .unreadSender hread⟩
  obtain ⟨fees, prices, w₃, hfees, hpriced⟩ := sweeper.readFees_shows w₂
  rcases fees with fault | ⟨fees, fee⟩
  · refine ⟨_, _, _, hchain.bind (hsender.bind hfees.bind_error), ?_⟩
    have h : DraftCourse sweeper invoice.address (.error fault)
        (.asked .chainId (.ok chainId) :: sender ++ prices) := .unpriced hread hpriced
    simpa using h
  obtain ⟨gas, limits, w₄, hgas, hmeasured⟩ :=
    sweeper.readGasLimit_shows invoice.address nonce chainId fees w₃
  rcases gas with fault | gas
  · refine ⟨_, _, _, hchain.bind (hsender.bind (hfees.bind hgas.bind_error)), ?_⟩
    simpa using DraftCourse.unmeasured hread hpriced hmeasured
  · refine ⟨_, _, _, hchain.bind (hsender.bind (hfees.bind (hgas.bind_quiet
      (sweeper.drafted_shows invoice.address chainId balance nonce fees fee gas w₄)))), ?_⟩
    simpa using DraftCourse.reckoned hread hpriced hmeasured

/-! ## Sweeps -/

/-- What a ledger fault makes of handing in. -/
def unsubmitted (fault : LedgerFault) : TransferFault := .submissionFailed fault.text

/-- What a ledger fault makes of waiting for a receipt. -/
def unconfirmed (hash : String) (fault : LedgerFault) : TransferFault :=
  .confirmationTimeout (hash ++ ": " ++ fault.text)

/-- How a sweep ends with a receipt. -/
def concluded (hash : String) (receipt : Json) : Except Fault (String × Json) := do
  let status ← statusOf receipt
  if status.equalsInt 1 then .ok (hash, receipt)
  else .error (.transfer (.submissionFailed ("Sweep " ++ hash ++ " reverted")))

/-- How a draft is transmitted: reported, signed, submitted and confirmed. -/
inductive Transmission (sweeper : Sweeper ω) (draft : Draft) (scalar : Nat) :
    Except Fault (String × Json) → List Event → Prop
  | unreported (overlong : ¬ draft.Reported) :
      Transmission sweeper draft scalar (.error .tooManyDigits) []
  | unsigned {fault : Fault} (unsigned : draft.sign scalar = .error fault)
      (reported : draft.Reported) : Transmission sweeper draft scalar (.error fault) []
  | refused {raw : Bytes} (signed : draft.sign scalar = .ok raw) (fault : Fault)
      (reported : draft.Reported) :
      Transmission sweeper draft scalar (recast unsubmitted (.error fault))
        [.submitted raw (.error fault)]
  | accepted {raw : Bytes} (signed : draft.sign scalar = .ok raw) (hash : String)
      (answer : Except Fault Json) (reported : draft.Reported) :
      Transmission sweeper draft scalar (recast (unconfirmed hash) answer >>= concluded hash)
        [.submitted raw (.ok hash),
          .asked (.awaitConfirmation hash sweeper.settings.patience) answer]

/-- How a sweep goes: its key is checked, then it is drafted and transmitted. -/
inductive SweepCourse (sweeper : Sweeper ω) (invoice : Invoice) :
    Except Fault (String × Json) → List Event → Prop
  | invalidKey (invalid : invoice.wallet.scalar? = none) : SweepCourse sweeper invoice
      (.error (.transfer (.buildFailed "Invalid invoice key"))) []
  | undrafted {scalar : Nat} {fault : Fault} {readings : List Event}
      (valid : invoice.wallet.scalar? = some scalar)
      (undrafted : DraftCourse sweeper invoice.address (.error fault) readings) :
      SweepCourse sweeper invoice (.error fault) readings
  | transmitted {scalar : Nat} {draft : Draft} {result : Except Fault (String × Json)}
      {readings others : List Event} (valid : invoice.wallet.scalar? = some scalar)
      (drafted : DraftCourse sweeper invoice.address (.ok draft) readings)
      (transmission : Transmission sweeper draft scalar result others) :
      SweepCourse sweeper invoice result (readings ++ others)

theorem checkReceipt_shows (hash : String) (receipt : Json) (w : ω) :
    Shows (checkReceipt hash receipt : Action ω Unit) (checkReceipt hash receipt) w
      ((concluded hash receipt).map fun _ => ()) [] w := by
  unfold checkReceipt concluded
  cases statusOf receipt with
  | error fault => exact (Shows.fail fault w).bind_error
  | ok status =>
    refine (Shows.ofExcept (.ok status) w).bind_quiet ?_
    show Shows _ _ w ((if status.equalsInt 1 then _ else _ : Except Fault _).map _) [] w
    by_cases hone : status.equalsInt 1 = true
    · rw [if_pos hone, if_pos hone, if_pos hone]
      exact Shows.pure () w
    · rw [if_neg hone, if_neg hone, if_neg hone]
      exact Shows.fail _ w

theorem concluded_eq_ok {hash : String} {receipt : Json} {result : String × Json}
    (h : concluded hash receipt = .ok result) : result = (hash, receipt) := by
  obtain ⟨status, -, h⟩ := ok_of_bind h
  split at h
  · cases h
    rfl
  · cases h

theorem concluded_shows (hash : String) (receipt : Json) (w : ω) :
    Shows
      (do
        checkReceipt hash receipt
        return (hash, receipt) : Action ω (String × Json))
      (do
        checkReceipt hash receipt
        return (hash, receipt)) w (concluded hash receipt) [] w := by
  have hcheck := checkReceipt_shows hash receipt w
  cases h : concluded hash receipt with
  | error fault =>
    rw [h] at hcheck
    exact hcheck.bind_error
  | ok result =>
    rw [h] at hcheck
    rw [concluded_eq_ok h]
    exact hcheck.bind_quiet (Shows.pure _ w)

/-- What becomes of a draft once it is made. -/
theorem transmission_shows (sweeper : Sweeper ω) {invoice : Invoice} {scalar : Nat} {draft : Draft}
    {readings : List Event} {w w₁ : ω} (hkey : invoice.wallet.scalar? = some scalar)
    (hdraft : Shows (sweeper.draft invoice) (sweeper.traced.draft invoice) w (.ok draft) readings
      w₁) :
    ∃ result others w', Shows (sweeper.sweep invoice) (sweeper.traced.sweep invoice) w result
      (readings ++ others) w' ∧ Transmission sweeper draft scalar result others := by
  unfold sweep signingKey
  simp only [hkey]
  by_cases hreported : draft.Reported
  · have hinfo := fun text => Shows.infoWritten sweeper.journal .sweep hreported text w₁
    cases hsign : draft.sign scalar with
    | error fault =>
      exact ⟨_, _, _, (Shows.pure scalar w).bind (hdraft.bind ((hinfo _).bind
        (Shows.known hsign _).bind_error)), .unsigned hsign hreported⟩
    | ok raw =>
      obtain ⟨answer, w₂, hsubmit⟩ := sweeper.submit_shows raw (sweeper.journal
        { level := .info, source := .sweep, text := "Sweeping " ++ Decimal.textInt draft.value
          ++ " wei from " ++ invoice.address ++ " to " ++ sweeper.settings.treasury } w₁)
      rcases answer with fault | hash
      · exact ⟨_, _, _, (Shows.pure scalar w).bind (hdraft.bind ((hinfo _).bind
          ((Shows.known hsign _).bind (bind_recast hsubmit)))), .refused hsign fault hreported⟩
      obtain ⟨receipt, w₃, hconfirm⟩ := sweeper.confirm_shows hash w₂
      rcases receipt with fault | receipt
      · refine ⟨_, _, _, (Shows.pure scalar w).bind (hdraft.bind ((hinfo _).bind
          ((Shows.known hsign _).bind (hsubmit.bind (bind_recast hconfirm))))), ?_⟩
        have h : Transmission sweeper draft scalar _ _ :=
          .accepted hsign hash (.error fault) hreported
        rw [recast_error_bind] at h
        exact h
      · exact ⟨_, _, _, (Shows.pure scalar w).bind (hdraft.bind ((hinfo _).bind
          ((Shows.known hsign _).bind (hsubmit.bind (hconfirm.bind_quiet
            (concluded_shows hash receipt w₃)))))), .accepted hsign hash (.ok receipt) hreported⟩
  · exact ⟨_, _, _, (Shows.pure scalar w).bind (hdraft.bind
      (Shows.infoWritten_overlong _ _ hreported _ _).bind_error), .unreported hreported⟩

theorem exists_course (sweeper : Sweeper ω) (invoice : Invoice) (w : ω) :
    ∃ result events w', Shows (sweeper.sweep invoice) (sweeper.traced.sweep invoice) w result
      events w' ∧ SweepCourse sweeper invoice result events := by
  cases hkey : invoice.wallet.scalar? with
  | none =>
    unfold sweep signingKey
    simp only [hkey]
    exact ⟨_, _, _, (Shows.fail _ w).bind_error, .invalidKey hkey⟩
  | some scalar =>
    obtain ⟨drafted, readings, w₁, hdraft, hd⟩ := sweeper.draft_shows invoice w
    rcases drafted with fault | draft
    · unfold sweep signingKey
      simp only [hkey]
      exact ⟨_, _, _, (Shows.pure scalar w).bind hdraft.bind_error, .undrafted hkey hd⟩
    · obtain ⟨result, others, w', hs, ht⟩ := sweeper.transmission_shows hkey hdraft
      exact ⟨_, _, _, hs, .transmitted hkey hd ht⟩

/-- The calls of a sweep that is begun in a world. -/
def calls (sweeper : Sweeper ω) (invoice : Invoice) (w : ω) : List Event :=
  ((sweeper.traced.sweep invoice).apply ⟨w, []⟩).2.history

theorem calls_eq {sweeper : Sweeper ω} {invoice : Invoice} {w w' : ω}
    {result : Except Fault (String × Json)} {events : List Event}
    (h : Shows (sweeper.sweep invoice) (sweeper.traced.sweep invoice) w result events w') :
    sweeper.calls invoice w = events := h.history

end Sweeper

end DepositGateway
