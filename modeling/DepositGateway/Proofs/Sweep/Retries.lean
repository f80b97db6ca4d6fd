import DepositGateway.Proofs.Poller.Orderly
import DepositGateway.Proofs.Sweep.Quantities

/-!
# How often fees are asked for

An attempt reads the base fee and, only where there is one, the samples. It is unavailable where
the block shows no base fee or no samples. Only such an attempt is followed by another one, after a
pause, and only as often as is allowed.

* `Unavailable`, `Averages`: what the readings of an attempt were.
* `FeeAttempt`: an attempt with its readings. `QuoteRun.attempts`: the attempts of an estimate.
* `Concludes`: how an estimate goes that is allowed so many attempts, and what it ends in.
  `quoteFees_concludes`: every estimate goes so, whatever the ledger does.
-/

namespace DepositGateway

variable {ω : Type}

/-! ## Attempts -/

/-- The readings of an attempt: a base fee, and then the samples. -/
def sampling (baseFee samples : Json) : List Event :=
  [.asked .latestBaseFee (.ok baseFee), .asked .recentFeeSamples (.ok samples)]

/-- The block showed no base fee, or one and no samples. -/
def Unavailable (readings : List Event) : Prop :=
  readings = [.asked .latestBaseFee (.ok .null)] ∨
    ∃ baseFee samples : Json, baseFee ≠ .null ∧ samples.truthy = false ∧
      readings = sampling baseFee samples

/-- The quote holds the base fee that was read and the averages of the samples read after it. -/
def Averages (readings : List Event) (quote : FeeQuote) : Prop :=
  quote.baseFee ≠ .null ∧ ∃ samples : Json, samples.truthy = true ∧
    readings = sampling quote.baseFee samples ∧
    averageFees samples = .ok (quote.maxFee, quote.priorityFee)

theorem sampling_inj {baseFee samples baseFee' samples' : Json} :
    sampling baseFee samples = sampling baseFee' samples' ↔
      baseFee = baseFee' ∧ samples = samples' := by
  simp [sampling]

/-- An attempt is unavailable where it ended in a reason for that. -/
theorem QuoteCourse.unavailable_iff {answer : Except Fault (Except NoQuote FeeQuote)}
    {readings : List Event} (h : QuoteCourse answer readings) :
    Unavailable readings ↔ ∃ reason, answer = .ok (.error reason) := by
  cases h with
  | unread | unsampled => simp [Unavailable, sampling]
  | noBaseFee => simp [Unavailable]
  | noSamples some none => simpa [Unavailable, sampling] using ⟨some, by simpa using none⟩
  | @averaged baseFee samples some present =>
    cases averageFees samples <;> simp [Unavailable, sampling, present, Except.map]

/-- An attempt ended in the quote that holds its averages. -/
theorem QuoteCourse.averages_iff {answer : Except Fault (Except NoQuote FeeQuote)}
    {readings : List Event} (h : QuoteCourse answer readings) (quote : FeeQuote) :
    Averages readings quote ↔ answer = .ok (.ok quote) := by
  cases h with
  | unread | unsampled | noBaseFee => simp [Averages, sampling]
  | noSamples some none =>
    refine ⟨?_, nofun⟩
    rintro ⟨-, samples, present, hreadings, -⟩
    obtain ⟨-, rfl⟩ := sampling_inj.1 hreadings
    exact absurd present none
  | @averaged baseFee samples some present =>
    constructor
    · rintro ⟨-, samples, -, hreadings, haverages⟩
      obtain ⟨rfl, rfl⟩ := sampling_inj.1 hreadings
      rw [haverages]
      rfl
    · intro hquote
      cases haverages : averageFees samples with
      | error fault =>
        rw [haverages] at hquote
        cases hquote
      | ok fees =>
        rw [haverages] at hquote
        cases hquote
        exact ⟨some, samples, present, rfl, haverages⟩

/-- An attempt to find out the fees: what it ended in, and its readings. -/
structure FeeAttempt where
  answer : Except Fault (Except NoQuote FeeQuote)
  readings : List Event
  course : QuoteCourse answer readings

namespace FeeAttempt

/-- What an estimate ends in whose last attempt this is. -/
def conclusion (allowed : Number) (attempt : FeeAttempt) : Except Fault FeeQuote :=
  match attempt.answer with
  | .ok (.ok quote) => .ok quote
  | .ok (.error reason) => .error (.transfer (.feeEstimationExhausted
      (reason.text ++ " (gave up after " ++ allowed.text ++ " attempts)")))
  | .error fault => recast unreadableFees (.error fault)

/-- The calls of attempts that were followed by another one: each with the pause after it. -/
def rounds (delay : Json) (attempts : List FeeAttempt) : List Event :=
  attempts.flatMap fun attempt => attempt.readings ++ [.paused delay]

end FeeAttempt

/-- An estimate is made of attempts. All but the last are unavailable, and the last one is so only
where no more are allowed. -/
theorem QuoteRun.attempts {delay : Json} {allowed : Number} {retries : Nat}
    {result : Except Fault FeeQuote} {events : List Event}
    (h : QuoteRun delay allowed retries result events) :
    ∃ (failed : List FeeAttempt) (last : FeeAttempt), failed.length ≤ retries ∧
      (∀ attempt ∈ failed, Unavailable attempt.readings) ∧
      (Unavailable last.readings → failed.length = retries) ∧
      events = FeeAttempt.rounds delay failed ++ last.readings ∧
      result = last.conclusion allowed := by
  induction h with
  | @failed retries fault events attempt =>
    refine ⟨[], ⟨_, events, attempt⟩, Nat.zero_le _, List.forall_mem_nil _, fun hnone => ?_, rfl,
      rfl⟩
    obtain ⟨reason, hreason⟩ := attempt.unavailable_iff.1 hnone
    cases hreason
  | @quoted retries quote events attempt =>
    refine ⟨[], ⟨_, events, attempt⟩, Nat.zero_le _, List.forall_mem_nil _, fun hnone => ?_, rfl,
      rfl⟩
    obtain ⟨reason, hreason⟩ := attempt.unavailable_iff.1 hnone
    cases hreason
  | @exhausted reason events attempt =>
    exact ⟨[], ⟨_, events, attempt⟩, Nat.le_refl _, List.forall_mem_nil _, fun _ => rfl, rfl, rfl⟩
  | @again retries reason result events others attempt _ ih =>
    obtain ⟨failed, last, hlength, hfailed, hlast, rfl, rfl⟩ := ih
    have hnone : Unavailable events := attempt.unavailable_iff.2 ⟨reason, rfl⟩
    refine ⟨⟨_, events, attempt⟩ :: failed, last, Nat.succ_le_succ hlength,
      List.forall_mem_cons.2 ⟨hnone, hfailed⟩, fun h => congrArg Nat.succ (hlast h), ?_, rfl⟩
    simp [FeeAttempt.rounds]

/-! ## What an estimate makes of its attempts -/

/-- How an estimate goes that is allowed `limit` attempts: `failed` are those before the last one.
It ends with the first attempt that is not unavailable or with the last one allowed, gives the
averages of that very attempt, and is exhausted where that attempt is unavailable or the ledger
refused it. Every other fault comes through, be it an exhaustion of its own. -/
structure Concludes (limit : Int) (failed : List FeeAttempt) (last : FeeAttempt)
    (result : Except Fault FeeQuote) : Prop where
  bounded : (failed.length : Int) + 1 ≤ limit
  retried : ∀ attempt ∈ failed, Unavailable attempt.readings
  exhausts : Unavailable last.readings → (failed.length : Int) + 1 = limit
  quotes : ∀ quote, result = .ok quote ↔ Averages last.readings quote
  floors : ∀ (baseFee : Json) (pairs : List (Int × Int)), baseFee ≠ .null → pairs ≠ [] →
    last.readings = sampling baseFee (samplesOfPairs pairs) → result = .ok
      { baseFee, maxFee := .int ((pairs.map Prod.fst).sum.fdiv pairs.length),
        priorityFee := .int ((pairs.map Prod.snd).sum.fdiv pairs.length) }
  givesUp : (∃ text, result = .error (.transfer (.feeEstimationExhausted text))) ↔
    Unavailable last.readings ∨ (∃ fault, last.answer = .error (.ledger fault)) ∨
      ∃ text, last.answer = .error (.transfer (.feeEstimationExhausted text))
  passesOn : ∀ fault, last.answer = .error fault → (∀ refusal, fault ≠ .ledger refusal) →
    result = .error fault

theorem FeeAttempt.conclusion_eq_ok (attempt : FeeAttempt) (allowed : Number) (quote : FeeQuote) :
    attempt.conclusion allowed = .ok quote ↔ Averages attempt.readings quote := by
  rw [attempt.course.averages_iff, conclusion]
  rcases attempt.answer with (_ | _ | _ | _ | _) | _ | _ <;> simp [recast]

theorem FeeAttempt.conclusion_exhausted (attempt : FeeAttempt) (allowed : Number) :
    (∃ text, attempt.conclusion allowed = .error (.transfer (.feeEstimationExhausted text))) ↔
      Unavailable attempt.readings ∨ (∃ fault, attempt.answer = .error (.ledger fault)) ∨
        ∃ text, attempt.answer = .error (.transfer (.feeEstimationExhausted text)) := by
  rw [attempt.course.unavailable_iff, conclusion]
  rcases attempt.answer with (_ | _ | _ | _ | _) | _ | _ <;> simp [recast, unreadableFees]

theorem FeeAttempt.conclusion_error {attempt : FeeAttempt} {fault : Fault} (allowed : Number)
    (h : attempt.answer = .error fault) (hother : ∀ refusal, fault ≠ .ledger refusal) :
    attempt.conclusion allowed = .error fault := by
  rw [conclusion, h]
  cases fault with
  | ledger refusal => exact absurd rfl (hother refusal)
  | _ => rfl

/-- Every estimate makes its attempts as it is allowed to, with a pause between two of them, and
makes of them what it should. -/
theorem quoteFees_concludes (ledger : Ledger ω) (sleep : Json → ω → ω) (retries : Int)
    {delay : Json} {seconds : Binary64} (hdelay : delay.toDouble = .ok seconds) (w : ω) :
    ∃ (failed : List FeeAttempt) (last : FeeAttempt) (result : Except Fault FeeQuote) (w' : ω),
      Shows (quoteFeesWithRetry ledger sleep (.int retries) delay)
        (quoteFeesWithRetry ledger.traced (fun pause => Traced.change (.paused pause) (sleep pause))
          (.int retries) delay) w result
        (FeeAttempt.rounds (.num (.double seconds)) failed ++ last.readings) w' ∧
      Concludes (max (retries + 1) 1) failed last result := by
  let sweeper : Sweeper ω := ⟨ledger, fun _ w => w, sleep, { treasury := "" }⟩
  obtain ⟨result, events, w', hshows, hrun⟩ := Sweeper.quoteFeesAttempts_shows sweeper
    (.num (.double seconds)) (.int (retries + 1)) (retriesWithin (.int (retries + 1))) w
  obtain ⟨failed, last, hlength, hfailed, hlast, rfl, rfl⟩ := hrun.attempts
  have hretries : retriesWithin (.int (retries + 1)) = (retries + 1).toNat - 1 := rfl
  rw [hretries] at hlength hlast
  refine ⟨failed, last, last.conclusion (.int (retries + 1)), w', ?_, ?_⟩
  · exact (Shows.ofExcept _ _).bind ((Shows.known hdelay _).bind hshows)
  · exact {
      bounded := by omega
      retried := hfailed
      exhausts := fun hnone => by
        have := hlast hnone
        omega
      quotes := last.conclusion_eq_ok _
      floors := fun baseFee pairs some present hreadings => by
        rw [FeeAttempt.conclusion_eq_ok]
        exact ⟨some, _, by simpa [samplesOfPairs, Json.truthy] using present, hreadings,
          averageFees_pairs pairs present⟩
      givesUp := last.conclusion_exhausted _
      passesOn := fun _ => FeeAttempt.conclusion_error _ }

/-- The ledger whose first block shows no base fee and whose second shows no samples. The world
counts the base fees that were read. -/
def Ledger.patchy : Ledger Nat :=
  { Ledger.steady 0 with
    latestBaseFee := Action.step fun n => (if n = 0 then .null else .int (90 + n), n + 1)
    recentFeeSamples := Action.step fun n =>
      (if n < 3 then .arr [] else samplesOfPairs [(301, 20), (500, 41)], n) }

/-- Two attempts are unavailable there, and the third gives base fee and averages of its own. -/
theorem quoteFees_concludes_patchy :
    (Json.int 2).toDouble = .ok ⟨0x4000000000000000⟩ ∧
      ∃ (failed : List FeeAttempt) (last : FeeAttempt),
        (quoteFeesWithRetry Ledger.patchy (fun _ n => n) (.int 3) (.int 2)).apply 0 =
          (.ok ⟨.int 92, .int 400, .int 30⟩, 3) ∧
        Concludes 4 failed last (.ok ⟨.int 92, .int 400, .int 30⟩) := by
  have hdelay : (Json.int 2).toDouble = .ok ⟨0x4000000000000000⟩ := by decide
  obtain ⟨failed, last, result, w', hshows, hconcludes⟩ :=
    quoteFees_concludes Ledger.patchy (fun _ n => n) 3 hdelay 0
  have hplain : (quoteFeesWithRetry Ledger.patchy (fun _ n => n) (.int 3) (.int 2)).apply 0 =
      (.ok ⟨.int 92, .int 400, .int 30⟩, 3) := rfl
  obtain rfl : result = .ok ⟨.int 92, .int 400, .int 30⟩ :=
    congrArg Prod.fst (hshows.plain.symm.trans hplain)
  exact ⟨hdelay, failed, last, hplain, hconcludes⟩

end DepositGateway
