import DepositGateway.Proofs.Sweep.Amount

/-!
# What the outcome of a sweep tells

The ledger answers each call with what it should, or refuses it with a fault of its own. Then every
sweep ends with a receipt or with a fault of a sweep, and which of them it is tells whether anything
was handed in. Only a balance of more digits than can be written may end a sweep otherwise, and then
nothing was handed in.

* `Event.Proper`: a call that was answered so.
* `Sweeper.TellsSubmission`, `Sweeper.TellsNone`: the outcomes of either kind.
* `Sweeper.DraftCourse.tells`: a draft that is not made tells that nothing was handed in.
* `Sweeper.Unreported`: a sweep that was ended by a balance of too many digits.
  `Sweeper.unreported_or_tells`: every other one tells by its outcome what it did.
* `Sweeper.outcome_tells`: each sweep hands in at most once, its outcome tells whether it did, and
  it returns exactly the receipt that was waited for, if that tells success.
-/

namespace DepositGateway

variable {ω : Type}

/-! ## Calls -/

/-- Whether a call hands in signed bytes. -/
def Event.isSubmission : Event → Bool
  | submitted _ _ => true
  | _ => false

/-- Whether a call waits for a receipt. -/
def Event.isWait : Event → Bool
  | asked (.awaitConfirmation _ _) _ => true
  | _ => false

/-- Whether a call was answered with what it should be, or refused with a fault of the ledger. A
receipt should be an object, and everything else that is asked a natural number or made of such. -/
def Event.Proper : Event → Prop
  | asked _ (.error fault) => ∃ refusal, fault = .ledger refusal
  | submitted _ (.error fault) => ∃ refusal, fault = .ledger refusal
  | asked (.awaitConfirmation _ _) (.ok receipt) => ∃ members, receipt = .obj members
  | event => event.Natural

theorem Event.Proper.natural {event : Event} (h : event.Proper) : event.Natural := by
  cases event with
  | asked question answer =>
    cases answer with
    | error fault => cases question <;> trivial
    | ok value =>
      cases question with
      | awaitConfirmation => trivial
      | _ => exact h
  | _ => trivial

theorem Event.Proper.refused {question : Question} {fault : Fault}
    (h : (asked question (.error fault)).Proper) : ∃ refusal, fault = .ledger refusal := by
  cases question <;> exact h

theorem Event.IsReading.not_submission {event : Event} (h : event.IsReading) :
    event.isSubmission = false := by
  cases event with
  | submitted => exact h.elim
  | _ => rfl

theorem Event.IsReading.not_wait {event : Event} (h : event.IsReading) : event.isWait = false := by
  cases event with
  | asked question answer =>
    cases question with
    | awaitConfirmation => exact h.elim
    | _ => rfl
  | _ => rfl

/-- Readings hand nothing in. -/
theorem submissions_readings {events : List Event} (h : ∀ event ∈ events, event.IsReading) :
    events.countP Event.isSubmission = 0 :=
  List.countP_eq_zero.mpr fun event he => by simp [(h event he).not_submission]

/-- Readings do not wait for a receipt. -/
theorem waits_readings {events : List Event} (h : ∀ event ∈ events, event.IsReading) :
    events.countP Event.isWait = 0 :=
  List.countP_eq_zero.mpr fun event he => by simp [(h event he).not_wait]

/-! ## Fees -/

theorem QuoteCourse.fails_by_ledger {fault : Fault} {events : List Event}
    (h : QuoteCourse (.error fault) events) (hp : ∀ event ∈ events, event.Proper) :
    ∃ refusal, fault = .ledger refusal := by
  generalize hr : (Except.error fault : Except Fault (Except NoQuote FeeQuote)) = answer at h
  cases h with
  | unread =>
    cases hr
    exact (hp _ List.mem_cons_self).refused
  | unsampled =>
    cases hr
    exact (hp _ (List.mem_cons_of_mem _ List.mem_cons_self)).refused
  | noBaseFee | noSamples => cases hr
  | @averaged _ samples _ present =>
    obtain ⟨pairs, rfl⟩ : ∃ pairs, samples = samplesOf pairs :=
      (hp _ (List.mem_cons_of_mem _ List.mem_cons_self)).natural
    rw [averageFees_samplesOf ((truthy_samplesOf pairs).mp present)] at hr
    cases hr

/-- Attempts that give no quote exhaust the estimate. -/
theorem QuoteRun.exhausts {delay : Json} {allowed : Number} {retries : Nat}
    {result : Except Fault FeeQuote} {events : List Event}
    (h : QuoteRun delay allowed retries result events) (hp : ∀ event ∈ events, event.Proper) :
    ∀ fault, result = .error fault → ∃ text, fault = .transfer (.feeEstimationExhausted text) := by
  induction h with
  | failed attempt =>
    intro fault hf
    obtain ⟨refusal, rfl⟩ := attempt.fails_by_ledger hp
    cases hf
    exact ⟨_, rfl⟩
  | quoted =>
    intro fault hf
    cases hf
  | exhausted =>
    intro fault hf
    cases hf
    exact ⟨_, rfl⟩
  | again attempt rest ih =>
    exact ih fun event he => hp event (List.mem_append_right _ (List.mem_cons_of_mem _ he))

theorem SenderCourse.fails_by_ledger {address : String} {fault : Fault} {events : List Event}
    (h : SenderCourse address (.error fault) events) (hp : ∀ event ∈ events, event.Proper) :
    ∃ refusal, fault = .ledger refusal := by
  generalize hr : (Except.error fault : Except Fault (Json × Json)) = result at h
  cases h with
  | unread =>
    cases hr
    exact (hp _ List.mem_cons_self).refused
  | read balance answer =>
    cases answer with
    | ok nonce => cases hr
    | error refused =>
      cases hr
      exact (hp _ (List.mem_cons_of_mem _ List.mem_cons_self)).refused

/-- How sweeps may be set: gas is limited or estimated, retries are counted, and the pause between
two attempts is a number of seconds. -/
structure SweepSettings.Sound (settings : SweepSettings) : Prop where
  limited : settings.Limited
  retries : ∃ count : Int, settings.feeRetries = .int count
  delay : ∃ seconds, settings.feeRetryDelay.toDouble = .ok seconds

namespace Sweeper

theorem FeesCourse.exhausts {settings : SweepSettings} {fault : Fault} {prices : List Event}
    (h : FeesCourse settings (.error fault) prices) (hs : settings.Sound)
    (hp : ∀ event ∈ prices, event.Proper) :
    ∃ text, fault = .transfer (.feeEstimationExhausted text) := by
  generalize hr : (Except.error fault : Except Fault (FeeFields × Json)) = result at h
  cases h with
  | legacy kind answer =>
    cases answer with
    | ok gasPrice => cases hr
    | error refused =>
      obtain ⟨refusal, rfl⟩ := (hp _ List.mem_cons_self).refused
      cases hr
      exact ⟨_, rfl⟩
  | unset kind unset =>
    obtain ⟨count, hcount⟩ := hs.retries
    obtain ⟨seconds, hseconds⟩ := hs.delay
    rcases unset with hallowed | hdelay
    · rw [hcount] at hallowed
      cases hallowed
    · rw [hseconds] at hdelay
      cases hdelay
  | @quoted _ _ answer _ kind run =>
    cases answer with
    | error refused =>
      cases hr
      exact run.exhausts hp _ rfl
    | ok quote =>
      obtain ⟨offered, -, hoffer⟩ := run.offers (fun event he => (hp event he).natural) kind
      rw [show (Except.ok quote >>= offer) = offer quote from rfl, hoffer] at hr
      cases hr

theorem GasCourse.exhausts {settings : SweepSettings} {query : Json} {fault : Fault}
    {limits : List Event} (h : GasCourse settings query (.error fault) limits)
    (hl : settings.Limited) (hp : ∀ event ∈ limits, event.Proper) :
    ∃ text, fault = .transfer (.feeEstimationExhausted text) := by
  generalize hr : (Except.error fault : Except Fault Json) = result at h
  cases h with
  | fixed set =>
    rcases hl with hnull | ⟨limit, -, hlimit⟩
    · rw [hnull] at set
      cases set
    · rw [hlimit] at hr
      cases hr
  | estimated unset answer =>
    cases answer with
    | ok gas => cases hr
    | error refused =>
      obtain ⟨refusal, rfl⟩ := (hp _ List.mem_cons_self).refused
      cases hr
      exact ⟨_, rfl⟩

/-! ## Outcomes -/

/-- The outcomes that tell that signed bytes were handed in: a receipt, a refusal, and a wait that
came to nothing. -/
inductive TellsSubmission : Except Fault (String × Json) → Prop
  | settled (answer : String × Json) : TellsSubmission (.ok answer)
  | refused (text : String) : TellsSubmission (.error (.transfer (.submissionFailed text)))
  | unconfirmed (text : String) : TellsSubmission (.error (.transfer (.confirmationTimeout text)))

/-- The outcomes that tell that nothing was handed in. -/
inductive TellsNone : Except Fault (String × Json) → Prop
  | unknownChain (text : String) : TellsNone (.error (.transfer (.chainIdUnavailable text)))
  | unpriced (text : String) : TellsNone (.error (.transfer (.feeEstimationExhausted text)))
  | unbuilt (text : String) : TellsNone (.error (.transfer (.buildFailed text)))
  | nothing (text : String) : TellsNone (.error (.transfer (.nothingToSweep text)))

theorem TellsSubmission.family {result : Except Fault (String × Json)} (h : TellsSubmission result)
    {fault : Fault} (hf : result = .error fault) : ∃ failure, fault = .transfer failure := by
  cases h <;> cases hf <;> exact ⟨_, rfl⟩

theorem TellsNone.family {result : Except Fault (String × Json)} (h : TellsNone result)
    {fault : Fault} (hf : result = .error fault) : ∃ failure, fault = .transfer failure := by
  cases h <;> cases hf <;> exact ⟨_, rfl⟩

theorem TellsNone.not_submission {result : Except Fault (String × Json)} (h : TellsNone result) :
    ¬ TellsSubmission result := by
  cases h <;> exact fun hs => nomatch hs

/-- The balance that was read has more digits than can be written. -/
def Overlong (sender : String) (events : List Event) : Prop :=
  ∃ balance, .asked (.nativeBalance sender) (.ok balance) ∈ events ∧ ¬ balance.isWritable = true

/-- Numbers that were read are overlong unless their balance can be written. -/
theorem Readings.overlong {sweeper : Sweeper ω} {sender : String} {events : List Event}
    {q : Quantities} (h : sweeper.Readings sender events q) (hlong : ¬ q.Written) :
    Overlong sender events :=
  ⟨.int q.balance, (h.balance _).mpr rfl, hlong⟩

/-- A draft that is not made tells that nothing was handed in, unless the balance is too long to be
named. -/
theorem DraftCourse.tells {sweeper : Sweeper ω} {address : String} {fault : Fault}
    {events : List Event} (h : DraftCourse sweeper address (.error fault) events)
    (hs : sweeper.settings.Sound) (hp : ∀ event ∈ events, event.Proper) :
    TellsNone (.error fault) ∨ fault = .tooManyDigits ∧ Overlong address events := by
  generalize hf : (Except.error fault : Except Fault Draft) = result at h
  cases h with
  | unknownChain refused =>
    obtain ⟨refusal, rfl⟩ := (hp _ List.mem_cons_self).refused
    cases hf
    exact .inl (.unknownChain _)
  | unreadSender unread =>
    obtain ⟨refusal, rfl⟩ :=
      unread.fails_by_ledger fun event he => hp event (List.mem_cons_of_mem _ he)
    cases hf
    exact .inl (.unbuilt _)
  | unpriced read unpriced =>
    cases hf
    obtain ⟨text, rfl⟩ :=
      unpriced.exhausts hs fun event he => hp event (List.mem_append_right _ he)
    exact .inl (.unpriced text)
  | unmeasured read priced unmeasured =>
    cases hf
    obtain ⟨text, rfl⟩ :=
      unmeasured.exhausts hs.limited fun event he => hp event (List.mem_append_right _ he)
    exact .inl (.unpriced text)
  | reckoned read priced measured =>
    obtain ⟨q, hq, rfl, rfl, rfl, rfl, rfl, rfl⟩ :=
      readings_of_course read priced measured hs.limited fun event he => (hp event he).natural
    rw [drafted_quantities] at hf
    by_cases hlt : q.reserve < q.balance
    · rw [if_pos hlt] at hf
      cases hf
    · rw [if_neg hlt] at hf
      obtain rfl := Except.error.inj hf
      by_cases hwritten : q.Written
      · rw [nothingToSweep_of_written hwritten]
        exact .inl (.nothing _)
      · exact .inr ⟨if_neg hwritten, hq.overlong hwritten⟩

end Sweeper

namespace Draft

theorem written_error {item : Rlp.Item} {fault : Fault} (h : written item = .error fault) :
    fault = unsignable := by
  unfold written at h
  split at h
  · cases h
  · cases h
    rfl

theorem signLegacy_error {scalar nonce gasPrice gas value : Nat} {recipient : Bytes}
    {chainId? : Option Nat} {fault : Fault}
    (h : signLegacy scalar nonce gasPrice gas value recipient chainId? = .error fault) :
    fault = unsignable := by
  rcases error_of_bind h with hunsigned | ⟨unsigned, -, hsigned⟩
  · exact written_error hunsigned
  · exact written_error hsigned

theorem signFeeMarket_error {scalar chainId nonce priorityFee maxFee gas value : Nat}
    {recipient : Bytes} {fault : Fault}
    (h : signFeeMarket scalar chainId nonce priorityFee maxFee gas value recipient =
      .error fault) : fault = unsignable := by
  rcases error_of_bind h with hunsigned | ⟨unsigned, -, hsigned⟩
  · exact written_error hunsigned
  · rcases error_of_bind hsigned with hsigned | ⟨signed, -, hdone⟩
    · exact written_error hsigned
    · cases hdone

end Draft

/-- Numbers that cannot be signed are refused as such. -/
theorem Quantities.sign_error {q : Quantities} {recipient : String} {scalar : Nat} {fault : Fault}
    (h : (q.draft recipient).sign scalar = .error fault) : fault = Draft.unsignable := by
  obtain ⟨chainId, nonce, balance, gas, fees⟩ := q
  cases fees with
  | legacy gasPrice =>
    rw [draft, OfferedFees.fields, Draft.sign_legacy] at h
    exact Draft.signLegacy_error h
  | feeMarket maxFee priorityFee =>
    rw [draft, OfferedFees.fields, Draft.sign_feeMarket] at h
    exact Draft.signFeeMarket_error h

namespace Sweeper

/-- What an outcome tells about the calls of a sweep. -/
structure Tells (patience : Patience) (result : Except Fault (String × Json))
    (events : List Event) : Prop where
  /-- A sweep fails with faults of a sweep only. -/
  family : ∀ fault, result = .error fault → ∃ failure, fault = .transfer failure
  submittedOnce : events.countP Event.isSubmission ≤ 1
  submitted : events.countP Event.isSubmission = 1 ↔ TellsSubmission result
  unsubmitted : events.countP Event.isSubmission = 0 ↔ TellsNone result
  waitedOnce : events.countP Event.isWait ≤ 1
  /-- A receipt is waited for exactly under the hash that was given for what was handed in. -/
  waited : ∀ hash asked, (∃ answer, .asked (.awaitConfirmation hash asked) answer ∈ events) ↔
    asked = patience ∧ ∃ raw, .submitted raw (.ok hash) ∈ events
  /-- What is returned is the receipt that was waited for, which tells success. -/
  settled : ∀ hash receipt, result = .ok (hash, receipt) ↔
    .asked (.awaitConfirmation hash patience) (.ok receipt) ∈ events ∧
      (receipt.memberOrNull "status").equalsInt 1 = true

/-- Where only readings were made, an outcome that tells so tells all. -/
theorem TellsNone.tells {patience : Patience} {result : Except Fault (String × Json)}
    {events : List Event} (h : TellsNone result) (hr : ∀ event ∈ events, event.IsReading) :
    Tells patience result events where
  family _ hf := h.family hf
  submittedOnce := by
    rw [submissions_readings hr]
    exact Nat.zero_le 1
  submitted := by
    rw [submissions_readings hr]
    exact iff_of_false Nat.zero_ne_one h.not_submission
  unsubmitted := iff_of_true (submissions_readings hr) h
  waitedOnce := by
    rw [waits_readings hr]
    exact Nat.zero_le 1
  waited hash asked := by
    refine iff_of_false ?_ ?_
    · rintro ⟨answer, hm⟩
      exact hr _ hm
    · rintro ⟨-, raw, hm⟩
      exact hr _ hm
  settled hash receipt := by
    refine iff_of_false ?_ fun hm => hr _ hm.1
    rintro rfl
    cases h

theorem submissions_append {readings others : List Event}
    (hr : ∀ event ∈ readings, event.IsReading) :
    (readings ++ others).countP Event.isSubmission = others.countP Event.isSubmission := by
  rw [List.countP_append, submissions_readings hr, Nat.zero_add]

theorem waits_append {readings others : List Event} (hr : ∀ event ∈ readings, event.IsReading) :
    (readings ++ others).countP Event.isWait = others.countP Event.isWait := by
  rw [List.countP_append, waits_readings hr, Nat.zero_add]

theorem mem_append_iff {readings others : List Event} (hr : ∀ event ∈ readings, event.IsReading)
    {e : Event} (he : ¬ e.IsReading) : e ∈ readings ++ others ↔ e ∈ others := by
  rw [List.mem_append]
  exact or_iff_right fun hm => he (hr e hm)

/-- A refusal by the ledger tells that something was handed in and nothing waited for. -/
theorem tells_refused {readings : List Event} (hr : ∀ event ∈ readings, event.IsReading)
    (patience : Patience) (raw : Bytes) (refusal : LedgerFault) :
    Tells patience (recast unsubmitted (.error (.ledger refusal)))
      (readings ++ [.submitted raw (.error (.ledger refusal))]) where
  family fault hf := by
    cases hf
    exact ⟨_, rfl⟩
  submittedOnce := by
    rw [submissions_append hr]
    exact Nat.le_refl 1
  submitted := by
    rw [submissions_append hr]
    exact iff_of_true rfl (.refused _)
  unsubmitted := by
    rw [submissions_append hr]
    exact iff_of_false Nat.one_ne_zero fun h => nomatch h
  waitedOnce := by
    rw [waits_append hr]
    exact Nat.zero_le 1
  waited hash asked := by
    simp only [mem_append_iff hr (e := .asked (.awaitConfirmation hash asked) _) id,
      mem_append_iff hr (e := .submitted _ (.ok hash)) id]
    simp
  settled hash receipt := by
    rw [mem_append_iff hr id]
    simp [recast]

/-- How a wait for a receipt ends: with a fault of the ledger, a receipt that tells failure, or one
that tells success, which alone is returned. -/
theorem ends_of_proper {hash : String} {patience : Patience} {answer : Except Fault Json}
    (hp : (Event.asked (.awaitConfirmation hash patience) answer).Proper) :
    TellsSubmission (recast (unconfirmed hash) answer >>= concluded hash) ∧
      ∀ hash' receipt, recast (unconfirmed hash) answer >>= concluded hash = .ok (hash', receipt) ↔
        (hash' = hash ∧ .ok receipt = answer) ∧
          (receipt.memberOrNull "status").equalsInt 1 = true := by
  cases answer with
  | error fault =>
    obtain ⟨refusal, rfl⟩ := hp.refused
    exact ⟨.unconfirmed _, fun hash' receipt => by simp [recast, bind, Except.bind]⟩
  | ok receipt =>
    obtain ⟨members, rfl⟩ : ∃ members, receipt = .obj members := hp
    have hends : recast (unconfirmed hash) (.ok (.obj members)) >>= concluded hash =
        if ((Json.obj members).memberOrNull "status").equalsInt 1 then .ok (hash, .obj members)
        else .error (.transfer (.submissionFailed ("Sweep " ++ hash ++ " reverted"))) := rfl
    rw [hends]
    by_cases hone : ((Json.obj members).memberOrNull "status").equalsInt 1 = true
    · rw [if_pos hone]
      refine ⟨.settled _, fun hash' receipt => ?_⟩
      simp only [Except.ok.injEq, Prod.mk.injEq]
      constructor
      · rintro ⟨rfl, rfl⟩
        exact ⟨⟨rfl, rfl⟩, hone⟩
      · rintro ⟨⟨rfl, rfl⟩, -⟩
        exact ⟨rfl, rfl⟩
    · rw [if_neg hone]
      refine ⟨.refused _, fun hash' receipt => iff_of_false (by simp) ?_⟩
      rintro ⟨⟨-, hsame⟩, hother⟩
      cases hsame
      exact hone hother

/-- A receipt that was waited for tells that something was handed in, and is returned if it tells
success. -/
theorem tells_accepted {readings : List Event} (hr : ∀ event ∈ readings, event.IsReading)
    (raw : Bytes) {hash : String} {patience : Patience} {answer : Except Fault Json}
    (hp : (Event.asked (.awaitConfirmation hash patience) answer).Proper) :
    Tells patience (recast (unconfirmed hash) answer >>= concluded hash)
      (readings ++
        [.submitted raw (.ok hash), .asked (.awaitConfirmation hash patience) answer]) where
  family _ hf := (ends_of_proper hp).1.family hf
  submittedOnce := by
    rw [submissions_append hr]
    exact Nat.le_refl 1
  submitted := by
    rw [submissions_append hr]
    exact iff_of_true rfl (ends_of_proper hp).1
  unsubmitted := by
    rw [submissions_append hr]
    exact iff_of_false Nat.one_ne_zero fun h => h.not_submission (ends_of_proper hp).1
  waitedOnce := by
    rw [waits_append hr]
    exact Nat.le_refl 1
  waited hash' asked := by
    simp only [mem_append_iff hr (e := .asked (.awaitConfirmation hash' asked) _) id,
      mem_append_iff hr (e := .submitted _ (.ok hash')) id]
    simp [and_comm]
  settled hash' receipt := by
    rw [mem_append_iff hr id, (ends_of_proper hp).2]
    simp

/-- A sweep that was ended by a balance of too many digits: nothing was handed in, and its fault is
none of a sweep. -/
structure Unreported (sender : String) (result : Except Fault (String × Json))
    (events : List Event) : Prop where
  ended : result = .error .tooManyDigits
  reads : ∀ event ∈ events, event.IsReading
  overlong : Overlong sender events

/-- A draft of numbers that were read tells, once it is transmitted, whether it was handed in. -/
theorem Transmission.tells {sweeper : Sweeper ω} {q : Quantities} {scalar : Nat} {sender : String}
    {result : Except Fault (String × Json)} {readings others : List Event}
    (h : Transmission sweeper (q.draft sweeper.settings.treasury) scalar result others)
    (hq : sweeper.Readings sender readings q) (hr : ∀ event ∈ readings, event.IsReading)
    (hp : ∀ event ∈ others, event.Proper) :
    Unreported sender result (readings ++ others) ∨
      Tells sweeper.settings.patience result (readings ++ others) := by
  cases h with
  | unreported overlong =>
    rw [List.append_nil]
    exact .inl ⟨rfl, hr, hq.overlong fun hwritten => overlong (hwritten.reported _)⟩
  | unsigned unsigned =>
    rw [Quantities.sign_error unsigned, List.append_nil]
    exact .inr (TellsNone.tells (.unbuilt _) hr)
  | refused signed fault =>
    obtain ⟨refusal, rfl⟩ : ∃ refusal, fault = .ledger refusal := hp _ List.mem_cons_self
    exact .inr (tells_refused hr _ _ refusal)
  | accepted signed hash answer =>
    exact .inr (tells_accepted hr _ (hp _ (List.mem_cons_of_mem _ List.mem_cons_self)))

end Sweeper

end DepositGateway
