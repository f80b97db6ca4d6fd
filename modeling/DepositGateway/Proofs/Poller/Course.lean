import DepositGateway.Poller.Pass
import DepositGateway.Proofs.History.Traced

/-!
# The course of one invoice

`Poller.process` said once and for all: which calls it makes, in which order, with which result.

* `Poller.traced`: the poller that notes its calls. What a sweep does inside may be noted as well.
* `Poller.Course`: the seven ways in which the treatment of an invoice can go, from a clock that
  cannot be read to an invoice that was handed over. The store is only touched by a removal:
  everything else keeps any relation of worlds that the other capabilities keep (`Poller.Keeps`).
* `Poller.exists_course`: every treatment goes one of these ways.
-/

namespace DepositGateway

variable {ω : Type}

namespace Poller

/-- Sweeps of which nothing is noted inside. -/
def silentSweep (poller : Poller ω) (invoice : Invoice) : Action (Traced ω) (String × Json) :=
  Action.silent (poller.sweep invoice)

/-- The poller that notes its calls; `sweep` is the traced form of its sweeps. -/
def traced (poller : Poller ω)
    (sweep : Invoice → Action (Traced ω) (String × Json) := poller.silentSweep) :
    Poller (Traced ω) where
  store := poller.store.traced
  ledger := poller.ledger.traced
  sweep invoice := Action.noting (.swept invoice) (sweep invoice)
  notifier := poller.notifier.traced
  journal := Traced.journal poller.journal
  clock := Traced.look .clockRead poller.clock
  sleep seconds := Traced.change (.paused seconds) (poller.sleep seconds)
  stopped := Traced.look .stopRead poller.stopped
  invoiceDelay := poller.invoiceDelay
  pollerDelay := poller.pollerDelay

/-- `Same` holds from each world to the one that any call leaves which is none of the store. -/
structure Keeps (poller : Poller ω) (Same : ω → ω → Prop) : Prop where
  refl : ∀ w, Same w w
  trans : ∀ {w₁ w₂ w₃}, Same w₁ w₂ → Same w₂ w₃ → Same w₁ w₃
  clock : ∀ w, Same w (poller.clock w).2
  stopped : ∀ w, Same w (poller.stopped w).2
  sleep : ∀ seconds w, Same w (poller.sleep seconds w)
  journal : ∀ entry w, Same w (poller.journal entry w)
  nativeBalance : ∀ address w, Same w ((poller.ledger.nativeBalance address).apply w).2
  tokenBalance : ∀ token holder w, Same w ((poller.ledger.tokenBalance token holder).apply w).2
  sweep : ∀ invoice w, Same w ((poller.sweep invoice).apply w).2
  send : ∀ key invoice w, Same w ((poller.notifier.send key invoice).apply w).2

/-- Nothing at all is asked of worlds. -/
theorem keeps_true (poller : Poller ω) : poller.Keeps fun _ _ => True := by
  constructor <;> intros <;> trivial

/-- Every sweep and its traced form `sweep` end alike. -/
def Notes (poller : Poller ω) (sweep : Invoice → Action (Traced ω) (String × Json)) : Prop :=
  ∀ invoice w, ∃ inner, Shows (poller.sweep invoice) (sweep invoice) w
    ((poller.sweep invoice).apply w).1 inner ((poller.sweep invoice).apply w).2

theorem notes_silent (poller : Poller ω) : poller.Notes poller.silentSweep :=
  fun invoice w => ⟨[], Shows.silent (poller.sweep invoice) w⟩

/-! ## What answers stand for -/

/-- Whether a clock reading is past the last moment of an unpaid invoice. -/
def expiry (invoice : Invoice) (reading : Number) : Except Fault Bool :=
  reading.toInteger >>= fun now => invoice.isExpired (.int now)

/-- The question whose answer tells whether an invoice is paid. -/
def balanceQuestion (invoice : Invoice) : Question :=
  match invoice.method with
  | .native => .nativeBalance invoice.address
  | .token token => .tokenBalance token invoice.address

/-- Whether an answer to that question says that the invoice is paid. -/
def verdict (invoice : Invoice) (answer : Except Fault Json) : Except Fault Bool :=
  answer >>= fun balance => covers balance invoice.amount

/-- What a verdict other than "paid" makes of the treatment. -/
def unpaidResult : Except Fault Bool → Except Fault InvoiceStatus
  | .ok _ => .ok .pending
  | .error (.ledger _) => .ok .pending
  | .error fault => .error fault

/-- A fault of the store in a removal is only reported. -/
def tolerated : Except Fault Unit → Except Fault Unit
  | .error (.store _) => .ok ()
  | answer => answer

/-- The status and the invoice that the answer of a sweep makes. -/
def settlement (invoice : Invoice) :
    Except Fault (String × Json) → Except Fault (InvoiceStatus × Invoice)
  | .ok (hash, receipt) => .ok (.settled, { invoice with hash := .text hash, receipt })
  | .error (.transfer _) => .ok (.settlementFailed, invoice)
  | .error fault => .error fault

/-! ## Where answers come from -/

/-- `reading` is what the clock showed in some world. -/
def Reads (poller : Poller ω) (reading : Number) : Prop := ∃ w, (poller.clock w).1 = reading

/-- `answer` is what the ledger said of the balance in some world. -/
def Balances (poller : Poller ω) (invoice : Invoice) (answer : Except Fault Json) : Prop :=
  ∃ w, ((poller.balanceOf invoice).apply w).1 = answer

/-- In some world the sweep of the invoice gave `answer`, and noted `inner`. -/
def Sweeps (poller : Poller ω) (sweep : Invoice → Action (Traced ω) (String × Json))
    (invoice : Invoice) (answer : Except Fault (String × Json)) (inner : List Event) : Prop :=
  ∃ w w', Shows (poller.sweep invoice) (sweep invoice) w answer inner w'

/-- From `w` to `w'` the store was asked once to delete `key`, and gave `answer`; nothing else
touched it. -/
def Removes (poller : Poller ω) (Same : ω → ω → Prop) (key : InvoiceKey) (w : ω)
    (answer : Except Fault Unit) (w' : ω) : Prop :=
  ∃ w₁ w₂, Same w w₁ ∧ (poller.store.delete key).apply w₁ = (answer, w₂) ∧ Same w₂ w'

/-- The calls `opening` find that the invoice is paid, seen at the moment `seen`. -/
def Detects (poller : Poller ω) (invoice : Invoice) (opening : List Event) (seen : Int) : Prop :=
  ∃ reading answer reading', poller.Reads reading ∧ poller.Balances invoice answer ∧
    poller.Reads reading' ∧ expiry invoice reading = .ok false ∧
    verdict invoice answer = .ok true ∧ reading'.toInteger = .ok seen ∧
    opening = [.clockRead reading, .asked (balanceQuestion invoice) answer, .clockRead reading']

/-- The ways in which the treatment of an invoice goes, with its result, its calls and the world it
leaves. -/
inductive Course (poller : Poller ω) (sweep : Invoice → Action (Traced ω) (String × Json))
    (Same : ω → ω → Prop) (key : InvoiceKey) (invoice : Invoice) (w : ω) :
    Except Fault InvoiceStatus → List Event → ω → Prop
  /-- The clock shows no moment, or the invoice has no last moment to compare it with. -/
  | undated {reading : Number} {fault : Fault} {w' : ω} (clock : poller.Reads reading)
      (undated : expiry invoice reading = .error fault) (same : Same w w') :
      Course poller sweep Same key invoice w (.error fault) [.clockRead reading] w'
  /-- The last moment of an unpaid invoice is past. -/
  | expired {reading : Number} {answer : Except Fault Unit} {w' : ω} (clock : poller.Reads reading)
      (past : expiry invoice reading = .ok true)
      (removes : poller.Removes Same key w answer w') :
      Course poller sweep Same key invoice w ((tolerated answer).map fun _ => .expired)
        [.clockRead reading, .deleted key answer] w'
  /-- The ledger does not say that the invoice is paid. -/
  | unpaid {reading : Number} {answer : Except Fault Json} {w' : ω} (clock : poller.Reads reading)
      (within : expiry invoice reading = .ok false) (balance : poller.Balances invoice answer)
      (unpaid : verdict invoice answer ≠ .ok true) (same : Same w w') :
      Course poller sweep Same key invoice w (unpaidResult (verdict invoice answer))
        [.clockRead reading, .asked (balanceQuestion invoice) answer] w'
  /-- The invoice is paid, but the clock shows no moment at which that was seen. -/
  | undetected {reading : Number} {answer : Except Fault Json} {reading' : Number} {fault : Fault}
      {w' : ω} (clock : poller.Reads reading) (within : expiry invoice reading = .ok false)
      (balance : poller.Balances invoice answer) (paid : verdict invoice answer = .ok true)
      (clock' : poller.Reads reading') (undated : reading'.toInteger = .error fault)
      (same : Same w w') :
      Course poller sweep Same key invoice w (.error fault)
        [.clockRead reading, .asked (balanceQuestion invoice) answer, .clockRead reading'] w'
  /-- The sweep of a paid invoice ended in a fault that is none of a sweep. -/
  | abandoned {opening inner : List Event} {seen : Int} {swept : Except Fault (String × Json)}
      {fault : Fault} {w' : ω} (detects : poller.Detects invoice opening seen)
      (sweeps : poller.Sweeps sweep invoice swept inner)
      (foreign : settlement invoice swept = .error fault) (same : Same w w') :
      Course poller sweep Same key invoice w (.error fault)
        (opening ++ inner ++ [.swept invoice swept]) w'
  /-- The swept invoice could not be removed, by a fault that is none of the store. -/
  | unremoved {opening inner : List Event} {seen : Int} {swept : Except Fault (String × Json)}
      {status : InvoiceStatus} {settled : Invoice} {deleted : Except Fault Unit} {fault : Fault}
      {w' : ω} (detects : poller.Detects invoice opening seen)
      (sweeps : poller.Sweeps sweep invoice swept inner)
      (ended : settlement invoice swept = .ok (status, settled))
      (removes : poller.Removes Same key w deleted w')
      (foreign : tolerated deleted = .error fault) :
      Course poller sweep Same key invoice w (.error fault)
        (opening ++ inner ++ [.swept invoice swept, .deleted key deleted]) w'
  /-- The invoice was swept, removed and handed over. -/
  | handedOver {opening inner : List Event} {seen : Int} {swept : Except Fault (String × Json)}
      {status : InvoiceStatus} {settled : Invoice} {deleted : Except Fault Unit} {w' : ω}
      (sent : Except Fault Unit) (detects : poller.Detects invoice opening seen)
      (sweeps : poller.Sweeps sweep invoice swept inner)
      (ended : settlement invoice swept = .ok (status, settled))
      (removes : poller.Removes Same key w deleted w') (done : tolerated deleted = .ok ()) :
      Course poller sweep Same key invoice w (.ok status)
        (opening ++ inner ++ [.swept invoice swept, .deleted key deleted,
          .sent key { settled with paidAt := .int seen } sent]) w'

theorem Sweeps.silent {poller : Poller ω} {invoice : Invoice}
    {answer : Except Fault (String × Json)} {inner : List Event}
    (h : poller.Sweeps poller.silentSweep invoice answer inner) : inner = [] := by
  obtain ⟨w, w', hs⟩ := h
  exact (hs.unique (Shows.silent (poller.sweep invoice) w)).2.1

/-- A sweep gives hash and receipt, or a fault that is one of a sweep. -/
def SweepsEnd (poller : Poller ω) : Prop :=
  ∀ invoice w, (∃ done, ((poller.sweep invoice).apply w).1 = .ok done) ∨
    ∃ fault, ((poller.sweep invoice).apply w).1 = .error (.transfer fault)

theorem Sweeps.ends {poller : Poller ω} {sweep : Invoice → Action (Traced ω) (String × Json)}
    {invoice : Invoice} {answer : Except Fault (String × Json)} {inner : List Event}
    (h : poller.Sweeps sweep invoice answer inner) (he : poller.SweepsEnd) :
    (∃ done, answer = .ok done) ∨ ∃ fault, answer = .error (.transfer fault) := by
  obtain ⟨w, w', hs⟩ := h
  have := he invoice w
  rwa [hs.plain] at this

theorem unpaidResult_ok {verdict : Except Fault Bool} {status : InvoiceStatus}
    (h : unpaidResult verdict = .ok status) : status = .pending := by
  unfold unpaidResult at h
  split at h <;> cases h <;> rfl

theorem settlement_status {invoice settled : Invoice} {answer : Except Fault (String × Json)}
    {status : InvoiceStatus} (h : settlement invoice answer = .ok (status, settled)) :
    status = .settled ∨ status = .settlementFailed := by
  unfold settlement at h
  split at h <;> cases h
  · exact .inl rfl
  · exact .inr rfl

theorem settlement_ne_error {invoice : Invoice} {answer : Except Fault (String × Json)}
    (h : (∃ done, answer = .ok done) ∨ ∃ fault, answer = .error (.transfer fault)) (fault : Fault) :
    settlement invoice answer ≠ .error fault := by
  rcases h with ⟨⟨hash, receipt⟩, rfl⟩ | ⟨fault', rfl⟩ <;> simp [settlement]

theorem settlement_eq_error {invoice : Invoice} {answer : Except Fault (String × Json)}
    {fault : Fault} : settlement invoice answer = .error fault ↔
      answer = .error fault ∧ ∀ inner, fault ≠ .transfer inner := by
  rcases answer with (_ | _ | _ | _ | _) | ⟨hash, receipt⟩ <;> simp [settlement] <;>
    rintro rfl <;> simp

theorem tolerated_eq_error {answer : Except Fault Unit} {fault : Fault} :
    tolerated answer = .error fault ↔ answer = .error fault ∧ ∀ inner, fault ≠ .store inner := by
  rcases answer with (_ | _ | _ | _ | _) | _ <;> simp [tolerated] <;> rintro rfl <;> simp

theorem transfer_of_settlement {invoice : Invoice} {fault : Fault}
    {ended : InvoiceStatus × Invoice} (h : settlement invoice (.error fault) = .ok ended) :
    ∃ inner, fault = .transfer inner := by
  cases fault with
  | transfer inner => exact ⟨inner, rfl⟩
  | _ => cases h

theorem store_of_tolerated {fault : Fault} (h : tolerated (.error fault) = .ok ()) :
    ∃ inner, fault = .store inner := by
  cases fault with
  | store inner => exact ⟨inner, rfl⟩
  | _ => cases h

/-! ## One account for each function -/

section

variable {poller : Poller ω} {sweep : Invoice → Action (Traced ω) (String × Json)}
  {Same : ω → ω → Prop}

theorem Removes.after {key : InvoiceKey} {answer : Except Fault Unit} {w₀ w w' : ω}
    (hk : poller.Keeps Same) (h : Same w₀ w) (hr : poller.Removes Same key w answer w') :
    poller.Removes Same key w₀ answer w' := by
  obtain ⟨w₁, w₂, h₁, hd, h₂⟩ := hr
  exact ⟨w₁, w₂, hk.trans h h₁, hd, h₂⟩

theorem Removes.before {key : InvoiceKey} {answer : Except Fault Unit} {w w' w₃ : ω}
    (hk : poller.Keeps Same) (hr : poller.Removes Same key w answer w') (h : Same w' w₃) :
    poller.Removes Same key w answer w₃ := by
  obtain ⟨w₁, w₂, h₁, hd, h₂⟩ := hr
  exact ⟨w₁, w₂, h₁, hd, hk.trans h₂ h⟩

variable (sweep)

theorem now_shows (poller : Poller ω) (w : ω) :
    Shows poller.now (poller.traced sweep).now w (poller.clock w).1.toInteger
      [.clockRead (poller.clock w).1] (poller.clock w).2 :=
  (Shows.look .clockRead poller.clock w).bind (Shows.ofExcept _ _)

theorem remove_shows (hk : poller.Keeps Same) (key : InvoiceKey) (w : ω) :
    ∃ answer w', Shows (poller.remove key) ((poller.traced sweep).remove key) w (tolerated answer)
      [.deleted key answer] w' ∧ poller.Removes Same key w answer w' := by
  rcases h : (poller.store.delete key).apply w with ⟨answer, w₁⟩
  have hd := (Shows.recorded (.deleted key) (poller.store.delete key) w).attempt
  rw [h] at hd
  refine ⟨answer, ?_⟩
  unfold remove
  rcases answer with fault | _
  · rcases fault with _ | fault | _ | _ | _
    case store =>
      rcases fault with _ | _ | _ | _ | _ <;>
        exact ⟨_, hd.bind (Shows.report _ _ _ _ _), w, w₁, hk.refl _, h, hk.journal _ _⟩
    all_goals exact ⟨_, hd.bind (Shows.fail _ _), w, w₁, hk.refl _, h, hk.refl _⟩
  · exact ⟨_, hd.bind (Shows.pure _ _), w, w₁, hk.refl _, h, hk.refl _⟩

theorem balanceOf_shows (hk : poller.Keeps Same) (invoice : Invoice) (w : ω) :
    ∃ answer w', Shows (poller.balanceOf invoice) ((poller.traced sweep).balanceOf invoice) w answer
      [.asked (balanceQuestion invoice) answer] w' ∧ poller.Balances invoice answer ∧
      Same w w' := by
  refine ⟨((poller.balanceOf invoice).apply w).1, ((poller.balanceOf invoice).apply w).2, ?_,
    ⟨w, rfl⟩, ?_⟩
  · unfold balanceOf balanceQuestion
    cases invoice.method with
    | native => exact Shows.recorded _ _ _
    | token token => exact Shows.recorded _ _ _
  · unfold balanceOf
    cases invoice.method with
    | native => exact hk.nativeBalance _ _
    | token token => exact hk.tokenBalance _ _ _

theorem isPaid_shows (hk : poller.Keeps Same) (invoice : Invoice) (w : ω) :
    ∃ answer w', Shows (poller.isPaid invoice) ((poller.traced sweep).isPaid invoice) w
      (verdict invoice answer) [.asked (balanceQuestion invoice) answer] w' ∧
      poller.Balances invoice answer ∧ Same w w' := by
  obtain ⟨answer, w', hs, hb, h⟩ := balanceOf_shows sweep hk invoice w
  refine ⟨answer, w', ?_, hb, h⟩
  unfold isPaid verdict
  cases answer with
  | error fault => exact hs.bind_error
  | ok balance => exact hs.bind (Shows.ofExcept _ _)

theorem warnOfTokens_shows (hk : poller.Keeps Same) (key : InvoiceKey) (invoice : Invoice)
    (w : ω) :
    ∃ w', Shows (poller.warnOfTokens key invoice) ((poller.traced sweep).warnOfTokens key invoice) w
      (.ok ()) [] w' ∧ Same w w' := by
  unfold warnOfTokens
  cases invoice.method with
  | native => exact ⟨w, Shows.pure _ _, hk.refl _⟩
  | token token => exact ⟨_, Shows.report _ _ _ _ _, hk.journal _ _⟩

theorem deliver_shows (hk : poller.Keeps Same) (key : InvoiceKey) (invoice : Invoice) (w : ω) :
    ∃ answer done w', Shows (deliver poller.notifier poller.journal key invoice)
      (deliver (poller.traced sweep).notifier (poller.traced sweep).journal key invoice) w
      (.ok done) [.sent key invoice answer] w' ∧ Same w w' := by
  have hs := (Shows.recorded (.sent key invoice) (poller.notifier.send key invoice) w).attempt
  have hsame := hk.send key invoice w
  rcases h : (poller.notifier.send key invoice).apply w with ⟨answer, w₁⟩
  simp only [h] at hs hsame
  refine ⟨answer, ?_⟩
  unfold deliver
  rcases answer with fault | _
  · refine ⟨false, ?_⟩
    rcases fault with _ | _ | _ | _ | ⟨cause, text⟩
    case other =>
      cases cause
      all_goals exact ⟨_, hs.bind_quiet ((Shows.report _ _ _ _ _).bind_quiet (Shows.pure _ _)),
        hk.trans hsame (hk.journal _ _)⟩
    all_goals exact ⟨_, hs.bind_quiet ((Shows.report _ _ _ _ _).bind_quiet (Shows.pure _ _)),
      hk.trans hsame (hk.journal _ _)⟩
  · exact ⟨true, w₁, hs.bind_quiet (Shows.pure _ _), hsame⟩

/-- What was swept is removed and handed over, unless the removal fails in a way of its own. -/
theorem finish_shows (hk : poller.Keeps Same) (key : InvoiceKey) (warned invoice : Invoice)
    (status : InvoiceStatus) (w : ω) :
    ∃ answer result events w',
      Shows
        (do
          poller.warnOfTokens key warned
          poller.remove key
          let _ ← deliver poller.notifier poller.journal key invoice
          return status)
        (do
          (poller.traced sweep).warnOfTokens key warned
          (poller.traced sweep).remove key
          let _ ← deliver (poller.traced sweep).notifier (poller.traced sweep).journal key invoice
          return status)
        w result (.deleted key answer :: events) w' ∧
      poller.Removes Same key w answer w' ∧
      ((∃ fault, tolerated answer = .error fault ∧ result = .error fault ∧ events = []) ∨
        ∃ sent, tolerated answer = .ok () ∧ result = .ok status ∧
          events = [.sent key invoice sent]) := by
  obtain ⟨w₁, hwarn, hsame⟩ := warnOfTokens_shows sweep hk key warned w
  obtain ⟨answer, w₂, hremove, hr⟩ := remove_shows sweep hk key w₁
  refine ⟨answer, ?_⟩
  cases h : tolerated answer with
  | error fault =>
    rw [h] at hremove
    exact ⟨_, _, _, hwarn.bind hremove.bind_error, hr.after hk hsame,
      .inl ⟨fault, rfl, rfl, rfl⟩⟩
  | ok done =>
    rw [h] at hremove
    obtain ⟨sent, delivered, w₃, hsend, hsame'⟩ :=
      deliver_shows sweep hk key invoice w₂
    exact ⟨_, _, _, hwarn.bind (hremove.bind (hsend.bind_quiet (Shows.pure _ _))),
      (hr.after hk hsame).before hk hsame', .inr ⟨sent, rfl, rfl, rfl⟩⟩

variable {sweep}

theorem settle_shows (hk : poller.Keeps Same) (hw : poller.Notes sweep)
    (key : InvoiceKey) (invoice : Invoice) (w : ω) :
    ∃ swept inner w', Shows (poller.settle key invoice) ((poller.traced sweep).settle key invoice) w
      (settlement invoice swept) (inner ++ [.swept invoice swept]) w' ∧
      poller.Sweeps sweep invoice swept inner ∧ Same w w' := by
  obtain ⟨inner, hs⟩ := hw invoice w
  have hsame := hk.sweep invoice w
  rcases h : (poller.sweep invoice).apply w with ⟨swept, w₁⟩
  simp only [h] at hs hsame
  have ha := (hs.noting (.swept invoice)).attempt
  refine ⟨swept, inner, ?_⟩
  unfold settle settlement
  rcases swept with fault | ⟨hash, receipt⟩
  · rcases fault with _ | _ | _ | fault | _
    case transfer =>
      exact ⟨_, ha.bind_quiet ((Shows.report _ _ _ _ _).bind_quiet (Shows.pure _ _)),
        ⟨w, w₁, hs⟩, hk.trans hsame (hk.journal _ _)⟩
    all_goals exact ⟨w₁, ha.bind_quiet (Shows.fail _ _), ⟨w, w₁, hs⟩, hsame⟩
  · exact ⟨w₁, ha.bind_quiet (Shows.pure _ _), ⟨w, w₁, hs⟩, hsame⟩

theorem handlePaid_shows (hk : poller.Keeps Same) (hw : poller.Notes sweep)
    {reading : Number} {answer : Except Fault Json} {invoice : Invoice}
    (clock : poller.Reads reading) (within : expiry invoice reading = .ok false)
    (balance : poller.Balances invoice answer) (paid : verdict invoice answer = .ok true)
    (key : InvoiceKey) {w₀ w : ω} (hsame : Same w₀ w) :
    ∃ result events w', Shows (poller.handlePaid key invoice)
      ((poller.traced sweep).handlePaid key invoice) w result events w' ∧
      poller.Course sweep Same key invoice w₀ result
        (.clockRead reading :: .asked (balanceQuestion invoice) answer :: events) w' := by
  have hnow := now_shows sweep poller w
  have hsame₁ := hk.trans hsame (hk.clock w)
  have clock' : poller.Reads (poller.clock w).1 := ⟨w, rfl⟩
  generalize (poller.clock w).1 = reading' at hnow clock'
  generalize (poller.clock w).2 = w₁ at hnow hsame₁
  cases hseen : reading'.toInteger with
  | error fault =>
    rw [hseen] at hnow
    exact ⟨_, _, _, hnow.bind_error,
      .undetected clock within balance paid clock' hseen hsame₁⟩
  | ok seen =>
    rw [hseen] at hnow
    have detects : poller.Detects invoice
        [.clockRead reading, .asked (balanceQuestion invoice) answer, .clockRead reading'] seen :=
      ⟨reading, answer, reading', clock, balance, clock', within, paid, hseen, rfl⟩
    have hinfo := Shows.report poller.journal .poller .info ("Payment detected for invoice " ++
      key.display ++ ", starting transfer to treasury") w₁
    have hsame₂ := hk.trans hsame₁ (hk.journal { level := .info, source := .poller, text :=
      "Payment detected for invoice " ++ key.display ++ ", starting transfer to treasury" } w₁)
    obtain ⟨swept, inner, w₂, hsettle, sweeps, hsame₃⟩ := settle_shows hk hw key invoice
      (poller.journal { level := .info, source := .poller, text :=
        "Payment detected for invoice " ++ key.display ++ ", starting transfer to treasury" } w₁)
    have hsame₄ := hk.trans hsame₂ hsame₃
    cases hended : settlement invoice swept with
    | error fault =>
      rw [hended] at hsettle
      exact ⟨_, _, _, hnow.bind (hinfo.bind hsettle.bind_error),
        .abandoned detects sweeps hended hsame₄⟩
    | ok ended =>
      obtain ⟨status, settled⟩ := ended
      rw [hended] at hsettle
      obtain ⟨answer', result, events, w₃, hfinish, removes, hcases⟩ :=
        finish_shows sweep hk key settled { settled with paidAt := .int seen } status w₂
      have removes₀ := removes.after hk hsame₄
      refine ⟨_, _, _, hnow.bind (hinfo.bind (hsettle.bind hfinish)), ?_⟩
      rcases hcases with ⟨fault, hforeign, rfl, rfl⟩ | ⟨sent, hdone, rfl, rfl⟩
      · simpa using Course.unremoved detects sweeps hended removes₀ hforeign
      · simpa using Course.handedOver sent detects sweeps hended removes₀ hdone

/-- The treatment of an invoice goes one of the seven ways. -/
theorem exists_course (hk : poller.Keeps Same) (hw : poller.Notes sweep)
    (key : InvoiceKey) (invoice : Invoice) (w : ω) :
    ∃ result events w', Shows (poller.process key invoice)
      ((poller.traced sweep).process key invoice) w result events w' ∧
      poller.Course sweep Same key invoice w result events w' := by
  have hnow := now_shows sweep poller w
  have hsame₁ := hk.clock w
  have clock : poller.Reads (poller.clock w).1 := ⟨w, rfl⟩
  generalize (poller.clock w).1 = reading at hnow clock
  generalize (poller.clock w).2 = w₁ at hnow hsame₁
  unfold process
  cases hnum : reading.toInteger with
  | error fault =>
    rw [hnum] at hnow
    have undated : expiry invoice reading = .error fault := by
      simp [expiry, hnum, bind, Except.bind]
    exact ⟨_, _, _, hnow.bind_error, .undated clock undated hsame₁⟩
  | ok now =>
    rw [hnum] at hnow
    have hexpiry : expiry invoice reading = invoice.isExpired (.int now) := by
      simp [expiry, hnum, bind, Except.bind]
    cases hpast : invoice.isExpired (.int now) with
    | error fault =>
      exact ⟨_, _, _, hnow.bind (Shows.bind_error (Shows.known hpast _)),
        .undated clock (hexpiry.trans hpast) hsame₁⟩
    | ok past =>
      cases past with
      | true =>
        obtain ⟨answer, w₂, hremove, hr⟩ := remove_shows sweep hk key
          (poller.journal { level := .info, source := .poller, text :=
            "Invoice " ++ key.display ++ " expired" } w₁)
        have removes := hr.after hk (hk.trans hsame₁ (hk.journal _ _))
        cases hdone : tolerated answer with
        | error fault =>
          rw [hdone] at hremove
          refine ⟨_, _, _, hnow.bind ((Shows.known hpast _).bind
            ((Shows.report _ _ _ _ _).bind hremove.bind_error)), ?_⟩
          simpa [hdone, Except.map] using Course.expired clock (hexpiry.trans hpast) removes
        | ok done =>
          rw [hdone] at hremove
          refine ⟨_, _, _, hnow.bind ((Shows.known hpast _).bind
            ((Shows.report _ _ _ _ _).bind (hremove.bind_quiet (Shows.pure _ _)))), ?_⟩
          simpa [hdone, Except.map] using Course.expired clock (hexpiry.trans hpast) removes
      | false =>
        have within := hexpiry.trans hpast
        obtain ⟨answer, w₂, hpaid, balance, hsame₂⟩ :=
          isPaid_shows sweep hk invoice w₁
        have hsame₃ := hk.trans hsame₁ hsame₂
        have hseen := hpaid.attempt
        cases hverdict : verdict invoice answer with
        | ok paid =>
          rw [hverdict] at hseen
          cases paid with
          | true =>
            obtain ⟨result, events, w₃, hhandle, hcourse⟩ :=
              handlePaid_shows hk hw clock within balance hverdict key hsame₃
            exact ⟨_, _, _, hnow.bind ((Shows.known hpast _).bind (hseen.bind hhandle)), hcourse⟩
          | false =>
            refine ⟨_, _, _, hnow.bind ((Shows.known hpast _).bind
              (hseen.bind_quiet (Shows.pure _ _))), ?_⟩
            simpa [hverdict, unpaidResult] using
              Course.unpaid clock within balance (by simp [hverdict]) hsame₃
        | error fault =>
          rw [hverdict] at hseen
          have unpaid : verdict invoice answer ≠ .ok true := by simp [hverdict]
          rcases fault with _ | _ | fault | _ | _
          case ledger =>
            refine ⟨_, _, _, hnow.bind ((Shows.known hpast _).bind (hseen.bind_quiet
              ((Shows.report _ _ _ _ _).bind_quiet (Shows.pure _ _)))), ?_⟩
            simpa [hverdict, unpaidResult] using
              Course.unpaid clock within balance unpaid (hk.trans hsame₃ (hk.journal _ _))
          all_goals
            refine ⟨_, _, _, hnow.bind ((Shows.known hpast _).bind
              (hseen.bind_quiet (Shows.fail _ _))), ?_⟩
            simpa [hverdict, unpaidResult] using Course.unpaid clock within balance unpaid hsame₃

end

end Poller

end DepositGateway
