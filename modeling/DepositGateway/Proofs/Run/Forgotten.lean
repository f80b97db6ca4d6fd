import DepositGateway.Proofs.Run.Account
import DepositGateway.Proofs.Sweep.Calls

/-!
# Invoices that are forgotten

An invoice is forgotten if it is removed as expired though the ledger had accepted a sweep of it and
it was never handed to the notifier. This happens, and when it does is said without a gap.

* `Turn.CutOff`: a begun sweep, or the removal after it, ended in a fault that the poller leaves to
  its caller. `Turn.delivers_iff`: where a sweep was begun, nothing else keeps back a delivery.
* `Turn.LosesTrack`: what cuts off a turn after the ledger accepted the transaction.
* `Service.forgets_iff`: an invoice is forgotten exactly if a turn lost track of its accepted sweep,
  each turn that began to sweep it was cut off, and then it was overdue.
-/

namespace DepositGateway

variable {ω : Type}

namespace Turn

/-- The ledger accepted a transaction. -/
def Accepts (turn : Turn ω) : Prop := ∃ raw hash, .submitted raw (.ok hash) ∈ turn.events

/-- A sweep of the invoice was begun. -/
def Sweeps (turn : Turn ω) : Prop := ∃ answer, .swept turn.invoice answer ∈ turn.events

/-- The invoice was handed to the notifier. -/
def Delivers (turn : Turn ω) : Prop := ∃ invoice answer, .sent turn.key invoice answer ∈ turn.events

/-- The invoice was past its last moment and the store removed it, before anything else was done. -/
def Overdue (turn : Turn ω) : Prop :=
  ∃ reading, Poller.expiry turn.invoice reading = .ok true ∧
    turn.events = [.clockRead reading, .deleted turn.key (.ok ())]

/-- The sweep ended in a fault that is none of a sweep, or the removal after it in one that is none
of the store. -/
inductive CutOff (turn : Turn ω) : Prop
  | sweep {fault : Fault} (ended : .swept turn.invoice (.error fault) ∈ turn.events)
      (foreign : ∀ inner, fault ≠ .transfer inner)
  | removal {fault : Fault} (begun : turn.Sweeps)
      (ended : .deleted turn.key (.error fault) ∈ turn.events)
      (foreign : ∀ inner, fault ≠ .store inner)

/-- The wait for a receipt ended in a fault that is neither of the ledger nor of a sweep or with
what is no receipt, or the removal after it ended in a fault that is none of the store. -/
inductive LosesTrack (turn : Turn ω) : Prop
  | confirmation {hash : String} {patience : Patience} {fault : Fault}
      (ended : .asked (.awaitConfirmation hash patience) (.error fault) ∈ turn.events)
      (ledger : ∀ inner, fault ≠ .ledger inner) (transfer : ∀ inner, fault ≠ .transfer inner)
  | receipt {hash : String} {patience : Patience} {answer : Json}
      (ended : .asked (.awaitConfirmation hash patience) (.ok answer) ∈ turn.events)
      (shapeless : ∀ members, answer ≠ .obj members)
  | removal {fault : Fault} (ended : .deleted turn.key (.error fault) ∈ turn.events)
      (foreign : ∀ inner, fault ≠ .store inner)

end Turn

/-! ## Calls inside a sweep -/

/-- Whether a call is made at the ledger, or waits. -/
def Event.IsInner : Event → Prop
  | asked _ _ => True
  | paused _ => True
  | submitted _ _ => True
  | _ => False

namespace Sweeper

theorem SweepCourse.inner {sweeper : Sweeper ω} {invoice : Invoice}
    {result : Except Fault (String × Json)} {events : List Event}
    (h : SweepCourse sweeper invoice result events) : ∀ event ∈ events, event.IsInner := by
  have hread {event : Event} (h : event.IsReading) : event.IsInner := by
    cases event <;> first | exact h | trivial
  cases h with
  | invalidKey => simp
  | undrafted _ undrafted => exact fun event he => hread (undrafted.reads event he)
  | transmitted _ drafted transmission =>
    intro event he
    rcases List.mem_append.mp he with he | he
    · exact hread (drafted.reads event he)
    · cases transmission with
      | unreported | unsigned => cases he
      | refused =>
        cases List.mem_singleton.mp he
        trivial
      | accepted =>
        simp only [List.mem_cons, List.not_mem_nil, or_false] at he
        rcases he with rfl | rfl <;> trivial

/-- After a transaction was accepted only the wait for its receipt is left, and decides. -/
theorem SweepCourse.accepted {sweeper : Sweeper ω} {invoice : Invoice}
    {result : Except Fault (String × Json)} {events : List Event}
    (h : SweepCourse sweeper invoice result events) {raw : Bytes} {hash : String}
    (ha : .submitted raw (.ok hash) ∈ events) :
    ∃ answer, result = (recast (unconfirmed hash) answer >>= concluded hash) ∧
      ∀ hash' patience given, .asked (.awaitConfirmation hash' patience) given ∈ events ↔
        hash' = hash ∧ patience = sweeper.settings.patience ∧ given = answer := by
  cases h with
  | invalidKey => cases ha
  | undrafted _ undrafted => exact absurd ha (undrafted.not_submitted _ _)
  | transmitted _ drafted transmission =>
    rcases List.mem_append.mp ha with ha | ha
    · exact absurd ha (drafted.not_submitted _ _)
    · cases transmission with
      | unreported | unsigned => cases ha
      | refused => simp at ha
      | accepted signed hash₁ answer =>
        simp only [List.mem_cons, List.not_mem_nil, or_false, reduceCtorEq,
          Event.submitted.injEq, Except.ok.injEq] at ha
        obtain ⟨-, rfl⟩ := ha
        refine ⟨answer, rfl, fun hash' patience given => ?_⟩
        have hreadings : Event.asked (.awaitConfirmation hash' patience) given ∉ _ :=
          fun hm => drafted.reads _ hm
        simp [hreadings, and_assoc]

/-- Faults of the ledger and receipts that tell a status end the sweep as a sweep may end. -/
theorem foreign_iff (hash : String) {answer : Except Fault Json} :
    (∃ fault, (recast (unconfirmed hash) answer >>= concluded hash) = .error fault ∧
      ∀ inner, fault ≠ .transfer inner) ↔
    (∃ fault, answer = .error fault ∧ (∀ inner, fault ≠ .ledger inner) ∧
      ∀ inner, fault ≠ .transfer inner) ∨
    ∃ receipt, answer = .ok receipt ∧ ∀ members, receipt ≠ .obj members := by
  rcases answer with fault | receipt
  · rw [recast_error_bind]
    cases fault <;> simp [recast]
  · have hrecast : recast (unconfirmed hash) (.ok receipt) = .ok receipt := rfl
    rw [hrecast]
    by_cases hobj : ∃ members, receipt = .obj members
    · obtain ⟨members, rfl⟩ := hobj
      refine iff_of_false ?_ (by simp)
      rintro ⟨fault, hf, hforeign⟩
      have hf : (if ((Json.obj members).memberOrNull "status").equalsInt 1 then
          (.ok (hash, .obj members) : Except Fault (String × Json))
        else .error (.transfer (.submissionFailed ("Sweep " ++ hash ++ " reverted")))) =
          .error fault := hf
      split at hf
      · cases hf
      · cases hf
        exact hforeign _ rfl
    · have hstatus : statusOf receipt = .error .missingAttribute := by
        cases receipt <;> first | rfl | exact absurd ⟨_, rfl⟩ hobj
      refine iff_of_true ⟨.missingAttribute, ?_, by simp [Fault.missingAttribute]⟩
        (.inr ⟨receipt, rfl, fun members h => hobj ⟨members, h⟩⟩)
      show concluded hash receipt = _
      rw [concluded, hstatus]
      rfl

end Sweeper

/-! ## Turns -/

namespace Poller

/-- The poller whose sweeps are those of a sweeper. -/
def sweeping (poller : Poller ω) (sweeper : Sweeper ω) : Poller ω :=
  { poller with sweep := sweeper.sweep }

variable {poller : Poller ω} {sweeper : Sweeper ω}

theorem notes_sweeping (poller : Poller ω) (sweeper : Sweeper ω) :
    (poller.sweeping sweeper).Notes sweeper.traced.sweep := by
  intro invoice w
  obtain ⟨result, events, w', hs, -⟩ := sweeper.exists_course invoice w
  refine ⟨events, ?_⟩
  show Shows (sweeper.sweep invoice) _ w ((sweeper.sweep invoice).apply w).1 events
    ((sweeper.sweep invoice).apply w).2
  rw [hs.plain]
  exact hs

theorem Sweeps.course {invoice : Invoice} {answer : Except Fault (String × Json)}
    {inner : List Event}
    (h : (poller.sweeping sweeper).Sweeps sweeper.traced.sweep invoice answer inner) :
    sweeper.SweepCourse invoice answer inner := by
  obtain ⟨w, w', hs⟩ := h
  obtain ⟨result, events, w'', hs', hc⟩ := sweeper.exists_course invoice w
  obtain ⟨rfl, rfl, -⟩ := hs.unique hs'
  exact hc

end Poller

namespace Turn

variable {poller : Poller ω} {sweeper : Sweeper ω} {Same : ω → ω → Prop} {turn : Turn ω} {w : ω}

/-- What is called until a sweep has ended: nothing is removed or handed over, and once a
transaction was accepted the answer to the wait for its receipt decides how the sweep ends. -/
structure Until (sweeper : Sweeper ω) (calls : List Event) (ended : Except Fault (String × Json)) :
    Prop where
  sent : ∀ key invoice answer, .sent key invoice answer ∉ calls
  deleted : ∀ key answer, .deleted key answer ∉ calls
  swept : ∀ invoice answer, .swept invoice answer ∉ calls
  accepted : ∀ raw hash, .submitted raw (.ok hash) ∈ calls → ∃ answer,
    ended = (recast (Sweeper.unconfirmed hash) answer >>= Sweeper.concluded hash) ∧
    ∀ hash' patience given, .asked (.awaitConfirmation hash' patience) given ∈ calls ↔
      hash' = hash ∧ patience = sweeper.settings.patience ∧ given = answer

/-- What is called after a sweep has ended. -/
inductive After (key : InvoiceKey) : Except Fault (String × Json) → List Event → Prop
  | abandoned {fault : Fault} (foreign : ∀ inner, fault ≠ .transfer inner) :
      After key (.error fault) []
  | unremoved {swept : Except Fault (String × Json)} {fault : Fault}
      (ended : ∀ fault, swept = .error fault → ∃ inner, fault = .transfer inner)
      (foreign : ∀ inner, fault ≠ .store inner) : After key swept [.deleted key (.error fault)]
  | handedOver {swept : Except Fault (String × Json)} {deleted : Except Fault Unit}
      (ended : ∀ fault, swept = .error fault → ∃ inner, fault = .transfer inner)
      (done : ∀ fault, deleted = .error fault → ∃ inner, fault = .store inner) (invoice : Invoice)
      (sent : Except Fault Unit) : After key swept [.deleted key deleted, .sent key invoice sent]

theorem until_of_detects {opening inner : List Event} {seen : Int} {invoice : Invoice}
    {swept : Except Fault (String × Json)}
    (hd : (poller.sweeping sweeper).Detects invoice opening seen)
    (hs : (poller.sweeping sweeper).Sweeps sweeper.traced.sweep invoice swept inner) :
    Until sweeper (opening ++ inner) swept := by
  obtain ⟨reading, balance, reading', -, -, -, -, -, -, rfl⟩ := hd
  have hinner := hs.course.inner
  have hquestion (hash : String) (patience : Patience) :
      Question.awaitConfirmation hash patience ≠ Poller.balanceQuestion invoice := by
    unfold Poller.balanceQuestion
    split <;> simp
  refine ⟨fun _ _ _ h => ?_, fun _ _ h => ?_, fun _ _ h => ?_, fun raw hash ha => ?_⟩
  · exact hinner _ (by simpa using h)
  · exact hinner _ (by simpa using h)
  · exact hinner _ (by simpa using h)
  · obtain ⟨answer, hswept, hanswer⟩ := hs.course.accepted (by simpa using ha)
    refine ⟨answer, hswept, fun hash' patience given => ?_⟩
    rw [← hanswer hash' patience given]
    simp [hquestion]

theorem overdue_iff {poller : Poller ω} {sweep : Invoice → Action (Traced ω) (String × Json)}
    (hc : poller.Course sweep Same turn.key turn.invoice w turn.result turn.events turn.world) :
    turn.result = .ok .expired ∧ .deleted turn.key (.ok ()) ∈ turn.events ↔ turn.Overdue := by
  obtain ⟨key, invoice, result, events, world⟩ := turn
  dsimp only at hc ⊢
  cases hc with
  | undated | undetected => simp [Overdue]
  | @expired reading answer _ clock past removes =>
    constructor
    · rintro ⟨-, hm⟩
      obtain rfl : answer = .ok () := by simpa [eq_comm] using hm
      exact ⟨reading, past, rfl⟩
    · rintro ⟨reading', -, he⟩
      simp only [List.cons.injEq, Event.deleted.injEq, true_and, and_true] at he
      obtain ⟨-, rfl⟩ := he
      exact ⟨rfl, by simp⟩
  | unpaid => simp [Overdue]
  | abandoned detects | unremoved detects =>
    obtain ⟨reading, balance, reading', -, -, -, -, -, -, rfl⟩ := detects
    simp [Overdue]
  | handedOver sent detects sweeps ended =>
    obtain ⟨reading, balance, reading', -, -, -, -, -, -, rfl⟩ := detects
    refine iff_of_false ?_ (by simp [Overdue])
    rintro ⟨hr, -⟩
    cases hr
    rcases Poller.settlement_status ended with h | h <;> cases h

variable (hc : (poller.sweeping sweeper).Course sweeper.traced.sweep Same turn.key turn.invoice w
  turn.result turn.events turn.world)

include hc

/-- The calls of a turn that began a sweep; any other turn hands nothing in and nothing over. -/
theorem calls_of_course :
    (¬ turn.Sweeps ∧ (∀ key invoice answer, .sent key invoice answer ∉ turn.events) ∧
      ¬ turn.Accepts) ∨
    ∃ calls swept after, turn.events = calls ++ .swept turn.invoice swept :: after ∧
      Until sweeper calls swept ∧ After turn.key swept after := by
  obtain ⟨key, invoice, result, events, world⟩ := turn
  dsimp only at hc ⊢
  cases hc with
  | undated | expired | unpaid | undetected => simp [Sweeps, Accepts]
  | abandoned detects sweeps foreign =>
    obtain ⟨rfl, hforeign⟩ := Poller.settlement_eq_error.mp foreign
    exact .inr ⟨_, _, _, rfl, until_of_detects detects sweeps, .abandoned hforeign⟩
  | unremoved detects sweeps ended removes foreign =>
    obtain ⟨rfl, hforeign⟩ := Poller.tolerated_eq_error.mp foreign
    refine .inr ⟨_, _, _, rfl, until_of_detects detects sweeps, .unremoved ?_ hforeign⟩
    rintro fault rfl
    exact Poller.transfer_of_settlement ended
  | handedOver sent detects sweeps ended removes done =>
    refine .inr ⟨_, _, _, rfl, until_of_detects detects sweeps, .handedOver ?_ ?_ _ sent⟩
    · rintro fault rfl
      exact Poller.transfer_of_settlement ended
    · rintro fault rfl
      exact Poller.store_of_tolerated done

/-- Where a sweep was begun, only a cut keeps back the delivery. -/
theorem delivers_iff : turn.Delivers ↔ turn.Sweeps ∧ ¬ turn.CutOff := by
  rcases calls_of_course hc with ⟨hsweeps, hunsent, -⟩ | ⟨calls, swept, after, he, hu, ha⟩
  · refine iff_of_false ?_ fun h => hsweeps h.1
    rintro ⟨invoice, answer, hm⟩
    exact hunsent _ _ _ hm
  have hsweeps : turn.Sweeps := ⟨swept, by simp [he]⟩
  have hunsent : (∀ invoice answer, .sent turn.key invoice answer ∉ after) → ¬ turn.Delivers := by
    rintro h ⟨invoice, answer, hm⟩
    simp [he, hu.sent, h] at hm
  cases ha with
  | abandoned foreign =>
    exact iff_of_false (hunsent (by simp)) fun h => h.2 (.sweep (by simp [he]) foreign)
  | unremoved ended foreign =>
    exact iff_of_false (hunsent (by simp)) fun h => h.2 (.removal hsweeps (by simp [he]) foreign)
  | @handedOver deleted _ ended done invoice sent =>
    refine iff_of_true ⟨invoice, sent, by simp [he]⟩ ⟨hsweeps, ?_⟩
    rintro (@⟨fault, hm, foreign⟩ | @⟨fault, -, hm, foreign⟩)
    · obtain ⟨inner, hi⟩ := ended fault (by simpa [he, hu.swept, eq_comm] using hm)
      exact foreign inner hi
    · obtain ⟨inner, hi⟩ := done fault (by simpa [he, hu.deleted, eq_comm] using hm)
      exact foreign inner hi

/-- A transaction is accepted in a sweep, and from there on the turn is cut off exactly if it loses
track. -/
theorem sweeps_of_accepts (h : turn.Accepts) : turn.Sweeps ∧ (turn.CutOff ↔ turn.LosesTrack) := by
  obtain ⟨raw, hash, hm⟩ := h
  rcases calls_of_course hc with ⟨-, -, haccepts⟩ | ⟨calls, swept, after, he, hu, ha⟩
  · exact absurd ⟨raw, hash, hm⟩ haccepts
  have hcalls : .submitted raw (.ok hash) ∈ calls := by
    cases ha <;> simpa [he] using hm
  have hasked (hash' : String) (patience : Patience) (given : Except Fault Json) :
      .asked (.awaitConfirmation hash' patience) given ∈ turn.events ↔
        .asked (.awaitConfirmation hash' patience) given ∈ calls := by
    cases ha <;> simp [he]
  obtain ⟨answer, hswept, hanswer⟩ := hu.accepted raw hash hcalls
  have hsweeps : turn.Sweeps := ⟨swept, by simp [he]⟩
  refine ⟨hsweeps, ?_, ?_⟩
  · rintro (@⟨fault, hm, foreign⟩ | @⟨fault, -, hm, foreign⟩)
    · have hfault : swept = .error fault := by
        cases ha <;> simpa [he, hu.swept, eq_comm] using hm
      have hreceipt := (hasked _ _ _).mpr ((hanswer _ _ _).mpr ⟨rfl, rfl, rfl⟩)
      rcases (Sweeper.foreign_iff hash).mp ⟨fault, hswept ▸ hfault, foreign⟩ with
        ⟨inner, rfl, ledger, transfer⟩ | ⟨receipt, rfl, shapeless⟩
      · exact .confirmation hreceipt ledger transfer
      · exact .receipt hreceipt shapeless
    · exact .removal hm foreign
  · rintro (⟨hm, ledger, transfer⟩ | ⟨hm, shapeless⟩ | ⟨hm, foreign⟩)
    · obtain ⟨-, -, rfl⟩ := (hanswer _ _ _).mp ((hasked _ _ _).mp hm)
      obtain ⟨fault, hf, foreign⟩ :=
        (Sweeper.foreign_iff hash).mpr (.inl ⟨_, rfl, ledger, transfer⟩)
      rw [← hswept] at hf
      exact .sweep (by simp [he, hf]) foreign
    · obtain ⟨-, -, rfl⟩ := (hanswer _ _ _).mp ((hasked _ _ _).mp hm)
      obtain ⟨fault, hf, foreign⟩ :=
        (Sweeper.foreign_iff hash).mpr (.inr ⟨_, rfl, shapeless⟩)
      rw [← hswept] at hf
      exact .sweep (by simp [he, hf]) foreign
    · exact .removal hsweeps hm foreign

theorem key_of_sent {key : InvoiceKey} {invoice : Invoice} {answer : Except Fault Unit}
    (h : .sent key invoice answer ∈ turn.events) : key = turn.key := by
  rcases calls_of_course hc with ⟨-, hunsent, -⟩ | ⟨calls, swept, after, he, hu, ha⟩
  · exact absurd h (hunsent _ _ _)
  · rw [he] at h
    cases ha with
    | abandoned | unremoved => simp [hu.sent] at h
    | handedOver =>
      simp only [List.mem_append, hu.sent, false_or, List.mem_cons, reduceCtorEq,
        Event.sent.injEq, List.not_mem_nil, or_false] at h
      exact h.1

end Turn

/-! ## Runs -/

/-- An invoice was removed as expired though the ledger had accepted a sweep of it, and it was not
handed over before. -/
def Forgets (log : List (Happening ω)) (key : InvoiceKey) : Prop :=
  ∃ before turn after, log = before ++ .treated turn :: after ∧ turn.key = key ∧
    (turn.result = .ok .expired ∧ .deleted key (.ok ()) ∈ turn.events) ∧
    (∃ earlier, .treated earlier ∈ before ∧ earlier.key = key ∧ earlier.Accepts) ∧
    deliveries key before = 0

namespace Service

/-- A gateway and a poller whose sweeps are those of a sweeper. -/
def sweeping (gateway : Gateway ω) (poller : Poller ω) (sweeper : Sweeper ω) : Service ω where
  gateway := gateway
  poller := poller.sweeping sweeper
  sweep := sweeper.traced.sweep

variable {gateway : Gateway ω} {poller : Poller ω} {sweeper : Sweeper ω} {steps : List (Step ω)}
  {w : ω}

theorem sweeping_course {turn : Turn ω}
    (h : .treated turn ∈ ((sweeping gateway poller sweeper).log steps w).1) :
    ∃ w', (poller.sweeping sweeper).Course sweeper.traced.sweep (fun _ _ => True) turn.key
      turn.invoice w' turn.result turn.events turn.world :=
  treated_course (poller.notes_sweeping sweeper) h

/-- A key was not handed over exactly if no turn of it was. -/
theorem deliveries_eq_zero {log : List (Happening ω)}
    (hl : log ⊆ ((sweeping gateway poller sweeper).log steps w).1) (key : InvoiceKey) :
    deliveries key log = 0 ↔
      ∀ turn, .treated turn ∈ log → turn.key = key → ¬ turn.Delivers := by
  rw [deliveries, List.countP_eq_zero]
  constructor
  · rintro h turn hm rfl ⟨invoice, answer, hs⟩
    have := h _ (List.mem_flatMap.mpr ⟨_, hm, hs⟩)
    simp [Event.isSent] at this
  · intro h event hm hs
    obtain ⟨happening, hh, he⟩ := List.mem_flatMap.mp hm
    cases event with
    | sent other invoice answer =>
      obtain rfl : other = key := by simpa [Event.isSent] using hs
      cases happening with
      | ordered events w' => exact not_sent_of_ordered (hl hh) _ _ _ he
      | treated turn =>
        obtain ⟨w', hc⟩ := sweeping_course (hl hh)
        have hkey := Turn.key_of_sent hc he
        exact h turn hh hkey.symm ⟨invoice, answer, hkey ▸ he⟩
    | _ => cases hs

/-- An invoice is forgotten exactly if some turn lost track of a sweep that the ledger had accepted,
every turn that began to sweep the invoice was cut off, and the invoice was overdue after that. -/
theorem forgets_iff (gateway : Gateway ω) (poller : Poller ω) (sweeper : Sweeper ω)
    (steps : List (Step ω)) (w : ω) (key : InvoiceKey) :
    Forgets ((sweeping gateway poller sweeper).log steps w).1 key ↔
    ∃ before turn after,
      ((sweeping gateway poller sweeper).log steps w).1 = before ++ .treated turn :: after ∧
      turn.key = key ∧ turn.Overdue ∧
      (∃ earlier, .treated earlier ∈ before ∧ earlier.key = key ∧ earlier.Accepts ∧
        earlier.LosesTrack) ∧
      ∀ earlier, .treated earlier ∈ before → earlier.key = key → earlier.Sweeps →
        earlier.CutOff := by
  unfold Forgets
  refine exists_congr fun before => exists_congr fun turn => exists_congr fun after => ?_
  refine and_congr_right fun hlog => and_congr_right fun hkey => ?_
  subst hkey
  have hbefore : before ⊆ ((sweeping gateway poller sweeper).log steps w).1 := by
    rw [hlog]
    exact List.subset_append_left _ _
  obtain ⟨w', hc⟩ : ∃ w', (poller.sweeping sweeper).Course _ _ turn.key _ w' _ _ _ :=
    sweeping_course (hlog ▸ List.mem_append_right _ List.mem_cons_self)
  refine and_congr (Turn.overdue_iff hc) ?_
  rw [deliveries_eq_zero hbefore]
  constructor
  · rintro ⟨⟨earlier, hm, hk, ha⟩, hundelivered⟩
    have hcut : ∀ other, .treated other ∈ before → other.key = turn.key → other.Sweeps →
        other.CutOff := by
      intro other hm hk hs
      obtain ⟨w', hc⟩ := sweeping_course (hbefore hm)
      by_contra hwhole
      exact hundelivered other hm hk ((Turn.delivers_iff hc).mpr ⟨hs, hwhole⟩)
    obtain ⟨w', hc⟩ := sweeping_course (hbefore hm)
    obtain ⟨hs, hloses⟩ := Turn.sweeps_of_accepts hc ha
    exact ⟨⟨earlier, hm, hk, ha, hloses.mp (hcut earlier hm hk hs)⟩, hcut⟩
  · rintro ⟨⟨earlier, hm, hk, ha, -⟩, hcut⟩
    refine ⟨⟨earlier, hm, hk, ha⟩, fun other hm hk hd => ?_⟩
    obtain ⟨w', hc⟩ := sweeping_course (hbefore hm)
    obtain ⟨hs, hwhole⟩ := (Turn.delivers_iff hc).mp hd
    exact hwhole (hcut other hm hk hs)

end Service

end DepositGateway
