import DepositGateway.Notice.Webhook
import DepositGateway.Proofs.Run.Account
import DepositGateway.Proofs.Station.Keeping
import Mathlib.Data.List.Pairwise

/-!
# What is handed over is labelled truthfully

An invoice is created, kept, treated in pass after pass, and handed over once a sweep of it has
ended. All the way it has what it was created with; the rest of what is handed over tells what
became of it in that one turn.

* `ComesFrom`: where in a log an invoice that is kept comes from. `Traces`: a log in which at any
  time all that is kept, and all that is treated, comes from it.
* `Sweeper.SweepCourse.confirmed_iff`: a sweep ends well exactly if a receipt with status 1 came.
* `Labels`: a notice as it should be.
* `Station.labels_truthfully`: in every run everything is labelled so.
-/

namespace DepositGateway

variable {σ ω : Type}

/-! ## Confirmations -/

/-- A wait for a receipt ended with one of status 1. -/
def Confirmed (events : List Event) : Prop :=
  ∃ hash patience receipt, .asked (.awaitConfirmation hash patience) (.ok receipt) ∈ events ∧
    (receipt.memberOrNull "status").equalsInt 1 = true

namespace Sweeper

theorem concluded_ok_iff (hash : String) (receipt : Json) :
    (∃ done, concluded hash receipt = .ok done) ↔
      (receipt.memberOrNull "status").equalsInt 1 = true := by
  cases receipt with
  | obj members =>
    have hconcluded : concluded hash (.obj members) =
        if ((Json.obj members).memberOrNull "status").equalsInt 1 then .ok (hash, .obj members)
        else .error (.transfer (.submissionFailed ("Sweep " ++ hash ++ " reverted"))) := rfl
    rw [hconcluded]
    split
    · next hone => exact iff_of_true ⟨_, rfl⟩ hone
    · next hother => exact iff_of_false (by simp) hother
  | _ =>
    -- Nothing but an object tells a status.
    refine iff_of_false ?_ (fun hone => Bool.noConfusion hone)
    rintro ⟨done, hdone⟩
    cases hdone

/-- Only an object can be the receipt of a sweep that ended well. -/
theorem receipt_ne_null {hash : String} {receipt : Json} {done : String × Json}
    (h : concluded hash receipt = .ok done) : receipt ≠ .null := by
  rintro rfl
  cases h

variable {sweeper : Sweeper ω} {invoice : Invoice} {result : Except Fault (String × Json)}
  {events : List Event}

theorem DraftCourse.not_confirmed {address : String} {drafted : Except Fault Draft}
    (h : DraftCourse sweeper address drafted events) : ¬ Confirmed events := by
  rintro ⟨hash, patience, receipt, hmem, -⟩
  exact h.reads _ hmem

/-- A sweep ends well exactly if a receipt with status 1 came. -/
theorem SweepCourse.confirmed_iff (h : SweepCourse sweeper invoice result events) :
    Confirmed events ↔ ∃ done, result = .ok done := by
  cases h with
  | invalidKey => exact iff_of_false (by simp [Confirmed]) (by simp)
  | undrafted _ undrafted => exact iff_of_false undrafted.not_confirmed (by simp)
  | @transmitted _ _ _ readings others _ drafted transmission =>
    have hothers : Confirmed (readings ++ others) ↔ Confirmed others := by
      constructor
      · rintro ⟨hash, patience, receipt, hmem, hone⟩
        rcases List.mem_append.mp hmem with hmem | hmem
        · exact absurd ⟨hash, patience, receipt, hmem, hone⟩ drafted.not_confirmed
        · exact ⟨hash, patience, receipt, hmem, hone⟩
      · rintro ⟨hash, patience, receipt, hmem, hone⟩
        exact ⟨hash, patience, receipt, List.mem_append_right _ hmem, hone⟩
    rw [hothers]
    cases transmission with
    | unreported | unsigned => exact iff_of_false (by simp [Confirmed]) (by simp)
    | refused _ fault =>
      refine iff_of_false (by simp [Confirmed]) ?_
      rintro ⟨done, hdone⟩
      cases recast_eq_ok.mp hdone
    | accepted _ hash answer =>
      cases answer with
      | error fault =>
        rw [recast_error_bind]
        refine iff_of_false (by simp [Confirmed]) ?_
        rintro ⟨done, hdone⟩
        cases recast_eq_ok.mp hdone
      | ok receipt =>
        refine Iff.trans ?_ (concluded_ok_iff hash receipt).symm
        constructor
        · rintro ⟨hash', patience, receipt', hmem, hone⟩
          simp only [List.mem_cons, reduceCtorEq, false_or, List.not_mem_nil, or_false,
            Event.asked.injEq, Except.ok.injEq] at hmem
          rwa [← hmem.2]
        · exact fun hone => ⟨hash, sweeper.settings.patience, receipt, by simp, hone⟩

/-- The receipt of a sweep that ended well is none that is absent. -/
theorem SweepCourse.receipt_ne_null {hash : String} {receipt : Json}
    (h : SweepCourse sweeper invoice (.ok (hash, receipt)) events) : receipt ≠ .null := by
  generalize hdone : Except.ok (hash, receipt) = result at h
  cases h with
  | invalidKey => cases hdone
  | undrafted => cases hdone
  | transmitted _ _ transmission =>
    cases transmission with
    | unreported | unsigned => cases hdone
    | refused => cases recast_eq_ok.mp hdone.symm
    | accepted _ hash' answer =>
      obtain ⟨given, -, hconcluded⟩ := ok_of_bind hdone.symm
      cases concluded_eq_ok hconcluded
      exact Sweeper.receipt_ne_null hconcluded

end Sweeper

theorem SecretKey.length_addressOf (scalar : Nat) : (addressOf scalar).length = 20 := by
  rw [addressOf, List.length_drop, length_keccak256]

/-! ## Labels -/

/-- What is handed over in a turn, where it was created as `made`. -/
structure Labels (backend : Backend σ) (turn : Turn (Premises σ ω)) (made notice : Invoice) :
    Prop where
  terms : backend.SameTerms made notice
  /-- The moment of payment is what the clock read once the balance was found to be enough. -/
  paidAt : ∃ reading balance reading' seen rest,
    turn.events = .clockRead reading :: .asked (Poller.balanceQuestion notice) (.ok balance) ::
      .clockRead reading' :: rest ∧
    Poller.covers balance notice.amount = .ok true ∧ reading'.toInteger = .ok seen ∧
    notice.paidAt = .int seen
  settled : notice.hash ≠ .null ∧ notice.receipt ≠ .null ↔ turn.result = .ok .settled
  failed : notice.hash = .null ∧ notice.receipt = .null ↔ turn.result = .ok .settlementFailed
  /-- What a web hook is told. -/
  event : ∀ (hook : Webhook) (key : InvoiceKey),
    ((hook.payload key notice).memberOrNull "event" = .text "invoice_settled" ↔
      Confirmed turn.events) ∧
    ((hook.payload key notice).memberOrNull "event" = .text "invoice_sweep_failed" ↔
      ¬ Confirmed turn.events)

/-- The event that a web hook is told is whether there is a receipt. -/
theorem Webhook.event_payload (hook : Webhook) (key : InvoiceKey) (notice : Invoice) :
    ((hook.payload key notice).memberOrNull "event" = .text "invoice_settled" ↔
      notice.receipt ≠ .null) ∧
    ((hook.payload key notice).memberOrNull "event" = .text "invoice_sweep_failed" ↔
      notice.receipt = .null) := by
  have hdiffer : Json.text "invoice_settled" ≠ .text "invoice_sweep_failed" := by decide
  show (Json.text (event notice) = _ ↔ _) ∧ (Json.text (event notice) = _ ↔ _)
  by_cases h : notice.receipt = .null
  · have hevent : event notice = "invoice_sweep_failed" := by simp [event, Invoice.hasReceipt, h]
    rw [hevent]
    exact ⟨iff_of_false hdiffer.symm (not_not_intro h), iff_of_true rfl h⟩
  · have hevent : event notice = "invoice_settled" := by simp [event, Invoice.hasReceipt, h]
    rw [hevent]
    exact ⟨iff_of_true rfl h, iff_of_false hdiffer h⟩

section

variable {station : Station ω} {backend : Backend σ} {Same : Premises σ ω → Premises σ ω → Prop}

/-- In the opening of a treatment nothing is confirmed, and nothing is handed over. -/
theorem confirmed_opening {invoice : Invoice} {opening events : List Event} {seen : Int}
    (h : (station.poller backend).Detects invoice opening seen) :
    Confirmed (opening ++ events) ↔ Confirmed events := by
  obtain ⟨reading, answer, reading', -, -, -, -, -, -, rfl⟩ := h
  have hquestion (hash : String) (patience : Patience) :
      Question.awaitConfirmation hash patience ≠ Poller.balanceQuestion invoice := by
    unfold Poller.balanceQuestion
    split <;> simp
  simp [Confirmed, hquestion]

/-- A notice of a turn that treats an outstanding invoice is labelled as it should be. -/
theorem Labels.of_course {turn : Turn (Premises σ ω)} {made notice : Invoice} {key : InvoiceKey}
    {answer : Except Fault Unit} {w : Premises σ ω}
    (hc : (station.poller backend).Course station.tracedSweep Same turn.key turn.invoice w
      turn.result turn.events turn.world)
    (hterms : backend.SameTerms made turn.invoice) (hopen : turn.invoice.Outstanding)
    (hsent : .sent key notice answer ∈ turn.events) :
    key = turn.key ∧ Labels backend turn made notice := by
  obtain ⟨turnKey, invoice, result, events, world⟩ := turn
  dsimp only at hc hterms hopen hsent ⊢
  cases hc with
  | undated | expired | unpaid | undetected => simp at hsent
  | abandoned detects sweeps =>
    obtain ⟨reading, balance, reading', -, -, -, -, -, -, rfl⟩ := detects
    have hinner := (Station.sweeps_course sweeps).inner
    exact absurd (hinner _ (by simpa using hsent)) id
  | unremoved detects sweeps =>
    obtain ⟨reading, balance, reading', -, -, -, -, -, -, rfl⟩ := detects
    have hinner := (Station.sweeps_course sweeps).inner
    exact absurd (hinner _ (by simpa using hsent)) id
  | @handedOver opening inner seen swept status settled deleted _ sent detects sweeps ended =>
    have hcourse := Station.sweeps_course sweeps
    have hconfirmed : Confirmed (opening ++ inner ++ [.swept invoice swept,
        .deleted turnKey deleted, .sent turnKey { settled with paidAt := .int seen } sent]) ↔
        ∃ done, swept = .ok done := by
      rw [List.append_assoc, confirmed_opening detects, ← hcourse.confirmed_iff]
      simp [Confirmed]
    obtain ⟨reading, balance, reading', -, -, -, within, paid, hseen, rfl⟩ := detects
    obtain ⟨balance, rfl, hcovers⟩ := ok_of_bind paid
    have hnotice : .sent key notice answer =
        Event.sent turnKey { settled with paidAt := .int seen } sent := by
      rcases List.mem_append.mp hsent with hsent | hsent
      · have hinner : .sent key notice answer ∈ inner := by simpa using hsent
        exact absurd (hcourse.inner _ hinner) id
      · simpa using hsent
    obtain ⟨rfl, rfl, rfl⟩ := Event.sent.inj hnotice
    refine ⟨rfl, ?_⟩
    cases swept with
    | ok done =>
      obtain ⟨hash, receipt⟩ := done
      cases ended
      have hreceipt : receipt ≠ .null := hcourse.receipt_ne_null
      exact {
        terms := ⟨hterms.address, hterms.wallet, hterms.amount, hterms.method, hterms.message,
          hterms.expires⟩
        paidAt := ⟨reading, balance, reading', seen, _, rfl, hcovers, hseen, rfl⟩
        settled := iff_of_true ⟨by simp [Json.text], hreceipt⟩ rfl
        failed := iff_of_false (fun h => hreceipt h.2) (by simp)
        event := fun hook key => by
          obtain ⟨hsettled, hfailed⟩ := hook.event_payload key
            { invoice with paidAt := .int seen, hash := .text hash, receipt }
          rw [hconfirmed]
          exact ⟨hsettled.trans (iff_of_true hreceipt ⟨_, rfl⟩),
            hfailed.trans (iff_of_false hreceipt (not_not_intro ⟨_, rfl⟩))⟩ }
    | error fault =>
      obtain ⟨inner, rfl⟩ := Poller.transfer_of_settlement ended
      cases ended
      exact {
        terms := ⟨hterms.address, hterms.wallet, hterms.amount, hterms.method, hterms.message,
          hterms.expires⟩
        paidAt := ⟨reading, balance, reading', seen, _, rfl, hcovers, hseen, rfl⟩
        settled := iff_of_false (fun h => h.2 hopen.receipt) (by simp)
        failed := iff_of_true ⟨hopen.hash, hopen.receipt⟩ rfl
        event := fun hook key => by
          obtain ⟨hsettled, hfailed⟩ := hook.event_payload key
            { invoice with paidAt := .int seen }
          rw [hconfirmed]
          exact ⟨hsettled.trans (iff_of_false (not_not_intro hopen.receipt) (by simp)),
            hfailed.trans (iff_of_true hopen.receipt (by simp))⟩ }

end

/-! ## Where invoices come from -/

/-- An entry of the log stored an invoice under a text, and the store said that this went well. -/
def Stored (log : List (Happening ω)) (id : String) (made : Invoice) : Prop :=
  ∃ happening ∈ log, .stored (.text id) made (.ok ()) ∈ happening.events

theorem Stored.mono {log others : List (Happening ω)} {id : String} {made : Invoice}
    (h : Stored log id made) (hsub : log ⊆ others) : Stored others id made := by
  obtain ⟨happening, hmem, hevent⟩ := h
  exact ⟨happening, hsub hmem, hevent⟩

/-- Where no key was used twice, one invoice was stored under a text at most. -/
theorem Stored.unique {log : List (Happening ω)} (hd : (issued log).Nodup) {id : String}
    {made other : Invoice} (h : Stored log id made) (h' : Stored log id other) : made = other := by
  obtain ⟨happening, hmem, hevent⟩ := h
  obtain ⟨happening', hmem', hevent'⟩ := h'
  let Apart (event event' : Event) : Prop :=
    ∀ key, event.issued? = some key → ∀ key', event'.issued? = some key' → key ≠ key'
  have hpair : (log.flatMap Happening.events).Pairwise Apart := by
    rwa [issued, ← List.filterMap_flatMap, List.Nodup, List.pairwise_filterMap] at hd
  have hsymm : Std.Symm Apart :=
    ⟨fun _ _ hapart key hkey key' hkey' => (hapart key' hkey' key hkey).symm⟩
  by_contra hne
  have hapart := hpair.forall (List.mem_flatMap.mpr ⟨_, hmem, hevent⟩)
    (List.mem_flatMap.mpr ⟨_, hmem', hevent'⟩) (by simpa using hne)
  exact hapart (.text id) rfl (.text id) rfl rfl

/-- What is under a key was given back of an invoice that is `Made` and that an entry of the log
stored there. -/
def ComesFrom (backend : Backend σ) (Made : Invoice → Prop) (log : List (Happening ω))
    (entry : InvoiceKey × Invoice) : Prop :=
  ∃ id made, entry.1 = .text id ∧ Stored log id made ∧ Made made ∧ backend.Gives made entry.2

/-- All that is kept comes from the log. -/
def KeptFrom (backend : Backend σ) (Made : Invoice → Prop) (log : List (Happening ω)) (shelf : σ) :
    Prop := ∀ entry ∈ backend.entries shelf, ComesFrom backend Made log entry

/-- A log that goes on after others: at each entry all that is kept comes from those up to it, and
what is treated from those before it. -/
inductive Traces (backend : Backend σ) (Made : Invoice → Prop) :
    List (Happening (Premises σ ω)) → List (Happening (Premises σ ω)) → Prop
  | nil (seen : List (Happening (Premises σ ω))) : Traces backend Made seen []
  | cons {seen log : List (Happening (Premises σ ω))} {happening : Happening (Premises σ ω)}
      (kept : KeptFrom backend Made (seen ++ [happening]) happening.world.shelf)
      (treated : ∀ turn, happening = .treated turn → ComesFrom backend Made seen turn.entry)
      (rest : Traces backend Made (seen ++ [happening]) log) :
      Traces backend Made seen (happening :: log)

section

variable {backend : Backend σ} {Made : Invoice → Prop}
  {seen log others : List (Happening (Premises σ ω))}

theorem ComesFrom.mono {entry : InvoiceKey × Invoice} (h : ComesFrom backend Made seen entry)
    (hsub : seen ⊆ log) : ComesFrom backend Made log entry := by
  obtain ⟨id, made, hkey, hstored, hmade, hgives⟩ := h
  exact ⟨id, made, hkey, hstored.mono hsub, hmade, hgives⟩

/-- What is kept goes on coming from the log while nothing is added to it. -/
theorem KeptFrom.shrink {shelf shelf' : σ} (h : KeptFrom backend Made seen shelf)
    (hsub : seen ⊆ log) (hless : ∀ entry ∈ backend.entries shelf', entry ∈ backend.entries shelf) :
    KeptFrom backend Made log shelf' :=
  fun entry hentry => (h entry (hless entry hentry)).mono hsub

theorem Traces.append (h : Traces backend Made seen log)
    (h' : Traces backend Made (seen ++ log) others) :
    Traces backend Made seen (log ++ others) := by
  induction h with
  | nil => simpa using h'
  | cons kept treated _ ih => exact .cons kept treated (ih (by simpa using h'))

/-- At each entry all that is kept comes from the log. -/
theorem Traces.kept (h : Traces backend Made seen log) {happening : Happening (Premises σ ω)}
    (hmem : happening ∈ log) : KeptFrom backend Made (seen ++ log) happening.world.shelf := by
  induction h with
  | nil => cases hmem
  | @cons seen log first kept _ _ ih =>
    rcases List.mem_cons.mp hmem with rfl | hmem
    · exact kept.shrink (by simp) fun _ hentry => hentry
    · simpa using ih hmem

/-- What is treated comes from the log before. -/
theorem Traces.treated {before after : List (Happening (Premises σ ω))}
    {turn : Turn (Premises σ ω)} (h : Traces backend Made seen log)
    (hlog : log = before ++ .treated turn :: after) :
    ComesFrom backend Made (seen ++ before) turn.entry := by
  induction h generalizing before with
  | nil => simp at hlog
  | @cons seen log first _ treated _ ih =>
    cases before with
    | nil =>
      cases hlog
      simpa using treated turn rfl
    | cons other before =>
      cases hlog
      simpa using ih rfl

end

/-! ## Runs -/

/-- A change of the surroundings leaves the store alone. -/
def Step.Outside : Step (Premises σ ω) → Prop
  | .change update => ∀ w, Station.Undisturbed w (update w)
  | _ => True

namespace Station

variable {station : Station ω} {backend : Backend σ} {Made : Invoice → Prop}
  {seen : List (Happening (Premises σ ω))} {w : Premises σ ω}

theorem entries_removes {id : String} {answer : Except Fault Unit} {w' : Premises σ ω}
    (h : (station.poller backend).Removes Undisturbed (.text id) w answer w') :
    ∀ entry ∈ backend.entries w'.shelf, entry ∈ backend.entries w.shelf := by
  obtain ⟨w₁, w₂, hbefore, hdelete, hafter⟩ := h
  intro entry hentry
  rw [hafter.entries] at hentry
  have hkept := mem_entries_delete hdelete hentry
  rwa [hbefore.entries] at hkept

/-- A treatment adds nothing to what is kept. -/
theorem entries_course {id : String} {invoice : Invoice} {result : Except Fault InvoiceStatus}
    {events : List Event} {w' : Premises σ ω}
    (h : (station.poller backend).Course station.tracedSweep Undisturbed (.text id) invoice w
      result events w') :
    ∀ entry ∈ backend.entries w'.shelf, entry ∈ backend.entries w.shelf := by
  have hsame (hundisturbed : Undisturbed w w') :
      ∀ entry ∈ backend.entries w'.shelf, entry ∈ backend.entries w.shelf := by
    rw [hundisturbed.entries]
    exact fun _ hentry => hentry
  cases h with
  | undated _ _ same | unpaid _ _ _ _ same | undetected _ _ _ _ _ _ same
  | abandoned _ _ _ same => exact hsame same
  | expired _ _ removes => exact entries_removes removes
  | unremoved _ _ _ removes => exact entries_removes removes
  | handedOver _ _ _ _ removes => exact entries_removes removes

/-- The treatment of invoices that come from the log. -/
theorem turns_traces (station : Station ω) (entries : List (InvoiceKey × Invoice))
    (hentries : ∀ entry ∈ entries, ComesFrom backend Made seen entry)
    (hkept : KeptFrom backend Made seen w.shelf) :
    Traces backend Made seen
        (((station.poller backend).turns station.tracedSweep entries w).1.map .treated) ∧
      ∀ entry ∈ backend.entries
          ((station.poller backend).turns station.tracedSweep entries w).2.shelf,
        entry ∈ backend.entries w.shelf := by
  induction entries generalizing seen w with
  | nil => exact ⟨.nil seen, fun _ hentry => hentry⟩
  | cons entry rest ih =>
    rw [List.forall_mem_cons] at hentries
    have hstop : Undisturbed w ((station.poller backend).stopped w).2 := rfl
    rcases hread : (station.poller backend).stopped w with ⟨_ | _, w₁⟩
    · rw [hread] at hstop
      simp only [Poller.turns, hread]
      have hcourse := (Poller.turn_course (station.poller_keeps backend)
        (station.notes_tracedSweep backend) entry w₁).2
      have hentry := Poller.turn_entry (station.poller backend) station.tracedSweep entry w₁
      generalize (station.poller backend).turn station.tracedSweep entry w₁ = turn
        at hcourse hentry
      obtain ⟨id, made, hkey, -⟩ := hentries.1
      rw [hkey] at hcourse
      have hless : ∀ other ∈ backend.entries turn.world.shelf,
          other ∈ backend.entries w.shelf := by
        have hcourseLess := entries_course hcourse
        rwa [hstop.entries] at hcourseLess
      have hnext : KeptFrom backend Made (seen ++ [.treated turn]) turn.world.shelf :=
        hkept.shrink (List.subset_append_left _ _) hless
      have htreated : ∀ other, Happening.treated turn = .treated other →
          ComesFrom backend Made seen other.entry := by
        rintro _ ⟨⟩
        rw [hentry]
        exact hentries.1
      cases turn.result with
      | error fault => exact ⟨.cons hnext htreated (.nil _), hless⟩
      | ok status =>
        obtain ⟨htraces, hafter⟩ := ih (w := (station.poller backend).sleep
          (station.poller backend).invoiceDelay turn.world)
          (fun other hother => (hentries.2 other hother).mono (List.subset_append_left _ _)) hnext
        exact ⟨.cons hnext htreated htraces, fun other hother => hless other (hafter other hother)⟩
    · rw [hread] at hstop
      simp only [Poller.turns, hread]
      refine ⟨.nil seen, fun other hother => ?_⟩
      rw [← hstop.entries]
      exact hother

/-- One pass. -/
theorem passTurns_traces (station : Station ω) (hkept : KeptFrom backend Made seen w.shelf) :
    Traces backend Made seen
        (((station.poller backend).passTurns station.tracedSweep w).1.map .treated) ∧
      ∀ entry ∈ backend.entries
          ((station.poller backend).passTurns station.tracedSweep w).2.shelf,
        entry ∈ backend.entries w.shelf := by
  have hshelf : ((station.poller backend).store.getAll.apply w).2.shelf = w.shelf :=
    shelf_getAll station backend w
  unfold Poller.passTurns
  rcases hlist : (station.poller backend).store.getAll.apply w with ⟨fault | entries, w₁⟩
  · rw [hlist] at hshelf
    have hsame {after : Premises σ ω} (hafter : after.shelf = w₁.shelf) :
        ∀ entry ∈ backend.entries after.shelf, entry ∈ backend.entries w.shelf := by
      rw [hafter, hshelf]
      exact fun _ hentry => hentry
    cases fault <;> exact ⟨.nil seen, hsame rfl⟩
  · rw [hlist] at hshelf
    have hlisted : ∀ entry ∈ entries, entry ∈ backend.entries w.shelf := mem_of_listed hlist
    obtain ⟨htraces, hafter⟩ := station.turns_traces (w := (((station.poller backend).info
      ("Pending invoices: " ++ Decimal.text entries.length)).apply w₁).2) entries
      (fun entry hentry => hkept entry (hlisted entry hentry))
      (hkept.shrink (List.Subset.refl _) fun entry hentry => hshelf ▸ hentry)
    exact ⟨htraces, fun entry hentry => hshelf ▸ hafter entry hentry⟩

/-- One order. -/
theorem creation_traces {w' : Premises σ ω} {events : List Event}
    (h : (station.gateway backend).Creation Undisturbed Made w events w')
    (hkept : KeptFrom backend Made seen w.shelf) :
    KeptFrom backend Made (seen ++ [.ordered events w']) w'.shelf := by
  cases h with
  | refused readings same =>
    refine hkept.shrink (List.subset_append_left _ _) fun entry hentry => ?_
    rwa [same.entries] at hentry
  | @stored readings id made answer w₁ w₂ _ before hmade set after =>
    intro entry hentry
    rw [after.entries] at hentry
    rcases mem_entries_set set hentry with hentry | ⟨rfl, hkey, hgives⟩
    · rw [before.entries] at hentry
      exact (hkept entry hentry).mono (List.subset_append_left _ _)
    · exact ⟨id, made, hkey,
        ⟨_, List.mem_append_right _ List.mem_cons_self, by simp [Happening.events]⟩, hmade, hgives⟩

/-- A whole run. -/
theorem log_traces {steps : List (Step (Premises σ ω))}
    (hmade : ∀ amount method message expiresIn, .order amount method message expiresIn ∈ steps →
      ∀ made, (station.gateway backend).Makes amount method message expiresIn made → Made made)
    (hout : ∀ step ∈ steps, step.Outside) (hkept : KeptFrom backend Made seen w.shelf) :
    Traces backend Made seen ((station.service backend).log steps w).1 ∧
      KeptFrom backend Made (seen ++ ((station.service backend).log steps w).1)
        ((station.service backend).log steps w).2.shelf := by
  induction steps generalizing seen w with
  | nil => exact ⟨.nil seen, by simpa [Service.log] using hkept⟩
  | cons step rest ih =>
    rw [List.forall_mem_cons] at hout
    have hrest := fun amount method message expiresIn hmem => hmade amount method message expiresIn
      (List.mem_cons_of_mem _ hmem)
    have hfirst : Traces backend Made seen ((station.service backend).happenings step w).1 ∧
        KeptFrom backend Made (seen ++ ((station.service backend).happenings step w).1)
          ((station.service backend).happenings step w).2.shelf := by
      cases step with
      | order amount method message expiresIn =>
        obtain ⟨result, events, w', hshows, hcreation⟩ := Gateway.newInvoice_shows
          (station.gateway_keeps backend) amount method message expiresIn w
        have hhappenings : (station.service backend).happenings
            (.order amount method message expiresIn) w = ([.ordered events w'], w') := by
          have htraced := hshows.traced []
          simp only [Service.happenings, service, htraced, List.nil_append]
        have hcreated : (station.gateway backend).Creation Undisturbed Made w events w' := by
          cases hcreation with
          | refused readings same => exact .refused readings same
          | stored readings before made set after =>
            exact .stored readings before
              (hmade amount method message expiresIn List.mem_cons_self _ made) set after
        have hafter := creation_traces hcreated hkept
        rw [hhappenings]
        exact ⟨.cons hafter (fun _ h => by cases h) (.nil _), hafter⟩
      | change update =>
        have hundisturbed : Undisturbed w (update w) := hout.1 w
        refine ⟨.nil seen, hkept.shrink (by simp [Service.happenings]) fun entry hentry => ?_⟩
        rwa [← hundisturbed.entries]
      | pass =>
        obtain ⟨htraces, hless⟩ := station.passTurns_traces hkept
        exact ⟨htraces, hkept.shrink (List.subset_append_left _ _) hless⟩
    obtain ⟨htraces, hlast⟩ := ih hrest hout.2 hfirst.2
    refine ⟨hfirst.1.append htraces, ?_⟩
    rw [List.append_assoc] at hlast
    exact hlast

/-- The addresses that are issued are those of the keys that are issued with them. -/
def Issues (station : Station ω) : Prop := ∀ w address key w',
  station.issueKey.apply w = (.ok (address, key), w') → key.address? = some address

/-- An address that is issued is in checksum form. -/
theorem Issues.checksum (h : station.Issues) {amount : Json} {method : PaymentMethod}
    {message : Bytes} {expiresIn : Number} {made : Invoice}
    (hmade : (station.gateway backend).Makes amount method message expiresIn made) :
    Address.checksum? made.address = some made.address := by
  obtain ⟨w, w', hissue⟩ := hmade.issued
  have houtside :
      station.issueKey.apply w.outside = (.ok (made.address, made.wallet), w'.outside) := by
    have happly : Premises.outer station.issueKey = (station.gateway backend).issueKey := rfl
    rw [← happly, Premises.apply_outer] at hissue
    exact Prod.ext (Prod.ext_iff.mp hissue).1 (congrArg Premises.outside (Prod.ext_iff.mp hissue).2)
  obtain ⟨scalar, -, haddress⟩ := Option.map_eq_some_iff.mp (h _ _ _ _ houtside)
  rw [← haddress]
  exact Address.checksum?_checksum (SecretKey.length_addressOf scalar)

/-- A run begins with an empty store, creates its invoices by orders and makes any number of passes,
while what is outside does and changes as it will. Then at all times each invoice that is kept is
outstanding, and whatever is handed over is labelled truthfully: it is what an order made, and what
it says beyond that tells how the sweep in its own turn ended. -/
theorem labels_truthfully (station : Station ω) (backend : Backend σ) (hissue : station.Issues)
    {steps : List (Step (Premises σ ω))} (hout : ∀ step ∈ steps, step.Outside) (outside : ω)
    (hdistinct :
      (issued ((station.service backend).log steps ⟨backend.empty, outside⟩).1).Nodup) :
    let (log, last) := (station.service backend).log steps ⟨backend.empty, outside⟩
    (∀ w ∈ last :: log.map Happening.world, ∀ entry ∈ backend.entries w.shelf,
      entry.2.Outstanding) ∧
    ∀ before happening after, log = before ++ happening :: after →
      ∀ key notice answer, .sent key notice answer ∈ happening.events →
        ∃ turn id made, happening = .treated turn ∧ key = turn.key ∧ key = .text id ∧
          (∃ amount method message expiresIn, .order amount method message expiresIn ∈ steps ∧
            (station.gateway backend).Makes amount method message expiresIn made) ∧
          Stored before id made ∧ (∀ other, Stored log id other → other = made) ∧
          Labels backend turn made notice := by
  rcases hlog : (station.service backend).log steps ⟨backend.empty, outside⟩ with ⟨log, last⟩
  rw [hlog] at hdistinct
  let Made (made : Invoice) : Prop := ∃ amount method message expiresIn,
    .order amount method message expiresIn ∈ steps ∧
      (station.gateway backend).Makes amount method message expiresIn made
  have hempty : KeptFrom backend Made ([] : List (Happening (Premises σ ω))) backend.empty := by
    intro entry hentry
    rw [backend.entries_empty] at hentry
    cases hentry
  have htraces : Traces backend Made [] _ ∧ KeptFrom backend Made ([] ++ _) _ := log_traces
    (fun amount method message expiresIn horder made hmade =>
      ⟨amount, method, message, expiresIn, horder, hmade⟩)
    hout (w := ⟨backend.empty, outside⟩) hempty
  rw [hlog] at htraces
  have hcome {seen : List (Happening (Premises σ ω))} {entry : InvoiceKey × Invoice}
      (h : ComesFrom backend Made seen entry) : ∃ id made, entry.1 = .text id ∧
        Stored seen id made ∧ Made made ∧ backend.SameTerms made entry.2 ∧ entry.2.Outstanding := by
    obtain ⟨id, made, hkey, hstored, hmade, hgives⟩ := h
    obtain ⟨amount, method, message, expiresIn, horder, hmakes⟩ := hmade
    obtain ⟨w, created, lifetime, -, -, hexpires⟩ := hmakes.expires
    obtain ⟨hterms, hopen⟩ := hgives.sameTerms (hissue.checksum hmakes) hmakes.paidAt
      ⟨_, hexpires⟩ hmakes.receipt hmakes.hash
    exact ⟨id, made, hkey, hstored, ⟨amount, method, message, expiresIn, horder, hmakes⟩, hterms,
      hopen⟩
  refine ⟨?_, ?_⟩
  · intro w hw entry hentry
    have hcomes : ComesFrom backend Made log entry := by
      rcases List.mem_cons.mp hw with rfl | hw
      · exact htraces.2 entry hentry
      · obtain ⟨happening, hmem, rfl⟩ := List.mem_map.mp hw
        exact htraces.1.kept hmem entry hentry
    obtain ⟨id, made, -, -, -, -, hopen⟩ := hcome hcomes
    exact hopen
  · rintro before happening after rfl key notice answer hsent
    have hmem : happening ∈ ((station.service backend).log steps ⟨backend.empty, outside⟩).1 := by
      rw [hlog]
      simp
    cases happening with
    | ordered events w =>
      exact absurd hsent (Service.not_sent_of_ordered hmem key notice answer)
    | treated turn =>
      obtain ⟨id, made, hkey, hstored, hmade, hterms, hopen⟩ := hcome (htraces.1.treated rfl)
      obtain ⟨w, hcourse⟩ := Service.treated_course (station.notes_tracedSweep backend) hmem
      obtain ⟨rfl, hlabels⟩ := Labels.of_course hcourse hterms hopen hsent
      refine ⟨turn, id, made, rfl, rfl, hkey, hmade, hstored, fun other hother => ?_, hlabels⟩
      exact Stored.unique hdistinct hother (hstored.mono (List.subset_append_left _ _))

/-- A station with one key to issue, and a node that tells balances and nothing else. -/
def secluded (address : String) : Station Unit where
  ledger := {
    nativeBalance _ := pure (.int 7)
    tokenBalance _ _ := pure (.int 0)
    chainId := Action.fail (.ledger (.unreachable "chain_id"))
    gasPrice := pure (.int 10)
    latestBaseFee := pure .null
    recentFeeSamples := pure (.arr [])
    transactionCount _ := pure (.int 0)
    estimateGas _ := pure (.int 0)
    submitRaw _ := Action.fail (.ledger (.unreachable "submit_raw"))
    awaitConfirmation _ _ := pure .null }
  journal _ w := w
  notifier := { send _ _ := pure () }
  clock w := (.int 100, w)
  sleep _ w := w
  stopped w := (false, w)
  isPolling _ := true
  issueKey := pure (address, ⟨List.replicate 31 0 ++ [1]⟩)
  settings := { treasury := "0xbeef" }

/-- The invoice that is ordered there. -/
def orderedFive (address : String) : Invoice where
  address
  wallet := ⟨List.replicate 31 0 ++ [1]⟩
  amount := 5
  expires := .int 160

/-- What is there after the order. -/
def keptFive (address id : String) : Premises (Keyed InvoiceKey Invoice) Unit :=
  ⟨Keyed.empty.put (.text id) (orderedFive address), ()⟩

theorem happenings_order_secluded (address : String) :
    ((secluded address).service .memory).happenings (.order (.int 5) .native [] 60)
        ⟨Backend.memory.empty, ()⟩ =
      ([.ordered [.clockRead (.int 100), .clockRead (.int 100),
          .stored (.text (invoiceId address 100000)) (orderedFive address) (.ok ())]
          (keptFive address (invoiceId address 100000))],
        keptFive address (invoiceId address 100000)) := by
  have hshort : (Number.int (100 + 60)).isWritable = true := by decide +kernel
  rw [Service.happenings, Gateway.newInvoice]
  -- All calls are made; what is left asks whether the last moment can be written.
  show (let t := ((do
      Journal.infoWritten _ .gateway (Number.int (100 + 60)).isWritable _
      return _ : Action (Traced (Premises (Keyed InvoiceKey Invoice) Unit))
        (String × Invoice)).apply _).2
    (([.ordered t.history t.world], t.world) : List (Happening _) × _)) = _
  rw [hshort]
  rfl

theorem apply_remove_secluded (address id : String) (history : List Event) :
    ((((secluded address).poller .memory).traced (secluded address).tracedSweep).remove
        (.text id)).apply ⟨keptFive address id, history⟩ =
      (.ok (), ⟨⟨(keptFive address id).shelf.erase (.text id), ()⟩,
        history ++ [.deleted (.text id) (.ok ())]⟩) := by
  have hmem : .text id ∈ (Premises.shelved.look (keptFive address id)).keys :=
    List.mem_singleton_self _
  have hdelete := Store.apply_ofMemory_delete
    (@Premises.shelved (Keyed InvoiceKey Invoice) Unit) id (keptFive address id)
  rw [if_pos hmem] at hdelete
  have hnoted := (Shows.recorded (.deleted (.text id))
    ((Store.ofMemory Premises.shelved).delete (.text id)) (keptFive address id)).traced history
  rw [hdelete] at hnoted
  have hcall : (((secluded address).poller .memory).traced
      (secluded address).tracedSweep).store.delete (.text id) =
        Action.recorded (.deleted (.text id))
          ((Store.ofMemory Premises.shelved).delete (.text id)) := rfl
  rw [Poller.remove, Action.apply_attempt_bind, hcall, hnoted]
  rfl

theorem turn_secluded (address id : String) :
    let turn := ((secluded address).poller .memory).turn (secluded address).tracedSweep
      (.text id, orderedFive address) (keptFive address id)
    turn.result = .ok .settlementFailed ∧ turn.events =
      [.clockRead (.int 100), .asked (.nativeBalance address) (.ok (.int 7)),
        .clockRead (.int 100), .asked .chainId (.error (.ledger (.unreachable "chain_id"))),
        .swept (orderedFive address) (.error (.transfer (.chainIdUnavailable "chain_id"))),
        .deleted (.text id) (.ok ()),
        .sent (.text id) { orderedFive address with paidAt := .int 100 } (.ok ())] := by
  let poller := ((secluded address).poller .memory).traced (secluded address).tracedSweep
  have hprocess : (poller.process (.text id) (orderedFive address)).apply
      ⟨keptFive address id, []⟩ =
    (do
      poller.remove (.text id)
      let _ ← deliver poller.notifier poller.journal (.text id)
        { orderedFive address with paidAt := .int 100 }
      return InvoiceStatus.settlementFailed).apply ⟨keptFive address id,
        [.clockRead (.int 100), .asked (.nativeBalance address) (.ok (.int 7)),
          .clockRead (.int 100), .asked .chainId (.error (.ledger (.unreachable "chain_id"))),
          .swept (orderedFive address)
            (.error (.transfer (.chainIdUnavailable "chain_id")))]⟩ := by
    rw [Poller.process, Action.apply_bind]
    rfl
  rw [Action.apply_bind, apply_remove_secluded] at hprocess
  simp only [Poller.turn]
  rw [show (((secluded address).poller .memory).traced (secluded address).tracedSweep).process
    (.text id) (orderedFive address) = poller.process (.text id) (orderedFive address) from rfl,
    hprocess]
  exact ⟨rfl, rfl⟩

theorem happenings_pass_secluded (address id : String) :
    (((secluded address).service .memory).happenings .pass (keptFive address id)).1 =
      [.treated (((secluded address).poller .memory).turn (secluded address).tracedSweep
        (.text id, orderedFive address) (keptFive address id))] := by
  have hlisted : ((secluded address).poller .memory).store.getAll.apply (keptFive address id) =
      (.ok [(.text id, orderedFive address)], keptFive address id) := rfl
  have hturn := (turn_secluded address id).1
  have hpass : (((secluded address).service .memory).happenings .pass (keptFive address id)).1 =
      (((secluded address).poller .memory).passTurns (secluded address).tracedSweep
        (keptFive address id)).1.map .treated := rfl
  have hquiet (text : String) : ((((secluded address).poller .memory).info text).apply
      (keptFive address id)).2 = keptFive address id := rfl
  have hgoing : ((secluded address).poller .memory).stopped (keptFive address id) =
      (false, keptFive address id) := rfl
  rw [hpass, Poller.passTurns_ok hlisted, hquiet]
  simp only [Poller.turns, hgoing]
  rw [hturn]
  rfl

/-- What was ordered is swept in vain, and handed over as it was ordered. -/
theorem labels_truthfully_secluded :
    ∃ (turn : Turn (Premises (Keyed InvoiceKey Invoice) Unit)) (id : String)
      (made notice : Invoice) (answer : Except Fault Unit),
      .sent (.text id) notice answer ∈ turn.events ∧ turn.result = .ok .settlementFailed ∧
        Labels .memory turn made notice := by
  -- What the address is does not count, so it is not worked out.
  obtain ⟨address, haddress⟩ : ∃ address, Address.checksum (SecretKey.addressOf 1) = address :=
    ⟨_, rfl⟩
  have hissue : (secluded address).Issues := by
    intro w issued key w' h
    cases h
    have hkey : SecretKey.scalar? ⟨List.replicate 31 0 ++ [1]⟩ = some 1 := by decide
    rw [SecretKey.address?, hkey, Option.map_some, haddress]
  let steps : List (Step (Premises (Keyed InvoiceKey Invoice) Unit)) :=
    [.order (.int 5) .native [] 60, .pass]
  have hout : ∀ step ∈ steps, step.Outside := by simp [steps, Step.Outside]
  let id := invoiceId address 100000
  have hlog : (((secluded address).service .memory).log steps ⟨Backend.memory.empty, ()⟩).1 =
      [.ordered [.clockRead (.int 100), .clockRead (.int 100),
          .stored (.text id) (orderedFive address) (.ok ())] (keptFive address id),
        .treated (((secluded address).poller .memory).turn (secluded address).tracedSweep
          (.text id, orderedFive address) (keptFive address id))] := by
    simp only [steps, Service.log]
    rw [happenings_order_secluded]
    simp only [happenings_pass_secluded, List.append_nil]
    rfl
  obtain ⟨hresult, hevents⟩ := turn_secluded address id
  have hdistinct : (issued (((secluded address).service .memory).log steps
      ⟨Backend.memory.empty, ()⟩).1).Nodup := by
    rw [hlog]
    simp only [issued, List.flatMap_cons, List.flatMap_nil, Happening.events, hevents]
    exact List.nodup_singleton (InvoiceKey.text id)
  have hsent : .sent (.text id) { orderedFive address with paidAt := .int 100 } (.ok ()) ∈
      (((secluded address).poller .memory).turn (secluded address).tracedSweep
        (.text id, orderedFive address) (keptFive address id)).events := by
    rw [hevents]
    simp
  obtain ⟨-, hlabelled⟩ := labels_truthfully (secluded address) .memory hissue hout () hdistinct
  obtain ⟨turn, _, made, hturn, -, -, -, -, -, hlabels⟩ :=
    hlabelled [_] (.treated _) [] hlog _ _ _ hsent
  cases hturn
  exact ⟨_, id, made, _, _, hsent, hresult, hlabels⟩

end Station

end DepositGateway
