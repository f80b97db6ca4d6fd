import DepositGateway.Proofs.Poller.Turns
import DepositGateway.Proofs.Store.Memory
import Mathlib.Data.List.Basic

/-!
# Passes under orderly failures

The clock shows a moment, the ledger answers with integers or faults of its family, a sweep fails
only as sweeps do and a removal only as the store does; the notifier may fail in any way. Then a
pass never fails, and what it does for each invoice is fixed by the answers it got.

* `RegularTurn`: the four courses of a treatment, with every call in its place.
* `Poller.runPass_regular`: a pass treats the stored invoices in order up to the first look at the
  stop flag that shows it set, each regularly and with one pause after it.
-/

namespace DepositGateway

/-- The ledger on which every address holds the same, and every other number is zero. -/
def Ledger.steady {ω : Type} (balance : Int) : Ledger ω where
  nativeBalance _ := pure (.int balance)
  tokenBalance _ _ := pure (.int balance)
  chainId := pure (.int 0)
  gasPrice := pure (.int 0)
  latestBaseFee := pure (.int 0)
  recentFeeSamples := pure (.arr [])
  transactionCount _ := pure (.int 0)
  estimateGas _ := pure (.int 0)
  submitRaw _ := pure "0x01"
  awaitConfirmation _ _ := pure .null

/-- An unpaid invoice whose last moment is past. -/
def Overdue (invoice : Invoice) (now : Int) : Prop :=
  invoice.isPending = true ∧
    ∃ last, invoice.expires.asNumber? = some last ∧ last.lt (.int now) = true

/-- The answer of an orderly ledger: an integer or a fault of its family. -/
def OrderlyBalance (answer : Except Fault Json) : Prop :=
  (∃ balance : Int, answer = .ok (.int balance)) ∨ ∃ fault, answer = .error (.ledger fault)

/-- The balance could not be read or is below the amount. -/
def Short (amount : Amount) (answer : Except Fault Json) : Prop :=
  (∃ balance : Int, answer = .ok (.int balance) ∧ balance < amount.toNat) ∨
    ∃ fault, answer = .error (.ledger fault)

/-- The regular treatments of an invoice, with status and calls. -/
inductive RegularTurn (key : InvoiceKey) (invoice : Invoice) : InvoiceStatus → List Event → Prop
  /-- Overdue: removed, and nothing else. -/
  | expired {reading : Number} {now : Int} {removed : Except Fault Unit}
      (clock : reading.toInteger = .ok now) (overdue : Overdue invoice now) :
      RegularTurn key invoice .expired [.clockRead reading, .deleted key removed]
  /-- Not overdue and not paid: left as it is. -/
  | pending {reading : Number} {now : Int} {answer : Except Fault Json}
      (clock : reading.toInteger = .ok now) (within : ¬ Overdue invoice now)
      (short : Short invoice.amount answer) :
      RegularTurn key invoice .pending
        [.clockRead reading, .asked (Poller.balanceQuestion invoice) answer]
  /-- Paid and swept: removed, and handed over with hash and receipt. -/
  | settled {reading reading' : Number} {now seen balance : Int} {hash : String} {receipt : Json}
      {removed sent : Except Fault Unit}
      (clock : reading.toInteger = .ok now) (within : ¬ Overdue invoice now)
      (paid : (invoice.amount.toNat : Int) ≤ balance) (clock' : reading'.toInteger = .ok seen) :
      RegularTurn key invoice .settled
        [.clockRead reading, .asked (Poller.balanceQuestion invoice) (.ok (.int balance)),
          .clockRead reading', .swept invoice (.ok (hash, receipt)), .deleted key removed,
          .sent key { invoice with hash := .text hash, receipt, paidAt := .int seen } sent]
  /-- Paid, but the sweep failed: removed, and handed over as it was. -/
  | settlementFailed {reading reading' : Number} {now seen balance : Int} {fault : TransferFault}
      {removed sent : Except Fault Unit}
      (clock : reading.toInteger = .ok now) (within : ¬ Overdue invoice now)
      (paid : (invoice.amount.toNat : Int) ≤ balance) (clock' : reading'.toInteger = .ok seen) :
      RegularTurn key invoice .settlementFailed
        [.clockRead reading, .asked (Poller.balanceQuestion invoice) (.ok (.int balance)),
          .clockRead reading', .swept invoice (.error (.transfer fault)), .deleted key removed,
          .sent key { invoice with paidAt := .int seen } sent]

theorem isExpired_true {invoice : Invoice} {now : Int}
    (h : invoice.isExpired (.int now) = .ok true) : Overdue invoice now := by
  unfold Invoice.isExpired at h
  split at h
  · next pending =>
    cases hl : invoice.expires.asNumber? with
    | none => simp [hl] at h
    | some last => exact ⟨pending, last, hl, by simpa [hl] using h⟩
  · simp at h

theorem isExpired_false {invoice : Invoice} {now : Int}
    (h : invoice.isExpired (.int now) = .ok false) : ¬ Overdue invoice now := by
  rintro ⟨pending, last, hl, hlt⟩
  simp [Invoice.isExpired, pending, hl, hlt] at h

/-- Only an unpaid invoice whose last moment is no number cannot be judged. -/
theorem isExpired_ne_error {invoice : Invoice} {now : Number} {fault : Fault}
    (h : invoice.isPending = true → ∃ last, invoice.expires.asNumber? = some last) :
    invoice.isExpired now ≠ .error fault := by
  unfold Invoice.isExpired
  split
  · next pending =>
    obtain ⟨last, hl⟩ := h pending
    simp [hl]
  · simp

namespace Poller

variable {ω : Type}

theorem verdict_int (invoice : Invoice) (balance : Int) :
    verdict invoice (.ok (.int balance)) =
      .ok (decide ((invoice.amount.toNat : Int) ≤ balance)) := by
  simp [verdict, covers, Json.asNumber?, bind, Except.bind]

/-- An orderly answer that is not "paid" leaves the invoice pending. -/
theorem short_of_verdict {invoice : Invoice} {answer : Except Fault Json}
    (h : OrderlyBalance answer) (hv : verdict invoice answer ≠ .ok true) :
    Short invoice.amount answer ∧ unpaidResult (verdict invoice answer) = .ok .pending := by
  rcases h with ⟨balance, rfl⟩ | ⟨fault, rfl⟩
  · rw [verdict_int] at hv ⊢
    simp only [ne_eq, Except.ok.injEq, decide_eq_true_eq, Int.not_le] at hv
    exact ⟨.inl ⟨balance, rfl, hv⟩, rfl⟩
  · exact ⟨.inr ⟨fault, rfl⟩, rfl⟩

theorem paid_of_verdict {invoice : Invoice} {answer : Except Fault Json}
    (h : OrderlyBalance answer) (hv : verdict invoice answer = .ok true) :
    ∃ balance : Int, answer = .ok (.int balance) ∧ (invoice.amount.toNat : Int) ≤ balance := by
  rcases h with ⟨balance, rfl⟩ | ⟨fault, rfl⟩
  · rw [verdict_int] at hv
    exact ⟨balance, rfl, by simpa using hv⟩
  · simp [verdict, bind, Except.bind] at hv

/-- The capabilities of a poller fail only in the ways that are meant for them. -/
structure Orderly (poller : Poller ω) : Prop where
  clock : ∀ w, ∃ now, (poller.clock w).1.toInteger = .ok now
  nativeBalance : ∀ address w,
    OrderlyBalance ((poller.ledger.nativeBalance address).apply w).1
  tokenBalance : ∀ token holder w,
    OrderlyBalance ((poller.ledger.tokenBalance token holder).apply w).1
  sweep : poller.SweepsEnd

/-- The entry is one that a pass can judge and ask the store to remove: its last moment is a number
while it is unpaid, and a removal only fails as the store does. -/
structure Treatable (poller : Poller ω) (entry : InvoiceKey × Invoice) : Prop where
  expires : entry.2.isPending = true → ∃ last, entry.2.expires.asNumber? = some last
  delete : ∀ w, ((poller.store.delete entry.1).apply w).1 = .ok () ∨
    ∃ fault, ((poller.store.delete entry.1).apply w).1 = .error (.store fault)

theorem Treatable.removed {poller : Poller ω} {Same : ω → ω → Prop}
    {entry : InvoiceKey × Invoice} (ht : poller.Treatable entry) {answer : Except Fault Unit}
    {w w' : ω} (h : poller.Removes Same entry.1 w answer w') : tolerated answer = .ok () := by
  obtain ⟨w₁, w₂, -, hd, -⟩ := h
  have := ht.delete w₁
  rw [hd] at this
  rcases this with rfl | ⟨fault, rfl⟩ <;> rfl

namespace Orderly

variable {poller : Poller ω} {Same : ω → ω → Prop}

theorem reading (ho : poller.Orderly) {reading : Number} (h : poller.Reads reading) :
    ∃ now, reading.toInteger = .ok now := by
  obtain ⟨w, rfl⟩ := h
  exact ho.clock w

theorem balance (ho : poller.Orderly) {invoice : Invoice} {answer : Except Fault Json}
    (h : poller.Balances invoice answer) : OrderlyBalance answer := by
  obtain ⟨w, rfl⟩ := h
  unfold balanceOf
  cases invoice.method with
  | native => exact ho.nativeBalance _ w
  | token token => exact ho.tokenBalance _ _ w

/-- The moment that a reading shows, and whether the invoice is overdue then. -/
theorem moment (ho : poller.Orderly) {invoice : Invoice} {reading : Number} {past : Bool}
    (hr : poller.Reads reading) (h : expiry invoice reading = .ok past) :
    ∃ now, reading.toInteger = .ok now ∧ invoice.isExpired (.int now) = .ok past := by
  obtain ⟨now, hnow⟩ := ho.reading hr
  exact ⟨now, hnow, by simpa [expiry, hnow, bind, Except.bind] using h⟩

/-- The calls that find an invoice paid, under orderly answers. -/
theorem detects (ho : poller.Orderly) {invoice : Invoice} {opening : List Event} {seen : Int}
    (h : poller.Detects invoice opening seen) :
    ∃ reading now balance reading', reading.toInteger = .ok now ∧ ¬ Overdue invoice now ∧
      (invoice.amount.toNat : Int) ≤ balance ∧ reading'.toInteger = .ok seen ∧
      opening = [.clockRead reading, .asked (balanceQuestion invoice) (.ok (.int balance)),
        .clockRead reading'] := by
  obtain ⟨reading, answer, reading', hr, hb, -, within, paid, hseen, rfl⟩ := h
  obtain ⟨now, hnow, hpast⟩ := ho.moment hr within
  obtain ⟨balance, rfl, hle⟩ := paid_of_verdict (ho.balance hb) paid
  exact ⟨reading, now, balance, reading', hnow, isExpired_false hpast, hle, hseen, rfl⟩

/-- Every course is a regular one when the failures are orderly. -/
theorem regular (ho : poller.Orderly) {entry : InvoiceKey × Invoice} (ht : poller.Treatable entry)
    {w w' : ω} {result : Except Fault InvoiceStatus} {events : List Event}
    (h : poller.Course poller.silentSweep Same entry.1 entry.2 w result events w') :
    ∃ status, result = .ok status ∧ RegularTurn entry.1 entry.2 status events := by
  cases h with
  | undated clock undated =>
    obtain ⟨now, hnow⟩ := ho.reading clock
    simp only [expiry, hnow, bind, Except.bind] at undated
    exact absurd undated (isExpired_ne_error ht.expires)
  | expired clock past removes =>
    obtain ⟨now, hnow, hpast⟩ := ho.moment clock past
    rw [ht.removed removes]
    exact ⟨_, rfl, .expired hnow (isExpired_true hpast)⟩
  | unpaid clock within balance unpaid =>
    obtain ⟨now, hnow, hpast⟩ := ho.moment clock within
    obtain ⟨short, hresult⟩ := short_of_verdict (ho.balance balance) unpaid
    exact ⟨_, hresult, .pending hnow (isExpired_false hpast) short⟩
  | undetected _ _ _ _ clock' undated =>
    obtain ⟨now, hnow⟩ := ho.reading clock'
    simp [hnow] at undated
  | abandoned _ sweeps foreign =>
    exact absurd foreign (settlement_ne_error (sweeps.ends ho.sweep) _)
  | unremoved _ _ _ removes foreign =>
    simp [ht.removed removes] at foreign
  | handedOver _ detects sweeps ended =>
    obtain ⟨reading, now, balance, reading', hnow, within, paid, hseen, rfl⟩ := ho.detects detects
    rw [sweeps.silent]
    rcases sweeps.ends ho.sweep with ⟨⟨hash, receipt⟩, rfl⟩ | ⟨fault, rfl⟩
    · simp only [settlement, Except.ok.injEq, Prod.mk.injEq] at ended
      obtain ⟨rfl, rfl⟩ := ended
      exact ⟨_, rfl, .settled hnow within paid hseen⟩
    · simp only [settlement, Except.ok.injEq, Prod.mk.injEq] at ended
      obtain ⟨rfl, rfl⟩ := ended
      exact ⟨_, rfl, .settlementFailed hnow within paid hseen⟩

end Orderly

theorem turns_regular {poller : Poller ω} (ho : poller.Orderly)
    (entries : List (InvoiceKey × Invoice)) (w : ω)
    (ht : ∀ entry ∈ entries, poller.Treatable entry) :
    ∀ turn ∈ (poller.turns poller.silentSweep entries w).1,
      ∃ status, turn.result = .ok status ∧
        RegularTurn turn.key turn.invoice status turn.events := by
  intro turn hm
  obtain ⟨entry, w', he, rfl⟩ := mem_turns hm
  exact ho.regular (ht entry he) (turn_course poller.keeps_true poller.notes_silent entry w').2

/-- Under orderly failures a pass that could read the store treats its entries in order, up to the
first look at the stop flag that shows it set. It never fails, there is one pause after each
outcome, and every treatment is regular. -/
theorem runPass_regular (poller : Poller ω) (ho : poller.Orderly) {w w₁ : ω}
    {entries : List (InvoiceKey × Invoice)}
    (hl : poller.store.getAll.apply w = (.ok entries, w₁))
    (ht : ∀ entry ∈ entries, poller.Treatable entry) :
    ∃ (turns : List (Turn ω)) (outcomes : List (InvoiceKey × InvoiceStatus)) (w₂ : ω),
      Shows poller.runPass poller.traced.runPass w (.ok outcomes)
        (.listed (.ok entries) :: turns.flatMap (fun turn =>
            .stopRead false :: turn.events ++ [.paused poller.invoiceDelay]) ++
          if turns.length < entries.length then [.stopRead true] else []) w₂ ∧
      turns.map Turn.entry = entries.take turns.length ∧
      turns.map (fun turn => (turn.key, turn.result)) =
        outcomes.map (fun outcome => (outcome.1, .ok outcome.2)) ∧
      ∀ turn ∈ turns, ∃ status, turn.result = .ok status ∧
        RegularTurn turn.key turn.invoice status turn.events := by
  have hpass := runPass_shows poller.keeps_true poller.notes_silent w
  rw [hl, passTurns_ok hl] at hpass
  generalize ((poller.info _).apply w₁).2 = w₂ at hpass
  have hregular := turns_regular ho entries w₂ ht
  have hentries := turns_entries poller poller.silentSweep entries w₂
  generalize poller.turns poller.silentSweep entries w₂ = pass
    at hpass hregular hentries
  obtain ⟨outcomes, houtcomes⟩ := Turn.outcomes_of_ok fun turn hm =>
    (hregular turn hm).imp fun _ h => h.1
  refine ⟨pass.1, outcomes, pass.2, ?_, ?_, Turn.outcomes_ok houtcomes, hregular⟩
  · refine hpass.congr houtcomes ?_
    simp only [passEvents, Turn.closing, houtcomes, List.cons_append]
    congr 2
    refine List.flatMap_congr fun turn hm => ?_
    obtain ⟨status, hstatus, -⟩ := hregular turn hm
    simp [Turn.round, hstatus]
  · rw [← List.length_map Turn.entry, ← List.prefix_iff_eq_take]
    exact hentries

/-- A poller over the volatile store whose world is that store alone: every balance and the clock
stand still, sweeps succeed, and nothing can be handed over. -/
def steady (balance now : Int) : Poller (Keyed InvoiceKey Invoice) where
  store := Store.ofMemory Cell.whole
  ledger := Ledger.steady balance
  sweep _ := pure ("0x01", .null)
  notifier := Notifier.unspecified
  journal _ w := w
  clock w := (.int now, w)
  sleep _ w := w
  stopped w := (false, w)

theorem steady_orderly (balance now : Int) : (steady balance now).Orderly where
  clock _ := ⟨now, rfl⟩
  nativeBalance _ _ := .inl ⟨balance, rfl⟩
  tokenBalance _ _ _ := .inl ⟨balance, rfl⟩
  sweep _ _ := .inl ⟨("0x01", .null), rfl⟩

theorem steady_treatable (balance now last : Int) (key : String) (invoice : Invoice)
    (h : invoice.expires = .int last) :
    (steady balance now).Treatable (.text key, invoice) where
  expires _ := ⟨.int last, by simp [h, Json.asNumber?]⟩
  delete w := by
    have h := Store.apply_ofMemory_delete Cell.whole key w
    split at h
    · exact .inl (by rw [steady, h])
    · exact .inr ⟨_, by rw [steady, h]⟩

/-- An unpaid invoice with nothing but an amount and a last moment. -/
def bill (amount : Nat) (last : Int) (h : amount < Amount.bound := by decide) : Invoice where
  address := ""
  wallet := ⟨[]⟩
  amount := ⟨amount, h⟩
  expires := .int last

/-- An overdue, an unpaid and a paid invoice, for moment 100 and a balance of 7. -/
def threeEntries : Keyed InvoiceKey Invoice where
  entries := [(.text "overdue", bill 5 99), (.text "unpaid", bill 8 100),
    (.text "paid", bill 7 100)]
  distinct := by decide

theorem runPass_regular_threeEntries :
    ∃ (turns : List (Turn (Keyed InvoiceKey Invoice)))
      (outcomes : List (InvoiceKey × InvoiceStatus)) (w₂ : Keyed InvoiceKey Invoice),
      Shows (steady 7 100).runPass (steady 7 100).traced.runPass threeEntries (.ok outcomes)
        (.listed (.ok threeEntries.entries) :: turns.flatMap (fun turn =>
            .stopRead false :: turn.events ++ [.paused (.int 1)]) ++
          if turns.length < 3 then [.stopRead true] else []) w₂ ∧
      turns.map Turn.entry = threeEntries.entries.take turns.length ∧
      turns.map (fun turn => (turn.key, turn.result)) =
        outcomes.map (fun outcome => (outcome.1, .ok outcome.2)) ∧
      ∀ turn ∈ turns, ∃ status, turn.result = .ok status ∧
        RegularTurn turn.key turn.invoice status turn.events :=
  runPass_regular (steady 7 100) (steady_orderly 7 100) rfl fun entry h => by
    simp only [threeEntries, List.mem_cons, List.not_mem_nil, or_false] at h
    rcases h with rfl | rfl | rfl
    · exact steady_treatable 7 100 99 _ _ rfl
    · exact steady_treatable 7 100 100 _ _ rfl
    · exact steady_treatable 7 100 100 _ _ rfl

end Poller

end DepositGateway
