import DepositGateway.Proofs.Run.Log
import DepositGateway.Proofs.Store.Memory

/-!
# Threads that share a store

Passes and orders for invoices run at the same time and share the volatile store. A thread runs its
code in a world of its own, which stands for all the answers that the thread is given; what ties the
threads together is that the answers of the store are those of one stock which they all change.

* `Job`: what a thread does, and `Job.calls`, the calls it makes with their answers.
* `Answers`: what a call does to the stock. A call to the store may also fail and change nothing.
* `Interleaving`: an order in which the calls of threads can happen, each thread as far as it has
  come. So every beginning of one is one as well, `Interleaving.of_append`.
* `Interleaving.listed_before`: before it does anything else a pass has read the store; all that it
  does then is for entries that it read, `pass_calls` and `isFor_of_mem_turn`.
* `Interleaving.deleted_by_turn`: only passes delete.
-/

namespace DepositGateway

/-- What a thread does: a pass, or an order for an invoice. -/
inductive Job : Type 1 where
  | pass {ω : Type} (poller : Poller ω) (w : ω)
  | order {ω : Type} (gateway : Gateway ω) (amount : Json) (method : PaymentMethod)
      (message : Bytes) (expiresIn : Number) (w : ω)

/-- The calls of a thread. -/
def Job.calls : Job → List Event
  | .pass poller w => (poller.traced.runPass.apply ⟨w, []⟩).2.history
  | .order gateway amount method message expiresIn w =>
    ((gateway.traced.newInvoice amount method message expiresIn).apply ⟨w, []⟩).2.history

/-- The stock of the volatile store. -/
abbrev Stock := Keyed InvoiceKey Invoice

/-- Whether a call is one to the store. -/
def Event.isOfStore : Event → Bool
  | .listed _ | .stored _ _ _ | .deleted _ _ => true
  | _ => false

/-- A call with its answer leaves one stock after another: the store does what it is asked for, or
it fails and changes nothing. -/
inductive Answers : Event → Stock → Stock → Prop
  | listed {answer : Except Fault (List (InvoiceKey × Invoice))} {stock after : Stock}
      (done : (Store.ofMemory Cell.whole).getAll.apply stock = (answer, after)) :
      Answers (.listed answer) stock after
  | notListed (fault : Fault) (stock : Stock) : Answers (.listed (.error fault)) stock stock
  | stored {key : InvoiceKey} {invoice : Invoice} {answer : Except Fault Unit}
      {stock after : Stock}
      (done : ((Store.ofMemory Cell.whole).set key invoice).apply stock = (answer, after)) :
      Answers (.stored key invoice answer) stock after
  | notStored (key : InvoiceKey) (invoice : Invoice) (fault : Fault) (stock : Stock) :
      Answers (.stored key invoice (.error fault)) stock stock
  | deleted {key : InvoiceKey} {answer : Except Fault Unit} {stock after : Stock}
      (done : ((Store.ofMemory Cell.whole).delete key).apply stock = (answer, after)) :
      Answers (.deleted key answer) stock after
  | notDeleted (key : InvoiceKey) (fault : Fault) (stock : Stock) :
      Answers (.deleted key (.error fault)) stock stock
  | other {event : Event} (stock : Stock) (h : event.isOfStore = false) :
      Answers event stock stock

/-- From one stock to another by the calls of a history, the latest at its end. -/
inductive Reaches {τ : Type} (stock : Stock) : List (τ × Event) → Stock → Prop
  | start : Reaches stock [] stock
  | next {history : List (τ × Event)} {mid after : Stock} {thread : τ} {event : Event}
      (before : Reaches stock history mid) (answers : Answers event mid after) :
      Reaches stock (history ++ [(thread, event)]) after

section

variable {τ : Type} [DecidableEq τ]

/-- The calls of one thread. -/
def callsOf (thread : τ) (history : List (τ × Event)) : List Event :=
  (history.filter (·.1 = thread)).map Prod.snd

/-- A history of calls of threads with the stock they leave: each thread has made its first
calls. -/
structure Interleaving (jobs : τ → Job) (stock : Stock) (history : List (τ × Event))
    (after : Stock) : Prop where
  reaches : Reaches stock history after
  threads : ∀ thread, callsOf thread history <+: (jobs thread).calls

end

/-- The invoices that were stored, the earliest first. -/
def created {τ : Type} (history : List (τ × Event)) : List (InvoiceKey × Invoice) :=
  history.filterMap fun call =>
    match call.2 with
    | .stored key invoice (.ok _) => some (key, invoice)
    | _ => none

/-! ## The stock -/

theorem apply_found_whole (key : InvoiceKey) (stock : Stock) :
    (Store.found Cell.whole key).apply stock =
      (if key.isSingle then .ok (stock.find? key) else .error .badType, stock) := by
  unfold Store.found
  split <;> rfl

/-- A store that succeeds in setting puts the invoice in stock. -/
theorem apply_set_whole {key : InvoiceKey} {invoice : Invoice} {answer : Except Fault Unit}
    {stock after : Stock}
    (h : ((Store.ofMemory Cell.whole).set key invoice).apply stock = (answer, after)) :
    (answer = .ok () ∧ after = stock.put key invoice) ∨
      ∃ fault, answer = .error fault ∧ after = stock := by
  simp only [Store.ofMemory, Action.apply_bind, apply_found_whole] at h
  split at h
  · next hfound =>
    rw [Prod.mk.injEq] at hfound
    obtain ⟨-, rfl⟩ := hfound
    cases h
    exact .inl ⟨rfl, rfl⟩
  · next fault _ hfound =>
    rw [Prod.mk.injEq] at hfound
    obtain ⟨-, rfl⟩ := hfound
    cases h
    exact .inr ⟨fault, rfl, rfl⟩

/-- A store that succeeds in deleting takes the entry out of stock. -/
theorem apply_delete_whole {key : InvoiceKey} {answer : Except Fault Unit} {stock after : Stock}
    (h : ((Store.ofMemory Cell.whole).delete key).apply stock = (answer, after)) :
    (answer = .ok () ∧ after = stock.erase key) ∨
      ∃ fault, answer = .error fault ∧ after = stock := by
  simp only [Store.ofMemory, Action.apply_bind, apply_found_whole] at h
  split at h
  · next found _ hfound =>
    rw [Prod.mk.injEq] at hfound
    obtain ⟨-, rfl⟩ := hfound
    cases found with
    | some invoice =>
      cases h
      exact .inl ⟨rfl, rfl⟩
    | none =>
      cases h
      exact .inr ⟨_, rfl, rfl⟩
  · next fault _ hfound =>
    rw [Prod.mk.injEq] at hfound
    obtain ⟨-, rfl⟩ := hfound
    cases h
    exact .inr ⟨fault, rfl, rfl⟩

/-- What a call does to the stock: it puts an invoice there, it takes one off, or nothing. -/
inductive StockChange (stock : Stock) : Event → Stock → Prop
  | put (key : InvoiceKey) (invoice : Invoice) :
      StockChange stock (.stored key invoice (.ok ())) (stock.put key invoice)
  | erase (key : InvoiceKey) : StockChange stock (.deleted key (.ok ())) (stock.erase key)
  | none {event : Event} (notStored : ∀ key invoice, event ≠ .stored key invoice (.ok ()))
      (notDeleted : ∀ key, event ≠ .deleted key (.ok ()))
      (listed : ∀ entries, event = .listed (.ok entries) → entries = stock.entries) :
      StockChange stock event stock

theorem Answers.change {event : Event} {stock after : Stock} (h : Answers event stock after) :
    StockChange stock event after := by
  cases h with
  | listed done =>
    rw [Store.apply_ofMemory_getAll] at done
    cases done
    exact .none (by simp) (by simp) (by simp [Cell.whole, eq_comm])
  | notListed fault => exact .none (by simp) (by simp) (by simp)
  | stored done =>
    obtain ⟨rfl, rfl⟩ | ⟨fault, rfl, rfl⟩ := apply_set_whole done
    · exact .put _ _
    · exact .none (by simp) (by simp) (by simp)
  | notStored key invoice fault => exact .none (by simp) (by simp) (by simp)
  | deleted done =>
    obtain ⟨rfl, rfl⟩ | ⟨fault, rfl, rfl⟩ := apply_delete_whole done
    · exact .erase _
    · exact .none (by simp) (by simp) (by simp)
  | notDeleted key fault => exact .none (by simp) (by simp) (by simp)
  | other _ h =>
    refine .none ?_ ?_ ?_
    · rintro key invoice rfl
      cases h
    · rintro key rfl
      cases h
    · rintro entries rfl
      cases h

/-! ## Beginnings -/

section

variable {τ : Type} {stock after : Stock} {first rest : List (τ × Event)}

/-- A history that goes on from another goes on from the stock that the other left. -/
theorem Reaches.split (h : Reaches stock (first ++ rest) after) :
    ∃ mid, Reaches stock first mid ∧ Reaches mid rest after := by
  generalize hwhole : first ++ rest = whole at h
  -- A history grows at its end, so its last call is that of `rest`, unless `rest` is empty.
  induction h generalizing rest with
  | start =>
    obtain ⟨rfl, rfl⟩ := List.append_eq_nil_iff.1 hwhole
    exact ⟨stock, .start, .start⟩
  | @next history mid after thread event before answers ih =>
    rcases List.eq_nil_or_concat rest with rfl | ⟨others, last, rfl⟩
    · rw [List.append_nil] at hwhole
      subst hwhole
      exact ⟨after, .next before answers, .start⟩
    · rw [List.concat_eq_append, ← List.append_assoc] at hwhole
      obtain ⟨hhistory, hlast⟩ := List.append_inj' hwhole rfl
      cases hlast
      obtain ⟨middle, hfirst, hothers⟩ := ih hhistory
      rw [List.concat_eq_append]
      exact ⟨middle, hfirst, .next hothers answers⟩

theorem Reaches.nil (h : @Reaches τ stock [] after) : after = stock := by
  generalize hnone : [] = history at h
  cases h with
  | start => rfl
  | next => simp at hnone

theorem Reaches.single {thread : τ} {event : Event} (h : Reaches stock [(thread, event)] after) :
    Answers event stock after := by
  generalize hone : [(thread, event)] = history at h
  cases h with
  | start => cases hone
  | @next history mid _ _ _ before answers =>
    obtain ⟨hnone, hlast⟩ := List.append_inj' (show [] ++ [(thread, event)] = _ from hone) rfl
    cases hlast
    cases hnone
    rwa [before.nil] at answers

variable [DecidableEq τ]

theorem callsOf_append (thread : τ) (first rest : List (τ × Event)) :
    callsOf thread (first ++ rest) = callsOf thread first ++ callsOf thread rest := by
  simp [callsOf]

/-- Every beginning of a history is one. -/
theorem Interleaving.of_append {jobs : τ → Job}
    (h : Interleaving jobs stock (first ++ rest) after) :
    ∃ mid, Interleaving jobs stock first mid ∧ Reaches mid rest after := by
  obtain ⟨mid, hfirst, hrest⟩ := h.reaches.split
  refine ⟨mid, ⟨hfirst, fun thread => ?_⟩, hrest⟩
  have hcalls := h.threads thread
  rw [callsOf_append] at hcalls
  exact (List.prefix_append _ _).trans hcalls

end

/-! ## The calls of a thread -/

/-- Whether a call is made for an entry: its removal, its delivery, its sweep, the question for its
balance, or a look at the clock. -/
def Event.IsFor (entry : InvoiceKey × Invoice) : Event → Prop
  | .deleted key _ => key = entry.1
  | .sent key _ _ => key = entry.1
  | .swept invoice _ => invoice = entry.2
  | .asked question _ => question = Poller.balanceQuestion entry.2
  | .clockRead _ => True
  | _ => False

/-- Whether a turn hands its invoice to the notifier, as paid and with what its sweep gave. -/
def Turn.HandsOver {ω : Type} (turn : Turn ω) : Prop :=
  ∃ hash receipt seen answer,
    .sent turn.key { turn.invoice with hash, receipt, paidAt := .int seen } answer ∈ turn.events

section

variable {ω : Type} {poller : Poller ω} {w : ω}

/-- The turns of a pass. -/
abbrev passTurns (poller : Poller ω) (w : ω) : List (Turn ω) :=
  (poller.passTurns poller.silentSweep w).1

/-- What is read of the store at the beginning of a pass. -/
abbrev listing (poller : Poller ω) (w : ω) : Except Fault (List (InvoiceKey × Invoice)) :=
  (poller.store.getAll.apply w).1

/-- The calls that find an invoice paid are made for its entry. -/
theorem isFor_of_mem_opening {invoice : Invoice} {opening : List Event} {seen : Int}
    (h : poller.Detects invoice opening seen) (key : InvoiceKey) {event : Event}
    (hevent : event ∈ opening) : event.IsFor (key, invoice) := by
  obtain ⟨reading, answer, reading', -, -, -, -, -, -, rfl⟩ := h
  simp only [List.mem_cons, List.not_mem_nil, or_false] at hevent
  rcases hevent with rfl | rfl | rfl <;> simp [Event.IsFor]

/-- They delete nothing. -/
theorem deleted_not_mem_opening {invoice : Invoice} {opening : List Event} {seen : Int}
    (h : poller.Detects invoice opening seen) (key : InvoiceKey) (answer : Except Fault Unit) :
    .deleted key answer ∉ opening := by
  obtain ⟨reading, reply, reading', -, -, -, -, -, -, rfl⟩ := h
  simp

/-- All calls of a turn are made for its entry. -/
theorem isFor_of_mem_turn {turn : Turn ω} (h : turn ∈ passTurns poller w) {event : Event}
    (hevent : event ∈ turn.events) : event.IsFor turn.entry := by
  obtain ⟨w', hcourse⟩ := Poller.passTurns_course poller.keeps_true poller.notes_silent h
  generalize hevents : turn.events = events at hcourse hevent
  generalize turn.result = result at hcourse
  cases hcourse with
  | undated | expired | unpaid | undetected =>
    simp only [List.mem_cons, List.not_mem_nil, or_false] at hevent
    rcases hevent with rfl | rfl | rfl <;> simp [Event.IsFor, Turn.entry]
  | abandoned detects sweeps =>
    rw [sweeps.silent, List.append_nil, List.mem_append, List.mem_singleton] at hevent
    rcases hevent with hevent | rfl
    · exact isFor_of_mem_opening detects turn.key hevent
    · rfl
  | unremoved detects sweeps =>
    rw [sweeps.silent, List.append_nil, List.mem_append] at hevent
    rcases hevent with hevent | hevent
    · exact isFor_of_mem_opening detects turn.key hevent
    · simp only [List.mem_cons, List.not_mem_nil, or_false] at hevent
      rcases hevent with rfl | rfl <;> rfl
  | handedOver sent detects sweeps =>
    rw [sweeps.silent, List.append_nil, List.mem_append] at hevent
    rcases hevent with hevent | hevent
    · exact isFor_of_mem_opening detects turn.key hevent
    · simp only [List.mem_cons, List.not_mem_nil, or_false] at hevent
      rcases hevent with rfl | rfl | rfl <;> rfl

/-- What a sweep gives changes no more of an invoice than hash and receipt. -/
theorem settlement_invoice {invoice settled : Invoice} {answer : Except Fault (String × Json)}
    {status : InvoiceStatus} (h : Poller.settlement invoice answer = .ok (status, settled)) :
    ∃ hash receipt, settled = { invoice with hash, receipt } := by
  unfold Poller.settlement at h
  split at h <;> cases h
  · exact ⟨_, _, rfl⟩
  · exact ⟨invoice.hash, invoice.receipt, rfl⟩

/-- A turn that removes its entry reports it expired or delivers it. -/
theorem expired_or_handsOver {turn : Turn ω} (h : turn ∈ passTurns poller w) {key : InvoiceKey}
    (hdeleted : .deleted key (.ok ()) ∈ turn.events) :
    turn.result = .ok .expired ∨ turn.HandsOver := by
  obtain ⟨w', hcourse⟩ := Poller.passTurns_course poller.keeps_true poller.notes_silent h
  unfold Turn.HandsOver
  generalize turn.events = events at hcourse hdeleted
  generalize turn.result = result at hcourse
  cases hcourse with
  | undated | unpaid | undetected => simp at hdeleted
  | expired clock past removes =>
    simp only [List.mem_cons, reduceCtorEq, Event.deleted.injEq, List.not_mem_nil, or_false,
      false_or] at hdeleted
    obtain ⟨-, rfl⟩ := hdeleted
    exact .inl rfl
  | abandoned detects sweeps =>
    simp [sweeps.silent, deleted_not_mem_opening detects] at hdeleted
  | unremoved detects sweeps ended removes foreign =>
    simp only [sweeps.silent, List.append_nil, List.mem_append, deleted_not_mem_opening detects,
      List.mem_cons, reduceCtorEq, Event.deleted.injEq, List.not_mem_nil, or_false,
      false_or] at hdeleted
    obtain ⟨-, rfl⟩ := hdeleted
    cases foreign
  | handedOver sent detects sweeps ended removes done =>
    obtain ⟨hash, receipt, rfl⟩ := settlement_invoice ended
    exact .inr ⟨hash, receipt, _, sent, List.mem_append_right _ (.tail _ (.tail _ (.head _)))⟩

/-- The turns of a pass are those of entries that it has read. -/
theorem entry_mem_listing {turn : Turn ω} (h : turn ∈ passTurns poller w) :
    ∃ entries, listing poller w = .ok entries ∧ turn.entry ∈ entries := by
  unfold passTurns Poller.passTurns at h
  split at h
  · next entries _ hlisting =>
    refine ⟨entries, congrArg Prod.fst hlisting, ?_⟩
    exact (Poller.turns_entries _ _ _ _).subset (List.mem_map_of_mem h)
  · cases h
  · cases h

/-- A pass reads the store first, and all that follows is part of a turn, a look at the stop flag or
a pause. -/
theorem pass_calls (poller : Poller ω) (w : ω) :
    ∃ rest, (Job.pass poller w).calls = .listed (listing poller w) :: rest ∧
      ∀ event ∈ rest, (∃ stopped, event = .stopRead stopped) ∨ (∃ delay, event = .paused delay) ∨
        ∃ turn ∈ passTurns poller w, event ∈ turn.events := by
  have hshows := (Poller.runPass_shows poller.keeps_true poller.notes_silent w).traced []
  have hcalls : (Job.pass poller w).calls = Poller.passEvents poller.invoiceDelay
      (listing poller w) (passTurns poller w) := by
    rw [Job.calls, hshows]
    rfl
  refine ⟨_, hcalls, fun event hevent => ?_⟩
  split at hevent
  · next entries =>
    rcases List.mem_append.1 hevent with hround | hclosing
    · obtain ⟨turn, hturn, hround⟩ := List.mem_flatMap.1 hround
      rw [Turn.round, List.cons_append, List.mem_cons, List.mem_append] at hround
      rcases hround with rfl | hround | hpause
      · exact .inl ⟨false, rfl⟩
      · exact .inr (.inr ⟨turn, hturn, hround⟩)
      · split at hpause
        · exact .inr (.inl ⟨_, List.mem_singleton.1 hpause⟩)
        · cases hpause
    · rw [Turn.closing] at hclosing
      split at hclosing
      · split at hclosing
        · exact .inl ⟨true, List.mem_singleton.1 hclosing⟩
        · cases hclosing
      · cases hclosing
  · cases hevent

/-- An order deletes nothing. -/
theorem order_calls {gateway : Gateway ω} {amount : Json} {method : PaymentMethod}
    {message : Bytes} {expiresIn : Number} {key : InvoiceKey} {answer : Except Fault Unit} :
    .deleted key answer ∉ (Job.order gateway amount method message expiresIn w).calls := by
  obtain ⟨result, events, w', hshows, hcreation⟩ :=
    Gateway.newInvoice_shows gateway.keeps_true amount method message expiresIn w
  have hcalls : (Job.order gateway amount method message expiresIn w).calls = events := by
    rw [Job.calls, hshows.traced []]
    rfl
  rw [hcalls]
  cases hcreation with
  | refused readings => simp
  | stored readings => simp

end

/-! ## The calls of a thread in a history -/

section

variable {τ : Type} [DecidableEq τ] {jobs : τ → Job} {stock after : Stock}
  {history first rest : List (τ × Event)} {thread : τ} {event : Event}

theorem mem_callsOf : event ∈ callsOf thread history ↔ (thread, event) ∈ history := by
  simp [callsOf]

theorem Interleaving.mem_calls (h : Interleaving jobs stock history after)
    (hevent : (thread, event) ∈ history) : event ∈ (jobs thread).calls :=
  (h.threads thread).subset (mem_callsOf.2 hevent)

/-- A pass has read the store before it does anything else. -/
theorem Interleaving.listed_before
    (h : Interleaving jobs stock (first ++ (thread, event) :: rest) after) {ω : Type}
    {poller : Poller ω} {w : ω} (hjob : jobs thread = .pass poller w)
    (hother : event ≠ .listed (listing poller w)) :
    (thread, .listed (listing poller w)) ∈ first := by
  obtain ⟨others, hcalls, -⟩ := pass_calls poller w
  have hbegin := h.threads thread
  rw [hjob, hcalls, callsOf_append] at hbegin
  rw [← mem_callsOf]
  cases hfirst : callsOf thread first with
  | nil =>
    -- Then this call would be the first of the pass, and that is the reading.
    have hhead : callsOf thread ((thread, event) :: rest) = event :: callsOf thread rest := by
      simp [callsOf]
    rw [hfirst, List.nil_append, hhead, List.cons_prefix_cons] at hbegin
    exact absurd hbegin.1 hother
  | cons head tail =>
    rw [hfirst, List.cons_append, List.cons_prefix_cons] at hbegin
    rw [hbegin.1]
    exact List.mem_cons_self

/-- Only a pass deletes, and it does so in the turn of an entry that it has read before. -/
theorem Interleaving.deleted_by_turn {key : InvoiceKey} {answer : Except Fault Unit}
    (h : Interleaving jobs stock (first ++ (thread, .deleted key answer) :: rest) after) :
    ∃ (ω : Type) (poller : Poller ω) (w : ω), jobs thread = .pass poller w ∧
      ∃ turn ∈ passTurns poller w, .deleted key answer ∈ turn.events ∧ turn.key = key ∧
        ∃ entries, (thread, .listed (.ok entries)) ∈ first ∧ turn.entry ∈ entries := by
  have hcall := h.mem_calls (List.mem_append_right _ List.mem_cons_self)
  cases hjob : jobs thread with
  | order gateway amount method message expiresIn w =>
    rw [hjob] at hcall
    exact absurd hcall order_calls
  | @pass ω poller w =>
    obtain ⟨others, hcalls, hothers⟩ := pass_calls poller w
    rw [hjob, hcalls, List.mem_cons] at hcall
    have hlisted := h.listed_before hjob (by simp)
    obtain ⟨turn, hturn, hevent⟩ :
        ∃ turn ∈ passTurns poller w, .deleted key answer ∈ turn.events := by
      rcases hcall with hcall | hcall
      · cases hcall
      · obtain ⟨stopped, hstop⟩ | ⟨delay, hpause⟩ | hturn := hothers _ hcall
        · cases hstop
        · cases hpause
        · exact hturn
    obtain ⟨entries, hentries, hentry⟩ := entry_mem_listing hturn
    rw [hentries] at hlisted
    exact ⟨ω, poller, w, rfl, turn, hturn, hevent, (isFor_of_mem_turn hturn hevent).symm, entries,
      hlisted, hentry⟩

end

end DepositGateway
