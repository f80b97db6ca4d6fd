import DepositGateway.Proofs.Concurrent.Interleaving
import DepositGateway.Proofs.Run.AtMostOnce
import DepositGateway.Proofs.Store.Volatile
import Mathlib.Data.List.Nodup

/-!
# Nothing is lost between threads

Orders store invoices while passes work from what they read of the store before. What was created
under a new key stays as it was created until a turn of a pass removes it, and such a turn reports
it expired or delivers it. What is created after one reading of the store is found by the next one.

* `Closed`: an entry was removed by such a turn.
* `TreatsListed`: a call of a pass treats an entry that the pass had read before.
* `Interleaving.lossless`: the three properties of all histories.
-/

namespace DepositGateway

variable {τ : Type} {stock mid after : Stock} {history first rest : List (τ × Event)}

/-! ## What was created -/

theorem created_append (first rest : List (τ × Event)) :
    created (first ++ rest) = created first ++ created rest :=
  List.filterMap_append

theorem created_stored (thread : τ) (key : InvoiceKey) (invoice : Invoice) :
    created [(thread, .stored key invoice (.ok ()))] = [(key, invoice)] := rfl

theorem created_other {thread : τ} {event : Event}
    (h : ∀ key invoice, event ≠ .stored key invoice (.ok ())) : created [(thread, event)] = [] := by
  cases event with
  | stored key invoice answer =>
    cases answer with
    | error fault => rfl
    | ok done => exact absurd rfl (h key invoice)
  | _ => rfl

/-! ## The stock and what was created -/

/-- An invoice under a new key is put last. -/
theorem entries_put {stock : Stock} {key : InvoiceKey} {invoice : Invoice}
    (h : key ∉ stock.entries.map Prod.fst) :
    (stock.put key invoice).entries = stock.entries ++ [(key, invoice)] :=
  (Keyed.putIn_eq key invoice stock.distinct).trans (if_neg h)

theorem entries_erase (stock : Stock) (key : InvoiceKey) :
    (stock.erase key).entries = stock.entries.filter fun entry => entry.1 ≠ key :=
  Keyed.eraseIn_eq key stock.entries

theorem mem_put {stock : Stock} {key : InvoiceKey} {invoice : Invoice}
    {entry : InvoiceKey × Invoice} (h : entry ∈ (stock.put key invoice).entries) :
    entry ∈ stock.entries ∨ entry = (key, invoice) := by
  rw [show (stock.put key invoice).entries = _ from Keyed.putIn_eq key invoice stock.distinct] at h
  split at h
  · obtain ⟨old, hold, rfl⟩ := List.mem_map.1 h
    split
    · exact .inr rfl
    · exact .inl hold
  · simpa using h

/-- What is in stock was there or was created. -/
theorem Reaches.mem_entries (h : Reaches stock history after) {entry : InvoiceKey × Invoice}
    (hentry : entry ∈ after.entries) : entry ∈ stock.entries ++ created history := by
  induction h with
  | start => simpa [created] using hentry
  | @next history mid after thread event before answers ih =>
    rw [created_append, ← List.append_assoc, List.mem_append]
    cases answers.change with
    | put key invoice =>
      rw [created_stored, List.mem_singleton]
      exact (mem_put hentry).imp_left ih
    | erase key =>
      rw [entries_erase] at hentry
      exact .inl (ih ((List.mem_filter.1 hentry).1))
    | none => exact .inl (ih hentry)

/-- What was read of the store was there or was created before. -/
theorem Reaches.mem_listed (h : Reaches stock history after) {thread : τ}
    {entries : List (InvoiceKey × Invoice)} (hlisted : (thread, .listed (.ok entries)) ∈ history)
    {entry : InvoiceKey × Invoice} (hentry : entry ∈ entries) :
    entry ∈ stock.entries ++ created history := by
  induction h with
  | start => cases hlisted
  | @next history mid after other event before answers ih =>
    rw [created_append, ← List.append_assoc]
    refine List.mem_append_left _ ?_
    rcases List.mem_append.1 hlisted with hlisted | hlast
    · exact ih hlisted
    · cases List.mem_singleton.1 hlast
      cases answers.change with
      | none notStored notDeleted listed =>
        rw [listed _ rfl] at hentry
        exact before.mem_entries hentry

/-- A reading that comes first reads what is in stock. -/
theorem Reaches.listed_eq {thread : τ} {entries : List (InvoiceKey × Invoice)}
    (h : Reaches stock ((thread, .listed (.ok entries)) :: rest) after) :
    entries = stock.entries := by
  obtain ⟨mid, hfirst, -⟩ :=
    (show Reaches stock ([(thread, .listed (.ok entries))] ++ rest) after from h).split
  cases hfirst.single.change with
  | none notStored notDeleted listed => exact listed _ rfl

/-- New keys are new after any beginning. -/
theorem fresh_of_append
    (fresh : ((stock.entries ++ created (first ++ rest)).map Prod.fst).Nodup) :
    ((stock.entries ++ created first).map Prod.fst).Nodup := by
  rw [created_append, ← List.append_assoc, List.map_append] at fresh
  exact (List.nodup_append.1 fresh).1

/-- A key that is stored next is new. -/
theorem Reaches.not_mem_of_fresh {thread : τ} {key : InvoiceKey} {invoice : Invoice}
    (h : Reaches stock history mid)
    (fresh : ((stock.entries ++ created (history ++ [(thread, .stored key invoice (.ok ()))])).map
      Prod.fst).Nodup) : key ∉ mid.entries.map Prod.fst := by
  rw [created_append, ← List.append_assoc, List.map_append, List.nodup_append] at fresh
  intro hkey
  obtain ⟨entry, hentry, rfl⟩ := List.mem_map.1 hkey
  exact fresh.2.2 _ (List.mem_map_of_mem (h.mem_entries hentry)) _ List.mem_cons_self rfl

/-- What was created under new keys is in stock, unless it was deleted. -/
theorem Reaches.stays (h : Reaches stock history after)
    (fresh : ((stock.entries ++ created history).map Prod.fst).Nodup)
    {entry : InvoiceKey × Invoice} (hentry : entry ∈ created history) :
    entry ∈ after.entries ∨ ∃ thread, (thread, .deleted entry.1 (.ok ())) ∈ history := by
  induction h with
  | start => cases hentry
  | @next history mid after other event before answers ih =>
    have hbefore := ih (fresh_of_append fresh)
    rw [created_append, List.mem_append] at hentry
    cases answers.change with
    | put key invoice =>
      rw [entries_put (before.not_mem_of_fresh fresh)]
      rcases hentry with hold | hnew
      · rcases hbefore hold with hstays | ⟨thread, hdeleted⟩
        · exact .inl (List.mem_append_left _ hstays)
        · exact .inr ⟨thread, List.mem_append_left _ hdeleted⟩
      · rw [created_stored] at hnew
        exact .inl (List.mem_append_right _ hnew)
    | erase key =>
      rw [created_other (by simp), List.mem_nil_iff, or_false] at hentry
      rcases hbefore hentry with hstays | ⟨thread, hdeleted⟩
      · by_cases hkey : entry.1 = key
        · exact .inr ⟨other, List.mem_append_right _ (by simp [hkey])⟩
        · rw [entries_erase]
          exact .inl (List.mem_filter.2 ⟨hstays, by simpa using hkey⟩)
      · exact .inr ⟨thread, List.mem_append_left _ hdeleted⟩
    | none notStored =>
      rw [created_other notStored, List.mem_nil_iff, or_false] at hentry
      exact (hbefore hentry).imp_right fun ⟨thread, hdeleted⟩ =>
        ⟨thread, List.mem_append_left _ hdeleted⟩

/-- What was created under new keys stands last in stock, while nothing of it is deleted. -/
theorem Reaches.suffix (h : Reaches stock history after)
    (fresh : ((stock.entries ++ created history).map Prod.fst).Nodup)
    (kept : ∀ thread key, (thread, .deleted key (.ok ())) ∈ history →
      key ∉ (created history).map Prod.fst) : created history <:+ after.entries := by
  induction h with
  | start => exact List.nil_suffix
  | @next history mid after other event before answers ih =>
    have hkept : ∀ thread key, (thread, .deleted key (.ok ())) ∈ history →
        key ∉ (created history).map Prod.fst := by
      intro thread key hdeleted hkey
      refine kept thread key (List.mem_append_left _ hdeleted) ?_
      rw [created_append, List.map_append]
      exact List.mem_append_left _ hkey
    have hbefore := ih (fresh_of_append fresh) hkept
    rw [created_append]
    cases answers.change with
    | put key invoice =>
      rw [entries_put (before.not_mem_of_fresh fresh), created_stored]
      obtain ⟨others, hothers⟩ := hbefore
      exact ⟨others, by rw [← hothers, List.append_assoc]⟩
    | erase key =>
      have hkey : key ∉ (created history).map Prod.fst := by
        have hlast := kept other key (by simp)
        rwa [created_append, created_other (by simp), List.append_nil] at hlast
      obtain ⟨others, hothers⟩ := hbefore
      -- The key is older than all that was created, so the removal leaves that whole.
      have hall : (created history).filter (fun entry => entry.1 ≠ key) = created history := by
        refine List.filter_eq_self.2 fun entry hentry => ?_
        rw [decide_eq_true_eq]
        rintro rfl
        exact hkey (List.mem_map_of_mem hentry)
      rw [created_other (by simp), List.append_nil, entries_erase, ← hothers, List.filter_append,
        hall]
      exact List.suffix_append _ _
    | none notStored =>
      rw [created_other notStored, List.append_nil]
      exact hbefore

/-- Calls that are none to the store leave the stock as it is. -/
theorem Reaches.others (h : Reaches stock history after) (calls : List (τ × Event))
    (hother : ∀ call ∈ calls, call.2.isOfStore = false) :
    Reaches stock (history ++ calls) after := by
  induction calls generalizing history with
  | nil => rwa [List.append_nil]
  | cons call rest ih =>
    rw [List.forall_mem_cons] at hother
    rw [List.append_cons]
    exact ih (h.next (.other after hother.1)) hother.2

/-! ## Threads -/

/-- A turn of a pass removed an entry, and it reports it expired or hands it over. -/
def Closed (jobs : τ → Job) (history : List (τ × Event)) (entry : InvoiceKey × Invoice) : Prop :=
  ∃ (thread : τ) (ω : Type) (poller : Poller ω) (w : ω), jobs thread = .pass poller w ∧
    (thread, .deleted entry.1 (.ok ())) ∈ history ∧
    ∃ turn ∈ passTurns poller w, turn.entry = entry ∧ .deleted entry.1 (.ok ()) ∈ turn.events ∧
      (turn.result = .ok .expired ∨ turn.HandsOver)

/-- Whether a call of a pass treats an entry that the pass had read before. -/
def TreatsListed {ω : Type} (first : List (τ × Event)) (thread : τ) (poller : Poller ω) (w : ω)
    (event : Event) : Prop :=
  ∃ entries, (thread, .listed (.ok entries)) ∈ first ∧
    ∃ turn ∈ passTurns poller w, turn.entry ∈ entries ∧ event ∈ turn.events ∧
      event.IsFor turn.entry

/-- Keys that are distinct tell entries apart. -/
theorem eq_of_nodup {entries others : List (InvoiceKey × Invoice)}
    (fresh : ((others ++ entries).map Prod.fst).Nodup) {a b : InvoiceKey × Invoice}
    (ha : a ∈ others ++ entries) (hb : b ∈ entries) (hkey : a.1 = b.1) : a = b :=
  List.inj_on_of_nodup_map fresh ha (List.mem_append_right _ hb) hkey

variable [DecidableEq τ] {jobs : τ → Job}

/-- What was created under a new key is in stock as it was created, or it was closed. -/
theorem Interleaving.stays_or_closed (h : Interleaving jobs stock history after)
    (fresh : ((stock.entries ++ created history).map Prod.fst).Nodup)
    {entry : InvoiceKey × Invoice} (hentry : entry ∈ created history) :
    entry ∈ after.entries ∨ Closed jobs history entry := by
  rcases h.reaches.stays fresh hentry with hstays | ⟨thread, hdeleted⟩
  · exact .inl hstays
  · refine .inr ?_
    obtain ⟨first, rest, rfl⟩ := List.append_of_mem hdeleted
    obtain ⟨ω, poller, w, hjob, turn, hturn, hevent, hkey, entries, hlisted, hread⟩ :=
      h.deleted_by_turn
    -- What the pass had read under this key was created before, and keys are created once.
    have hknown := h.reaches.mem_listed (List.mem_append_left _ hlisted) hread
    have hsame : turn.entry = entry := eq_of_nodup fresh hknown hentry hkey
    exact ⟨thread, ω, poller, w, hjob, hdeleted, turn, hturn, hsame, hevent,
      expired_or_handsOver hturn hevent⟩

/-- Whatever a pass does is for an entry that it had read before. -/
theorem Interleaving.treats_listed {thread : τ} {event : Event}
    (h : Interleaving jobs stock (first ++ (thread, event) :: rest) after) {ω : Type}
    {poller : Poller ω} {w : ω} (hjob : jobs thread = .pass poller w) :
    (∃ answer, event = .listed answer) ∨ (∃ stopped, event = .stopRead stopped) ∨
      (∃ delay, event = .paused delay) ∨ TreatsListed first thread poller w event := by
  obtain ⟨others, hcalls, hothers⟩ := pass_calls poller w
  have hcall := h.mem_calls (List.mem_append_right _ List.mem_cons_self)
  rw [hjob, hcalls, List.mem_cons] at hcall
  rcases hcall with rfl | hcall
  · exact .inl ⟨_, rfl⟩
  · obtain hstop | hpause | ⟨turn, hturn, hevent⟩ := hothers _ hcall
    · exact .inr (.inl hstop)
    · exact .inr (.inr (.inl hpause))
    · have hfor := isFor_of_mem_turn hturn hevent
      obtain ⟨entries, hentries, hread⟩ := entry_mem_listing hturn
      have hlisted := h.listed_before hjob (by rintro rfl; exact hfor)
      rw [hentries] at hlisted
      exact .inr (.inr (.inr ⟨entries, hlisted, turn, hturn, hread, hevent, hfor⟩))

/-- What was created since the store was read before stands last in what is read next. -/
theorem Interleaving.created_suffix {during : List (τ × Event)} {thread : τ}
    {entries : List (InvoiceKey × Invoice)}
    (h : Interleaving jobs stock (first ++ during ++ (thread, .listed (.ok entries)) :: rest) after)
    (fresh : ((stock.entries ++
      created (first ++ during ++ (thread, .listed (.ok entries)) :: rest)).map Prod.fst).Nodup)
    (unread : ∀ call ∈ during, ∀ found, call.2 ≠ .listed (.ok found)) :
    created during <:+ entries := by
  obtain ⟨last, hlast, hreading⟩ := h.of_append
  obtain ⟨mid, hmid, hduring⟩ := hlast.of_append
  rw [hreading.listed_eq]
  have hfresh := fresh_of_append fresh
  rw [created_append, ← List.append_assoc, List.map_append, List.nodup_append] at hfresh
  obtain ⟨-, hcreated, hdisjoint⟩ := hfresh
  have hknown {key : InvoiceKey} (hkey : key ∈ (created during).map Prod.fst) :
      key ∉ (stock.entries ++ created first).map Prod.fst := fun hold => hdisjoint _ hold _ hkey rfl
  have hmids : ((mid.entries ++ created during).map Prod.fst).Nodup := by
    rw [List.map_append, List.nodup_append]
    refine ⟨mid.distinct, hcreated, ?_⟩
    rintro _ hold key hkey rfl
    obtain ⟨entry, hentry, rfl⟩ := List.mem_map.1 hold
    exact hknown hkey (List.mem_map_of_mem (hmid.reaches.mem_entries hentry))
  refine hduring.suffix hmids fun other key hdeleted hkey => ?_
  -- Whoever deletes has read the store before, and that was not since the last reading.
  obtain ⟨before, behind, rfl⟩ := List.append_of_mem hdeleted
  rw [← List.append_assoc] at hlast
  obtain ⟨ω, poller, w, -, turn, -, -, rfl, found, hlisted, hread⟩ := hlast.deleted_by_turn
  rcases List.mem_append.1 hlisted with hlisted | hlisted
  · exact hknown hkey (List.mem_map_of_mem (hmid.reaches.mem_listed hlisted hread))
  · exact unread _ (List.mem_append_left _ hlisted) found rfl

/-- However the calls of passes and orders interleave: what was created under a new key is in stock
as it was created, unless a turn of a pass removed it that reports it expired or hands it over; a
pass does nothing but for entries that it had read before; and what was created since the store was
read is found when it is read next, in the order of creation. -/
theorem Interleaving.lossless (h : Interleaving jobs stock history after)
    (fresh : ((stock.entries ++ created history).map Prod.fst).Nodup) :
    (∀ entry ∈ created history, entry ∈ after.entries ∨ Closed jobs history entry) ∧
      (∀ first thread event rest, history = first ++ (thread, event) :: rest →
        ∀ (ω : Type) (poller : Poller ω) (w : ω), jobs thread = .pass poller w →
          (∃ answer, event = .listed answer) ∨ (∃ stopped, event = .stopRead stopped) ∨
            (∃ delay, event = .paused delay) ∨ TreatsListed first thread poller w event) ∧
      ∀ first during thread entries rest,
        history = first ++ during ++ (thread, .listed (.ok entries)) :: rest →
          (∀ call ∈ during, ∀ found, call.2 ≠ .listed (.ok found)) →
            created during <:+ entries := by
  refine ⟨fun entry hentry => h.stays_or_closed fresh hentry, ?_, ?_⟩
  · rintro first thread event rest rfl ω poller w hjob
    exact h.treats_listed hjob
  · rintro first during thread entries rest rfl unread
    exact h.created_suffix fresh unread

/-! ## An order between two passes -/

/-- The calls of the steady poller in a turn for what is paid in the coin of the chain. -/
def paidTurn (balance now : Int) (id : String) (invoice : Invoice) : List Event :=
  [.clockRead (.int now), .asked (.nativeBalance invoice.address) (.ok (.int balance)),
    .clockRead (.int now), .swept invoice (.ok ("0x01", .null)), .deleted (.text id) (.ok ()),
    .sent (.text id) { invoice with hash := .text "0x01", receipt := .null, paidAt := .int now }
      (.error (.other ⟨.notImplemented, some ""⟩))]

namespace Poller

/-- What is paid is swept and removed, and its delivery fails. -/
theorem steady_process_shows {balance now : Int} {invoice : Invoice} {id : String}
    (within : invoice.isExpired (.int now) = .ok false) (native : invoice.method = .native)
    (paid : (invoice.amount.toNat : Int) ≤ balance) {w w' : Stock}
    (hdelete : ((Store.ofMemory Cell.whole).delete (.text id)).apply w = (.ok (), w')) :
    Shows ((steady balance now).process (.text id) invoice)
      ((steady balance now).traced.process (.text id) invoice) w (.ok .settled)
      (paidTurn balance now id invoice) w' := by
  let poller := steady balance now
  let settled : Invoice := { invoice with hash := .text "0x01", receipt := .null }
  have hnow : Shows poller.now poller.traced.now w (.ok now) [.clockRead (.int now)] w :=
    now_shows _ poller w
  have hpaid : Shows (poller.isPaid invoice) (poller.traced.isPaid invoice) w (.ok true)
      [.asked (.nativeBalance invoice.address) (.ok (.int balance))] w := by
    unfold isPaid balanceOf
    rw [native]
    have hcovers : covers (.int balance) invoice.amount = .ok true := by
      simpa [verdict, bind, Except.bind, paid] using verdict_int invoice balance
    exact (Shows.recorded _ _ _).bind_quiet (Shows.known hcovers _)
  have hinfo := Shows.report poller.journal .poller .info ("Payment detected for invoice "
    ++ (InvoiceKey.text id).display ++ ", starting transfer to treasury") w
  have hsettle : Shows (poller.settle (.text id) invoice) (poller.traced.settle (.text id) invoice)
      w (.ok (.settled, settled)) [.swept invoice (.ok ("0x01", .null))] w := by
    have hsweep := (Shows.silent (poller.sweep invoice) w).noting (.swept invoice)
    exact hsweep.attempt.bind_quiet (Shows.pure _ w)
  have hwarn : Shows (poller.warnOfTokens (.text id) settled)
      (poller.traced.warnOfTokens (.text id) settled) w (.ok ()) [] w := by
    unfold warnOfTokens
    rw [show settled.method = .native from native]
    exact Shows.pure () w
  have hremove : Shows (poller.remove (.text id)) (poller.traced.remove (.text id)) w (.ok ())
      [.deleted (.text id) (.ok ())] w' := by
    have hasked := Shows.recorded (.deleted (.text id)) (poller.store.delete (.text id)) w
    rw [show (poller.store.delete (.text id)).apply w = (.ok (), w') from hdelete] at hasked
    exact hasked.attempt.bind_quiet (Shows.pure () w')
  have hsend (sent : Invoice) : Shows (deliver poller.notifier poller.journal (.text id) sent)
      (deliver poller.traced.notifier poller.traced.journal (.text id) sent) w' (.ok false)
      [.sent (.text id) sent (.error (.other ⟨.notImplemented, some ""⟩))] w' :=
    (Shows.recorded _ _ _).attempt.bind_quiet
      ((Shows.report _ _ _ _ _).bind_quiet (Shows.pure false w'))
  exact hnow.bind ((Shows.known within w).bind (hpaid.attempt.bind (hnow.bind (hinfo.bind
    (hsettle.bind (hwarn.bind (hremove.bind ((hsend _).bind_quiet (Shows.pure _ w')))))))))

/-- A pass over nothing else treats it so. -/
theorem steady_runPass_shows {balance now : Int} {invoice : Invoice} {id : String}
    (within : invoice.isExpired (.int now) = .ok false) (native : invoice.method = .native)
    (paid : (invoice.amount.toNat : Int) ≤ balance) {w w' : Stock}
    (hentries : w.entries = [(.text id, invoice)])
    (hdelete : ((Store.ofMemory Cell.whole).delete (.text id)).apply w = (.ok (), w')) :
    Shows (steady balance now).runPass (steady balance now).traced.runPass w
      (.ok [(.text id, .settled)])
      (.listed (.ok [(.text id, invoice)]) :: .stopRead false :: paidTurn balance now id invoice ++
        [.paused (.int 1)]) w' := by
  let poller := steady balance now
  have hlisted := (Shows.recorded .listed poller.store.getAll w).attempt
  have hread : poller.store.getAll.apply w = (.ok [(.text id, invoice)], w) :=
    congrArg (fun entries => (Except.ok entries, w)) hentries
  rw [hread] at hlisted
  have hstop : Shows poller.isStopped poller.traced.isStopped w (.ok false) [.stopRead false] w :=
    Shows.look .stopRead _ w
  have hturn := steady_process_shows within native paid hdelete
  have hpause := Shows.change (.paused (.int 1)) (poller.sleep (.int 1)) w'
  have hend : Shows (poller.processAll []) (poller.traced.processAll []) w' (.ok []) [] w' :=
    Shows.pure [] w'
  have hall : Shows (poller.processAll [(.text id, invoice)])
      (poller.traced.processAll [(.text id, invoice)]) w (.ok [(.text id, .settled)])
      (.stopRead false :: paidTurn balance now id invoice ++ [.paused (.int 1)]) w' :=
    hstop.bind (hturn.bind (hpause.bind_quiet (hend.bind_quiet (Shows.pure _ w'))))
  exact hlisted.bind ((Shows.report _ _ _ _ w).bind hall)

end Poller

/-- What is the only invoice in stock can be taken off. -/
theorem delete_single (id : String) (invoice : Invoice) :
    ((Store.ofMemory Cell.whole).delete (.text id)).apply
      ((Keyed.empty : Stock).put (.text id) invoice) = (.ok (), Keyed.empty) := by
  have hkeys : .text id ∈ ((Keyed.empty : Stock).put (.text id) invoice).keys :=
    List.mem_singleton.2 rfl
  rw [Store.apply_ofMemory_delete]
  refine (if_pos hkeys).trans (congrArg (Prod.mk _) (Keyed.ext ?_))
  exact if_pos rfl

/-- The entry that an order for five makes at the moment 100. -/
def fiveEntry : InvoiceKey × Invoice :=
  (.text (invoiceId "0x00" 100000),
    { address := "0x00", wallet := ⟨[]⟩, amount := 5, expires := .num (.int 160) })

/-- The stock with what was ordered. -/
def fiveStock : Stock := Keyed.empty.put fiveEntry.1 fiveEntry.2

/-- A pass over nothing, an order for five, and passes over what was ordered. -/
def passOrderPass : Nat → Job
  | 0 => .pass (Poller.steady 7 100) Keyed.empty
  | 1 => .order (Service.steady 7 100).gateway (.int 5) .native [] 60 Keyed.empty
  | _ => .pass (Poller.steady 7 100) fiveStock

/-- What the pass over what was ordered does for it: five are asked for, and seven are there. -/
def fiveTurn : List Event := paidTurn 7 100 (invoiceId "0x00" 100000) fiveEntry.2

/-- The first pass has read the store when the order comes. The second reads it afterwards, and
sweeps, removes and hands over what was ordered. -/
def orderBetween : List (Nat × Event) :=
  [(0, .listed (.ok [])), (1, .clockRead 100), (1, .clockRead 100),
    (1, .stored fiveEntry.1 fiveEntry.2 (.ok ())), (2, .listed (.ok [fiveEntry])),
    (2, .stopRead false)] ++ fiveTurn.map (Prod.mk 2) ++ [(2, .paused (.int 1))]

theorem calls_order_five : (passOrderPass 1).calls =
    [.clockRead 100, .clockRead 100, .stored fiveEntry.1 fiveEntry.2 (.ok ())] := by
  obtain ⟨result, answer, w₁, w', hshows, hset, -⟩ :=
    Gateway.stored_shows (Service.steady 7 100).gateway.keeps_true (invoiceId "0x00" 100000)
      fiveEntry.2 (.int 160) Keyed.empty
  have hcalls := congrArg (fun left => left.2.history)
    (hshows.traced [.clockRead 100, .clockRead 100])
  have hanswer : answer = .ok () := by
    cases hset
    rfl
  rw [hanswer] at hcalls
  exact hcalls

theorem calls_pass_five : (passOrderPass 2).calls =
    .listed (.ok [fiveEntry]) :: .stopRead false :: fiveTurn ++ [.paused (.int 1)] := by
  have within : fiveEntry.2.isExpired (.int 100) = .ok false := by decide
  exact (Poller.steady_runPass_shows within rfl (by decide) rfl (delete_single _ _)).history

theorem orderBetween_interleaves :
    Interleaving passOrderPass Keyed.empty orderBetween Keyed.empty where
  reaches := by
    have hread : Reaches Keyed.empty (orderBetween.take 1) Keyed.empty := .next .start (.listed rfl)
    have hclocks : Reaches Keyed.empty (orderBetween.take 3) Keyed.empty :=
      hread.others [(1, .clockRead 100), (1, .clockRead 100)] (by simp [Event.isOfStore])
    have hstored : Reaches Keyed.empty (orderBetween.take 4) fiveStock := hclocks.next (.stored rfl)
    have hagain : Reaches Keyed.empty (orderBetween.take 5) fiveStock := hstored.next (.listed rfl)
    have hswept : Reaches Keyed.empty (orderBetween.take 10) fiveStock :=
      hagain.others ((orderBetween.take 10).drop 5) (by
        simp [orderBetween, fiveTurn, paidTurn, Event.isOfStore])
    have hdeleted : Reaches Keyed.empty (orderBetween.take 11) Keyed.empty :=
      hswept.next (.deleted (delete_single _ _))
    exact hdeleted.others (orderBetween.drop 11) (by
      simp [orderBetween, fiveTurn, paidTurn, Event.isOfStore])
  threads
    | 0 => by
      obtain ⟨rest, hcalls, -⟩ := pass_calls (Poller.steady 7 100) Keyed.empty
      exact ⟨rest, hcalls.symm⟩
    | 1 => ⟨[], calls_order_five.symm⟩
    | 2 => ⟨[], calls_pass_five.symm⟩
    | n + 3 => by
      have hnone : callsOf (n + 3) orderBetween = [] := by
        simp [callsOf, orderBetween, fiveTurn, paidTurn]
      rw [hnone]
      exact List.nil_prefix

/-- What was ordered is found by the second pass, and once it is gone it was handed over. -/
theorem Interleaving.lossless_orderBetween :
    Interleaving passOrderPass Keyed.empty orderBetween Keyed.empty ∧
      fiveEntry ∈ created orderBetween ∧ Closed passOrderPass orderBetween fiveEntry ∧
      created (orderBetween.take 4) <:+ [fiveEntry] := by
  have hcreated : fiveEntry ∈ created orderBetween := List.mem_singleton.2 rfl
  have hfresh : (((Keyed.empty : Stock).entries ++ created orderBetween).map Prod.fst).Nodup :=
    List.nodup_singleton _
  obtain ⟨hstays, -, hnext⟩ := orderBetween_interleaves.lossless hfresh
  have hclosed := (hstays fiveEntry hcreated).resolve_left List.not_mem_nil
  have hsuffix := hnext (orderBetween.take 1) ((orderBetween.take 4).drop 1) 2 [fiveEntry]
    (orderBetween.drop 5) rfl
  refine ⟨orderBetween_interleaves, hcreated, hclosed, hsuffix ?_⟩
  simp [orderBetween]

end DepositGateway
