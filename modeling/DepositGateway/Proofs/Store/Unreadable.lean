import DepositGateway.Proofs.Invoice.Written
import DepositGateway.Proofs.Store.Agreement
import Mathlib.Data.List.Nodup

/-!
# Rows that cannot be read do no harm

A table may hold rows whose bytes are no record of an invoice. Requests are served beside them as if
they were not there, and they wait where they are until their own key is written.

* `Rows.after`: what a request makes of the rows. `Store.look_worldAfter`: any number of them.
* `Rows.After.stands`: a row whose key is not written keeps its number, its bytes and its place.
* `Rows.Thinned`: rows beside those that are left when hidden ones are taken out.
  `Rows.Thinned.after`: requests for other keys keep it so.
* `Table.Legible`: a table as it may be found. `Store.PassesOver`: what each request comes to on it.
* `Store.unreadable_inert`: so it is after any requests, and the rows that cannot be read have
  stayed or were written.
-/

namespace DepositGateway

/-- The row holds no invoice. -/
def Row.Unreadable (row : Row) : Prop := row.readable? = none

/-- A request writes a key: it sets or deletes it. -/
inductive StoreRequest.Writes : StoreRequest → String → Prop
  | set (key : String) (invoice : Invoice) : Writes (.set key invoice) key
  | delete (key : String) : Writes (.delete key) key

/-- The world after requests, each served in the world that the one before it left. -/
def Store.worldAfter {ω : Type} (store : Store ω) : List StoreRequest → ω → ω
  | [], w => w
  | request :: rest, w => worldAfter store rest ((store.serve request).apply w).2

/-- A row that can be read holds the record of an invoice, under its own key. -/
theorem Row.eq_of_readable? {row : Row} {entry : InvoiceKey × Invoice}
    (h : row.readable? = some entry) :
    entry.1 = .text row.key ∧ Invoice.decode row.data = .ok entry.2 := by
  unfold readable? at h
  cases hdecode : Invoice.decode row.data with
  | ok invoice =>
    rw [hdecode] at h
    cases h
    exact ⟨rfl, rfl⟩
  | error =>
    rw [hdecode] at h
    cases h

theorem Row.unreadable_iff {row : Row} :
    row.Unreadable ↔ ∃ fault, Invoice.decode row.data = .error fault := by
  rw [Unreadable, readable?, Option.map_eq_none_iff]
  cases Invoice.decode row.data <;> simp [Except.toOption]

namespace Rows

variable {rows : Rows}

/-! ## What requests make of the rows -/

/-- The rows after a request. -/
def after (rows : Rows) : StoreRequest → Rows
  | .set key invoice =>
    match invoice.encode with
    | .ok data => rows.put key data
    | .error _ => rows
  | .delete key => rows.erase key
  | _ => rows

/-- The rows after requests. -/
def afterAll (rows : Rows) (requests : List StoreRequest) : Rows := requests.foldl after rows

theorem Ascending.after (h : rows.Ascending) (request : StoreRequest) :
    (rows.after request).Ascending := by
  cases request with
  | set key invoice =>
    rw [Rows.after]
    split
    · exact h.put key _
    · exact h
  | delete key => exact h.erase key
  | get | getAll | latest => exact h

/-- The bytes of a row after a request are those of a row before it or were written as a record. -/
theorem data_after {request : StoreRequest} {row : Row} (h : row ∈ (rows.after request).entries) :
    (∃ before ∈ rows.entries, before.data = row.data) ∨
      ∃ invoice : Invoice, invoice.encode = .ok row.data := by
  have hsame (h : row ∈ rows.entries) : ∃ before ∈ rows.entries, before.data = row.data :=
    ⟨row, h, rfl⟩
  cases request with
  | set key invoice =>
    rw [after] at h
    split at h
    · next data hdata =>
      rcases mem_of_mem_put h with h | ⟨-, rfl⟩
      · exact .inl (hsame h)
      · exact .inr ⟨invoice, hdata⟩
    · exact .inl (hsame h)
  | delete key => exact .inl (hsame (List.mem_filter.1 h).1)
  | get | getAll | latest => exact .inl (hsame h)

/-- A row is found under its key. -/
theorem find?_of_mem {row : Row} (h : row ∈ rows.entries) : rows.find? row.key = some row := by
  have hsome : (rows.find? row.key).isSome = true :=
    find?_isSome.2 (List.mem_map_of_mem h)
  obtain ⟨found, hfound⟩ := Option.isSome_iff_exists.1 hsome
  have hkey : found.key = row.key := by simpa using List.find?_some hfound
  rw [hfound, List.inj_on_of_nodup_map rows.distinct (List.mem_of_find?_eq_some hfound) h hkey]

/-! ## Rows that are not written -/

/-- A row stands among rows, and only rows of the given keys stand before it, in their order. -/
def StandsAfter (row : Row) (keys : List String) (rows : Rows) : Prop :=
  ∃ before later, rows.entries = before ++ row :: later ∧ (before.map Row.key).Sublist keys

theorem written_of_ne {key : String} {data : Bytes} {row : Row} (h : row.key ≠ key) :
    written key data row = row := if_neg h

theorem map_key_written (key : String) (data : Bytes) (entries : List Row) :
    (entries.map (written key data)).map Row.key = entries.map Row.key := by
  rw [List.map_map]
  exact List.map_congr_left fun row _ => key_written key data row

/-- A request that does not write the key of a row leaves the row where it stands. -/
theorem StandsAfter.after {row : Row} {keys : List String} (h : StandsAfter row keys rows)
    {request : StoreRequest} (hother : ¬ request.Writes row.key) :
    StandsAfter row keys (rows.after request) := by
  obtain ⟨before, later, hrows, hkeys⟩ := h
  cases request with
  | set key invoice =>
    have hkey : row.key ≠ key := by
      rintro rfl
      exact hother (.set _ _)
    rw [Rows.after]
    split
    · next data _ =>
      rw [StandsAfter, entries_put, hrows]
      split
      · refine ⟨before.map (written key data), later.map (written key data), ?_, ?_⟩
        · rw [List.map_append, List.map_cons, written_of_ne hkey]
        · rwa [map_key_written]
      · refine ⟨before, later ++ [⟨rows.nextNumber, key, data⟩], ?_, hkeys⟩
        rw [List.append_assoc, List.cons_append]
    · exact ⟨before, later, hrows, hkeys⟩
  | delete key =>
    have hkey : row.key ≠ key := by
      rintro rfl
      exact hother (.delete _)
    refine ⟨before.filter (·.key ≠ key), later.filter (·.key ≠ key), ?_,
      (List.filter_sublist.map _).trans hkeys⟩
    rw [Rows.after, entries_erase, hrows, List.filter_append,
      List.filter_cons_of_pos (by simpa using hkey)]
  | get | getAll | latest => exact ⟨before, later, hrows, hkeys⟩

theorem StandsAfter.afterAll {row : Row} {keys : List String} {requests : List StoreRequest}
    (h : StandsAfter row keys rows) (hother : ∀ request ∈ requests, ¬ request.Writes row.key) :
    StandsAfter row keys (rows.afterAll requests) := by
  induction requests generalizing rows with
  | nil => exact h
  | cons request rest ih =>
    rw [List.forall_mem_cons] at hother
    exact ih (h.after hother.1) hother.2

/-- Bytes put under the key of a row replace those of the row where it stands. -/
theorem put_of_stands {before later : List Row} {row : Row} (data : Bytes)
    (h : rows.entries = before ++ row :: later) :
    (rows.put row.key data).entries = before ++ { row with data } :: later := by
  have hdistinct := rows.distinct
  have hmem : row.key ∈ rows.keys := by simp [keys, h]
  have hother {others : List Row} (hothers : ∀ other ∈ others, other.key ≠ row.key) :
      others.map (written row.key data) = others :=
    (List.map_congr_left fun other hmem => written_of_ne (hothers other hmem)).trans
      (List.map_id others)
  rw [h, List.map_append, List.map_cons, List.nodup_append, List.nodup_cons] at hdistinct
  obtain ⟨-, ⟨hlater, -⟩, hbefore⟩ := hdistinct
  rw [entries_put, if_pos hmem, h, List.map_append, List.map_cons,
    hother fun other hmem => ?_, hother fun other hmem => ?_]
  · rw [written, if_pos rfl]
  · rintro hkey
    exact hlater (hkey ▸ List.mem_map_of_mem hmem)
  · exact hbefore _ (List.mem_map_of_mem hmem) _ List.mem_cons_self

/-! ## Rows of which some are hidden -/

/-- The key and the bytes of a row. -/
def content (row : Row) : String × Bytes := (row.key, row.data)

/-- `kept` holds the rows whose keys are not hidden, in their order and under any numbers, and none
of the hidden ones can be read. -/
structure Thinned (hidden : List String) (rows kept : Rows) : Prop where
  kept : kept.entries.map content = (rows.entries.filter (·.key ∉ hidden)).map content
  unreadable : ∀ row ∈ rows.entries, row.key ∈ hidden → row.Unreadable

/-- The entry that a row with this key and these bytes holds. -/
def entry? (content : String × Bytes) : Option (InvoiceKey × Invoice) :=
  (Invoice.decode content.2).toOption.map fun invoice => (.text content.1, invoice)

theorem filterMap_readable (entries : List Row) :
    entries.filterMap Row.readable? = (entries.map content).filterMap entry? := by
  rw [List.filterMap_map]
  rfl

variable {kept : Rows} {hidden : List String}

/-- What can be read of the rows is what can be read of those that are kept. -/
theorem Thinned.readable (h : Thinned hidden rows kept) :
    kept.entries.filterMap Row.readable? = rows.entries.filterMap Row.readable? := by
  rw [filterMap_readable, h.kept, ← filterMap_readable, List.filterMap_filter]
  refine List.filterMap_congr fun row hrow => ?_
  by_cases hkey : row.key ∈ hidden
  · simpa [hkey] using (h.unreadable row hrow hkey).symm
  · simp [hkey]

theorem Thinned.mem_keys (h : Thinned hidden rows kept) {key : String} (hkey : key ∉ hidden) :
    key ∈ kept.keys ↔ key ∈ rows.keys := by
  have hkeys : kept.keys = (rows.entries.filter (·.key ∉ hidden)).map Row.key := by
    have hcontent (entries : List Row) : (entries.map content).map Prod.fst =
        entries.map Row.key := by
      rw [List.map_map]
      rfl
    rw [keys, ← hcontent, h.kept, hcontent]
  rw [hkeys, keys]
  simp only [List.mem_map, List.mem_filter, decide_eq_true_eq]
  grind

theorem content_written (key : String) (data : Bytes) (row : Row) :
    content (written key data row) = if row.key = key then (key, data) else content row := by
  unfold written content
  split
  · next hkey => rw [hkey]
  · rfl

theorem map_content_written (key : String) (data : Bytes) (entries : List Row) :
    (entries.map (written key data)).map content =
      (entries.map content).map fun found => if found.1 = key then (key, data) else found := by
  rw [List.map_map, List.map_map]
  exact List.map_congr_left fun row _ => content_written key data row

theorem Thinned.put (h : Thinned hidden rows kept) {key : String} (hkey : key ∉ hidden)
    (data : Bytes) : Thinned hidden (rows.put key data) (kept.put key data) := by
  by_cases hmem : key ∈ rows.keys
  · refine ⟨?_, fun row hrow hhidden => ?_⟩
    · have hfilter : (rows.entries.map (written key data)).filter (·.key ∉ hidden) =
          (rows.entries.filter (·.key ∉ hidden)).map (written key data) := by
        rw [List.filter_map]
        refine congrArg _ (List.filter_congr fun row _ => ?_)
        simp [key_written]
      rw [entries_put, if_pos ((h.mem_keys hkey).2 hmem), entries_put, if_pos hmem, hfilter,
        map_content_written, map_content_written, h.kept]
    · rw [entries_put, if_pos hmem] at hrow
      obtain ⟨before, hbefore, rfl⟩ := List.mem_map.1 hrow
      rw [key_written] at hhidden
      have hother : before.key ≠ key := fun e => hkey (e ▸ hhidden)
      rw [written_of_ne hother]
      exact h.unreadable before hbefore hhidden
  · refine ⟨?_, fun row hrow hhidden => ?_⟩
    · rw [entries_put, if_neg (mt (h.mem_keys hkey).1 hmem), entries_put, if_neg hmem,
        List.filter_append, List.map_append, List.map_append, h.kept,
        List.filter_cons_of_pos (by simpa using hkey)]
      rfl
    · rw [entries_put, if_neg hmem] at hrow
      rcases List.mem_append.1 hrow with hrow | hrow
      · exact h.unreadable row hrow hhidden
      · rw [List.mem_singleton.1 hrow] at hhidden
        exact absurd hhidden hkey

theorem Thinned.erase (h : Thinned hidden rows kept) (key : String) :
    Thinned hidden (rows.erase key) (kept.erase key) := by
  have hcontent (entries : List Row) : (entries.filter (·.key ≠ key)).map content =
      (entries.map content).filter (·.1 ≠ key) := by
    rw [List.filter_map]
    rfl
  refine ⟨?_, fun row hrow => h.unreadable row (List.mem_filter.1 hrow).1⟩
  rw [entries_erase, entries_erase, hcontent, h.kept, ← hcontent, List.filter_filter,
    List.filter_filter]
  exact congrArg _ (List.filter_congr fun row _ => Bool.and_comm _ _)

/-- A request that writes no hidden key changes both alike. -/
theorem Thinned.after (h : Thinned hidden rows kept) {request : StoreRequest}
    (hother : ∀ key ∈ hidden, ¬ request.Writes key) :
    Thinned hidden (rows.after request) (kept.after request) := by
  cases request with
  | set key invoice =>
    have hkey : key ∉ hidden := fun hhidden => hother key hhidden (.set _ _)
    rw [Rows.after, Rows.after]
    split
    · exact h.put hkey _
    · exact h
  | delete key => exact h.erase key
  | get | getAll | latest => exact h

theorem Thinned.afterAll {requests : List StoreRequest} (h : Thinned hidden rows kept)
    (hother : ∀ request ∈ requests, ∀ key ∈ hidden, ¬ request.Writes key) :
    Thinned hidden (rows.afterAll requests) (kept.afterAll requests) := by
  induction requests generalizing rows kept with
  | nil => exact h
  | cons request rest ih =>
    rw [List.forall_mem_cons] at hother
    exact ih (h.after hother.1) hother.2

/-- The keys of the rows that cannot be read. -/
def unreadableKeys (rows : Rows) : List String :=
  (rows.entries.filter fun row => row.readable?.isNone).map Row.key

/-- The rows that can be read, under any numbers, beside all rows. -/
theorem thinned_of_kept
    (h : kept.entries.map content =
      (rows.entries.filter fun row => row.readable?.isSome).map content) :
    Thinned rows.unreadableKeys rows kept := by
  have hkey {row : Row} (hrow : row ∈ rows.entries) :
      row.key ∈ rows.unreadableKeys ↔ row.readable? = none := by
    simp only [unreadableKeys, List.mem_map, List.mem_filter, Option.isNone_iff_eq_none]
    refine ⟨?_, fun hnone => ⟨row, ⟨hrow, hnone⟩, rfl⟩⟩
    rintro ⟨other, ⟨hother, hnone⟩, hkey⟩
    exact List.inj_on_of_nodup_map rows.distinct hother hrow hkey ▸ hnone
  refine ⟨h.trans (congrArg _ (List.filter_congr fun row hrow => ?_)),
    fun row hrow => (hkey hrow).1⟩
  rw [Bool.eq_iff_iff]
  simp [hkey hrow, Option.isSome_iff_ne_none]

end Rows

/-! ## The table at work -/

theorem Action.snd_apply_bind_pure {ω α β : Type} (first : Action ω α) (f : α → β) (w : ω) :
    ((do return f (← first)).apply w).2 = (first.apply w).2 := by
  rw [Action.apply_bind]
  rcases first.apply w with ⟨_ | _, _⟩ <;> rfl

/-- A table as it may be found: its rows are in the order of their numbers, and those that hold no
invoice are refused by a fault of the store. -/
structure Table.Legible (table : Table) : Prop where
  present : table.isGone = false
  ascending : table.rows.Ascending
  refusals : ∀ row ∈ table.rows.entries, ∀ fault, Invoice.decode row.data = .error fault →
    ∃ text, fault.toFault = .store (.deserialize text)

theorem Table.Legible.not_escapes {table : Table} (h : table.Legible) {row : Row}
    (hrow : row ∈ table.rows.entries) : ¬ Invoice.Escapes row.data := by
  intro hescapes
  obtain ⟨fault, hdecode, hother⟩ := Invoice.decode_of_escapes hescapes
  obtain ⟨text, htext⟩ := h.refusals row hrow fault hdecode
  exact hother text htext

theorem Table.Legible.after {table : Table} (h : table.Legible) (request : StoreRequest) :
    ({ table with rows := table.rows.after request } : Table).Legible where
  present := h.present
  ascending := h.ascending.after request
  refusals row hrow fault hdecode := by
    rcases Rows.data_after hrow with ⟨before, hbefore, hdata⟩ | ⟨invoice, hencode⟩
    · exact h.refusals before hbefore fault (hdata ▸ hdecode)
    · by_contra hnone
      exact Invoice.not_escapes_of_encode hencode
        (Invoice.escapes_of_decode hdecode (not_exists.1 hnone))

theorem Table.Legible.afterAll {table : Table} (h : table.Legible)
    (requests : List StoreRequest) :
    ({ table with rows := table.rows.afterAll requests } : Table).Legible := by
  induction requests generalizing table with
  | nil => exact h
  | cons request rest ih => exact ih (h.after request)

namespace Store

variable {ω : Type}

/-- What each request comes to on a table of which some rows may be unreadable. -/
structure PassesOver (store : Store ω) (cell : Cell ω Table) (w : ω) : Prop where
  /-- All rows that can be read are listed in their order, and the listing does not fail. -/
  getAll : (store.getAll.apply w).1 = .ok ((cell.look w).rows.inOrder.filterMap Row.readable?)
  /-- A row that cannot be read is refused as such. -/
  get : ∀ row ∈ (cell.look w).rows.inOrder, row.Unreadable →
    ∃ text, ((store.get (.text row.key)).apply w).1 = .error (.store (.deserialize text))
  /-- So is the last row, and no other is in its place. -/
  latest : (∃ text, (store.latest.apply w).1 = .error (.store (.deserialize text))) ↔
    ∃ row, (cell.look w).rows.inOrder.getLast? = some row ∧ row.Unreadable
  /-- An invoice with a key that is set on a row which cannot be read is read in its place. -/
  repairs : ∀ {before later : List Row} {row : Row} {invoice : Invoice} {w' : ω},
    (cell.look w).rows.inOrder = before ++ row :: later → row.Unreadable →
    invoice.wallet.bytes ≠ [] → (store.set (.text row.key) invoice).apply w = (.ok (), w') →
    ∃ data stored, (cell.look w').rows.inOrder = before ++ { row with data } :: later ∧
      Row.readable? { row with data } = some (.text row.key, stored) ∧
      stored.wallet = invoice.wallet
  /-- An invoice that has no record is refused as unserializable, and every row stays. -/
  refuses : ∀ (key : String) {invoice : Invoice} {fault : Fault}, invoice.encode = .error fault →
    ((store.set (.text key) invoice).apply w).1 = .error fault ∧
      cell.look ((store.set (.text key) invoice).apply w).2 = cell.look w ∧
      (invoice.Typed → ∃ text, fault = .store (.serialize text))

section Table

variable {cell : Cell ω Table} {journal : Journal ω} {w : ω}

theorem snd_readRow (data : Bytes) (w : ω) : ((readRow data).apply w).2 = w := by
  unfold readRow
  split <;> rfl

theorem apply_readRow_error {data : Bytes} {fault : RecordFault}
    (h : Invoice.decode data = .error fault) (w : ω) :
    (readRow data).apply w = (.error fault.toFault, w) := by
  rw [readRow, h]
  rfl

/-- Reading rows leaves the table as it is, if reporting does. -/
theorem look_readRows (hj : ∀ entry w, cell.look (journal entry w) = cell.look w)
    (rows : List Row) (w : ω) : cell.look ((readRows journal rows).apply w).2 = cell.look w := by
  induction rows generalizing w with
  | nil => rfl
  | cons row rest ih =>
    rw [readRows, Action.apply_attempt_bind, snd_readRow]
    split
    · rw [Action.snd_apply_bind_pure]
      exact ih w
    · rw [Action.apply_bind]
      exact (ih _).trans (hj _ w)
    · rfl

/-- The rows after a request are what it makes of those before it. -/
theorem look_serve (hc : cell.Lawful)
    (hj : ∀ entry w, cell.look (journal entry w) = cell.look w)
    (h : (cell.look w).isGone = false) (request : StoreRequest) :
    cell.look (((ofTable cell journal).serve request).apply w).2 =
      { cell.look w with rows := (cell.look w).rows.after request } := by
  cases request with
  | set key invoice =>
    rw [serve, Action.snd_apply_bind_pure, Rows.after]
    cases hdata : invoice.encode with
    | error fault => simp only [ofTable, Action.apply_bind, hdata, Action.apply_ofExcept]
    | ok data =>
      simp only [ofTable, Action.apply_bind, hdata, Action.apply_ofExcept, apply_putRow key data h,
        hc.look_put]
  | get key =>
    rw [serve, Action.snd_apply_bind_pure]
    simp only [ofTable, Action.apply_bind, apply_findRow key h]
    split
    · exact congrArg cell.look (snd_readRow _ w)
    · rfl
  | getAll =>
    rw [serve, Action.snd_apply_bind_pure]
    simp only [ofTable, Action.apply_bind, apply_withTable _ h, Cell.apply_read]
    exact look_readRows hj _ w
  | latest =>
    rw [serve, Action.snd_apply_bind_pure]
    simp only [ofTable, Action.apply_bind, apply_withTable _ h, Cell.apply_read]
    split
    · rw [Action.snd_apply_bind_pure, snd_readRow]
      rfl
    · rfl
  | delete key =>
    rw [serve, Action.snd_apply_bind_pure]
    simp only [ofTable, Action.apply_bind, apply_eraseRow key h]
    refine Eq.trans ?_ (hc.look_put _ w)
    split <;> rfl

/-- The rows after requests are what these make of those before them. -/
theorem look_worldAfter (hc : cell.Lawful)
    (hj : ∀ entry w, cell.look (journal entry w) = cell.look w) (requests : List StoreRequest)
    (w : ω) (h : (cell.look w).isGone = false) :
    cell.look ((ofTable cell journal).worldAfter requests w) =
      { cell.look w with rows := (cell.look w).rows.afterAll requests } := by
  induction requests generalizing w with
  | nil => rfl
  | cons request rest ih =>
    have hserve := look_serve hc hj h request
    rw [worldAfter, ih _ (by rw [hserve]; exact h), hserve]
    rfl

theorem apply_latest (h : (cell.look w).isGone = false) :
    ((ofTable cell journal).latest.apply w).1 =
      match (cell.look w).rows.latest? with
      | some row => (fun invoice => (.text row.key, invoice)) <$> ((readRow row.data).apply w).1
      | none => .error (.store (.notFound "")) := by
  simp only [ofTable, Action.apply_bind, apply_withTable _ h, Cell.apply_read]
  cases (cell.look w).rows.latest? with
  | none => rfl
  | some row => exact Action.fst_apply_bind_pure _ _ w

/-- A legible table passes over its unreadable rows. -/
theorem passesOver_ofTable (hc : cell.Lawful) (h : (cell.look w).Legible) :
    (ofTable cell journal).PassesOver cell w where
  getAll := getAll_ofTable_readable h.present fun _ hrow => h.not_escapes hrow
  get row hrow hunreadable := by
    obtain ⟨fault, hdecode⟩ := Row.unreadable_iff.1 hunreadable
    rw [h.ascending.inOrder] at hrow
    obtain ⟨text, htext⟩ := h.refusals row hrow fault hdecode
    refine ⟨text, ?_⟩
    simp only [ofTable, Action.apply_bind, apply_findRow row.key h.present,
      Rows.find?_of_mem hrow, apply_readRow_error hdecode, htext]
  latest := by
    rw [apply_latest h.present, h.ascending.inOrder, h.ascending.latest?]
    cases hlast : (cell.look w).rows.entries.getLast? with
    | none => simp
    | some row =>
      have hrow := List.mem_of_getLast? hlast
      simp only [Option.some.injEq, exists_eq_left', Row.unreadable_iff]
      constructor
      · rintro ⟨text, herror⟩
        rw [readRow] at herror
        split at herror
        · cases herror
        · next fault hdecode => exact ⟨fault, hdecode⟩
      · rintro ⟨fault, hdecode⟩
        obtain ⟨text, htext⟩ := h.refusals row hrow fault hdecode
        refine ⟨text, ?_⟩
        rw [apply_readRow_error hdecode, htext]
        rfl
  repairs {before later row invoice w'} hrows hunreadable hwallet hset := by
    rw [h.ascending.inOrder] at hrows
    obtain ⟨data, w₁, hdata, hput⟩ := Action.ok_of_apply_bind hset
    obtain ⟨hencode, rfl⟩ := Action.ok_of_apply_ofExcept hdata
    rw [apply_putRow row.key data h.present] at hput
    cases hput
    obtain ⟨stored, hdecode, hrecalls⟩ := Invoice.exists_decode_of_encode hwallet hencode
    refine ⟨data, stored, ?_, ?_, hrecalls.wallet⟩
    · rw [hc.look_put, (h.ascending.put row.key data).inOrder]
      exact Rows.put_of_stands data hrows
    · rw [Row.readable?, hdecode]
      rfl
  refuses key {invoice fault} hencode := by
    simp only [ofTable, Action.apply_bind, hencode, Action.apply_ofExcept, true_and]
    exact fun typed => ⟨_, Invoice.encode_eq_error typed hencode⟩

end Table

/-- Whatever is requested of a table in which some rows cannot be read: each request comes to what
it should after any others. The listing is that of a table which began without these rows, unless
their keys were written. A row whose key was not written has kept its number, its bytes and its
place: before it stand only rows that did so at the start. -/
theorem unreadable_inert {ω : Type} {cell : Cell ω Table} {journal : Journal ω}
    (hc : cell.Lawful) (hj : ∀ entry w, cell.look (journal entry w) = cell.look w) {w : ω}
    (h : (cell.look w).Legible) (requests : List StoreRequest) :
    (ofTable cell journal).PassesOver cell ((ofTable cell journal).worldAfter requests w) ∧
      (∀ v, (cell.look v).Legible →
        (cell.look v).rows.inOrder.map Rows.content =
          ((cell.look w).rows.inOrder.filter fun row => row.readable?.isSome).map Rows.content →
        (∀ request ∈ requests, ∀ row ∈ (cell.look w).rows.inOrder,
          row.Unreadable → ¬ request.Writes row.key) →
        ((ofTable cell journal).getAll.apply ((ofTable cell journal).worldAfter requests v)).1 =
          ((ofTable cell journal).getAll.apply
            ((ofTable cell journal).worldAfter requests w)).1) ∧
      ∀ before row later, (cell.look w).rows.inOrder = before ++ row :: later →
        (∀ request ∈ requests, ¬ request.Writes row.key) →
        ∃ before' later',
          (cell.look ((ofTable cell journal).worldAfter requests w)).rows.inOrder =
            before' ++ row :: later' ∧ (before'.map Row.key).Sublist (before.map Row.key) := by
  have hafter {w : ω} (h : (cell.look w).Legible) :
      (cell.look ((ofTable cell journal).worldAfter requests w)).Legible := by
    rw [look_worldAfter hc hj requests w h.present]
    exact h.afterAll requests
  refine ⟨passesOver_ofTable hc (hafter h), fun v hv hkept hother => ?_,
    fun before row later hrows hother => ?_⟩
  · rw [(passesOver_ofTable hc (hafter hv)).getAll, (passesOver_ofTable hc (hafter h)).getAll,
      (hafter hv).ascending.inOrder, (hafter h).ascending.inOrder,
      look_worldAfter hc hj requests v hv.present, look_worldAfter hc hj requests w h.present]
    rw [hv.ascending.inOrder, h.ascending.inOrder] at hkept
    rw [h.ascending.inOrder] at hother
    refine congrArg Except.ok (Rows.Thinned.readable (Rows.Thinned.afterAll
      (Rows.thinned_of_kept hkept) fun request hrequest key hkey => ?_))
    obtain ⟨row, hrow, rfl⟩ := List.mem_map.1 hkey
    exact hother request hrequest row (List.mem_filter.1 hrow).1
      (Option.isNone_iff_eq_none.1 (List.mem_filter.1 hrow).2)
  · rw [(hafter h).ascending.inOrder, look_worldAfter hc hj requests w h.present]
    rw [h.ascending.inOrder] at hrows
    have hstands : Rows.StandsAfter row (before.map Row.key) (cell.look w).rows :=
      ⟨before, later, hrows, List.Sublist.refl _⟩
    exact hstands.afterAll hother

/-- A row of one byte, which is no record. -/
def brokenRow : Row := ⟨1, "a", [0xff]⟩

/-- A table with this row alone. -/
def brokenTable : Table where
  rows := ⟨[brokenRow], List.nodup_singleton _⟩

/-- An invoice is set beside a row that cannot be read: the row is still refused, and still the
first one. -/
theorem unreadable_inert_broken :
    let store := ofTable .whole fun _ table => table
    let table := store.worldAfter [.set "b" (unpaid 1), .getAll] brokenTable
    (∃ text, ((store.get (.text "a")).apply table).1 = .error (.store (.deserialize text))) ∧
      ∃ later, table.rows.inOrder = brokenRow :: later := by
  intro store table
  have hlegible : brokenTable.Legible := by
    refine ⟨rfl, List.pairwise_singleton _ _, fun row hrow fault hdecode => ?_⟩
    rw [List.mem_singleton.1 hrow] at hdecode
    have hbroken : Invoice.decode brokenRow.data = .error .malformed := by decide
    rw [hbroken] at hdecode
    cases hdecode
    exact ⟨_, rfl⟩
  obtain ⟨hpasses, -, hstays⟩ := unreadable_inert Cell.lawful_whole (fun _ _ => rfl) hlegible
    [.set "b" (unpaid 1), .getAll]
  have hother : ∀ request ∈ [StoreRequest.set "b" (unpaid 1), .getAll],
      ¬ request.Writes brokenRow.key := by
    intro request hrequest hwrites
    simp only [List.mem_cons, List.not_mem_nil, or_false] at hrequest
    generalize hkey : brokenRow.key = key at hwrites
    rcases hrequest with rfl | rfl
    · cases hwrites
      exact absurd hkey (by decide)
    · cases hwrites
  obtain ⟨before, later, hrows, hbefore⟩ :=
    hstays [] brokenRow [] (hlegible.ascending.inOrder) hother
  rw [List.map_nil, List.sublist_nil, List.map_eq_nil_iff] at hbefore
  rw [hbefore, List.nil_append] at hrows
  refine ⟨hpasses.get brokenRow ?_ (Row.unreadable_iff.2 ⟨.malformed, by decide⟩), later, hrows⟩
  exact hrows ▸ List.mem_cons_self

end Store

end DepositGateway
