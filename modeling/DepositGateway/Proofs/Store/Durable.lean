import DepositGateway.Proofs.Invoice.RoundTrip
import DepositGateway.Proofs.Store.Listing
import DepositGateway.Proofs.Store.Memory
import DepositGateway.Proofs.Store.Rows
import DepositGateway.Store.Table
import Mathlib.Data.List.Forall2

/-!
# The durable store replies as a list of entries would

The rows hold, in their order, the records of the entries. What is read back from a record is the
same invoice, its receipt perhaps with the members of objects in another order.

* `Invoice.Canonical`, `Invoice.Same`: the invoices that come back the same from their records.
* `Table.Holds`: a table holds a list of entries.
* `Store.serve_ofTable`: one request. `Store.replies_ofTable`: any number of them.
-/

namespace DepositGateway

namespace Invoice

/-- An invoice that comes back the same from its record: it has one, its addresses are in checksum
form and its hash is not empty. -/
structure Canonical (invoice : Invoice) : Prop extends invoice.Recordable where
  checksum : Address.checksum? invoice.address = some invoice.address
  tokenChecksum : checksumMethod? invoice.method = some invoice.method
  hashGiven : invoice.hash ≠ .str []
  encodable : ∃ data, invoice.encode = .ok data

/-- Two invoices are the same: field by field, and their receipts as mappings. -/
structure Same (stored invoice : Invoice) : Prop where
  address : stored.address = invoice.address
  wallet : stored.wallet = invoice.wallet
  amount : stored.amount = invoice.amount
  method : stored.method = invoice.method
  message : stored.message = invoice.message
  paidAt : stored.paidAt = invoice.paidAt
  expires : stored.expires = invoice.expires
  receipt : stored.receipt.alike invoice.receipt = true
  hash : stored.hash = invoice.hash

/-- A canonical invoice comes back the same from its record. -/
theorem Canonical.comes_back {invoice : Invoice} (h : invoice.Canonical) {data : Bytes}
    (hdata : invoice.encode = .ok data) :
    ∃ stored, decode data = .ok stored ∧ stored.Same invoice := by
  obtain ⟨paidAt, hpaidAt⟩ := h.paidAt
  obtain ⟨expires, hexpires⟩ := h.expires
  obtain ⟨fields, hwrites, hencoded⟩ := exists_writes hpaidAt hexpires hdata
  obtain ⟨stored, hstored, hrestores⟩ := ofFields_of_writes h.toRecordable hwrites
  refine ⟨stored, (decode_record hencoded).trans hstored, ?_⟩
  exact {
    address := Option.some.inj (hrestores.address.symm.trans h.checksum)
    wallet := hrestores.wallet, amount := hrestores.amount
    method := Option.some.inj (hrestores.method.symm.trans h.tokenChecksum)
    message := hrestores.message, paidAt := hrestores.paidAt, expires := hrestores.expires
    receipt := hrestores.receipt
    hash := hrestores.hash.trans (if_neg h.hashGiven) }

end Invoice

/-! ## Replies -/

/-- Two entries are the same: their keys, and their invoices. -/
def SameEntry (stored entry : InvoiceKey × Invoice) : Prop :=
  stored.1 = entry.1 ∧ stored.2.Same entry.2

/-- Two replies are the same. -/
inductive StoreReply.Same : StoreReply → StoreReply → Prop
  | done : Same .done .done
  | invoice {stored invoice : Invoice} (same : stored.Same invoice) :
      Same (.invoice stored) (.invoice invoice)
  | entry {stored entry : InvoiceKey × Invoice} (same : SameEntry stored entry) :
      Same (.entry stored) (.entry entry)
  | entries {stored entries : List (InvoiceKey × Invoice)}
      (same : List.Forall₂ SameEntry stored entries) : Same (.entries stored) (.entries entries)

/-- Two outcomes of a request agree: they are the same fault or the same reply. -/
inductive Agree : Except Fault StoreReply → Except Fault StoreReply → Prop
  | ok {reply other : StoreReply} (same : reply.Same other) : Agree (.ok reply) (.ok other)
  | error (fault : Fault) : Agree (.error fault) (.error fault)

/-- A request that sets nothing but canonical invoices. -/
def StoreRequest.Canonical : StoreRequest → Prop
  | .set _ invoice => invoice.Canonical
  | _ => True

/-! ## Rows that hold entries -/

/-- A row holds the record of an entry. -/
structure Row.Holds (row : Row) (entry : String × Invoice) : Prop where
  key : row.key = entry.1
  canonical : entry.2.Canonical
  data : entry.2.encode = .ok row.data

namespace Rows

variable {rows : List Row} {listing : Listing}

theorem keys_of_holds (h : List.Forall₂ Row.Holds rows listing) :
    rows.map Row.key = listing.map Prod.fst := by
  induction h with
  | nil => rfl
  | cons hrow _ ih => rw [List.map_cons, List.map_cons, hrow.key, ih]

/-- The row of a key holds the invoice of the key. -/
theorem find?_of_holds {rows : Rows} (key : String)
    (h : List.Forall₂ Row.Holds rows.entries listing) :
    Option.Rel (fun row invoice => row.Holds (key, invoice)) (rows.find? key)
      (listing.find? key) := by
  have hfound := rel_find? (p := fun row => row.key = key) (q := fun entry => entry.1 = key)
    (fun _ _ hrow => by rw [hrow.key]) h
  unfold find? Listing.find?
  generalize rows.entries.find? _ = row at hfound ⊢
  generalize List.find? _ listing = entry at hfound ⊢
  cases hfound with
  | none => exact .none
  | some hfound =>
    obtain ⟨hrow, hkey⟩ := hfound
    exact .some ⟨of_decide_eq_true hkey, hrow.canonical, hrow.data⟩

theorem erase_holds (key : String) (h : List.Forall₂ Row.Holds rows listing) :
    List.Forall₂ Row.Holds (rows.filter (·.key ≠ key)) (listing.delete key) := by
  refine List.rel_filter (fun row entry hrow => ?_) h
  dsimp only
  rw [hrow.key]

theorem written_holds {row : Row} {entry : String × Invoice} {key : String} {invoice : Invoice}
    {data : Bytes} (hrow : row.Holds entry) (hcanonical : invoice.Canonical)
    (hdata : invoice.encode = .ok data) :
    (written key data row).Holds (if entry.1 = key then (key, invoice) else entry) := by
  unfold written
  by_cases hkey : entry.1 = key
  · rw [if_pos (hrow.key.trans hkey), if_pos hkey]
    exact ⟨hrow.key.trans hkey, hcanonical, hdata⟩
  · rw [if_neg fun e => hkey (hrow.key.symm.trans e), if_neg hkey]
    exact hrow

theorem put_holds {rows : Rows} (key : String) {invoice : Invoice} {data : Bytes}
    (h : List.Forall₂ Row.Holds rows.entries listing) (hcanonical : invoice.Canonical)
    (hdata : invoice.encode = .ok data) :
    List.Forall₂ Row.Holds (rows.put key data).entries (listing.set key invoice) := by
  have hkeys : rows.keys = listing.map Prod.fst := keys_of_holds h
  by_cases hkey : key ∈ listing.map Prod.fst
  · rw [put, dif_pos (hkeys ▸ hkey), Listing.set, if_pos hkey, List.forall₂_map_left_iff,
      List.forall₂_map_right_iff]
    exact h.imp fun _ _ hrow => written_holds hrow hcanonical hdata
  · rw [put, dif_neg (hkeys ▸ hkey), Listing.set, if_neg hkey]
    exact List.rel_append h (.cons ⟨rfl, hcanonical, hdata⟩ .nil)

end Rows

/-- A table holds a list of entries: its rows hold them in their order, and their numbers tell this
order. -/
structure Table.Holds (table : Table) (listing : Listing) : Prop where
  present : table.isGone = false
  ascending : table.rows.Ascending
  rows : List.Forall₂ Row.Holds table.rows.entries listing

namespace Store

variable {ω : Type} {cell : Cell ω Table} {journal : Journal ω} {listing : Listing} {w : ω}

theorem apply_withTable {α : Type} (operation : Action ω α)
    (h : (cell.look w).isGone = false) :
    (withTable cell journal operation).apply w = operation.apply w := by
  simp only [withTable, Action.apply_bind, Cell.apply_read, h]
  rfl

theorem apply_findRow (key : String) (h : (cell.look w).isGone = false) :
    (findRow cell journal (.text key)).apply w = (.ok ((cell.look w).rows.find? key), w) := by
  rw [findRow, apply_withTable _ h]
  rfl

theorem apply_putRow (key : String) (data : Bytes) (h : (cell.look w).isGone = false) :
    (putRow cell journal (.text key) data).apply w =
      (.ok (), cell.put { cell.look w with rows := (cell.look w).rows.put key data } w) := by
  rw [putRow, apply_withTable _ h]
  rfl

theorem apply_eraseRow (key : String) (h : (cell.look w).isGone = false) :
    (eraseRow cell journal (.text key)).apply w =
      (.ok ((cell.look w).rows.find? key).isSome,
        cell.put { cell.look w with rows := (cell.look w).rows.erase key } w) := by
  rw [eraseRow, apply_withTable _ h]
  rfl

/-- The row of an entry is read as the same invoice. -/
theorem apply_readRow {row : Row} {entry : String × Invoice} (h : row.Holds entry) :
    ∃ stored, (readRow row.data).apply w = (.ok stored, w) ∧ stored.Same entry.2 := by
  obtain ⟨stored, hdecode, hsame⟩ := h.canonical.comes_back h.data
  refine ⟨stored, ?_, hsame⟩
  rw [readRow, hdecode]
  rfl

/-- The rows of entries are read as the same entries. -/
theorem apply_readRows (journal : Journal ω) (w : ω) {rows : List Row}
    (h : List.Forall₂ Row.Holds rows listing) :
    ∃ entries, (readRows journal rows).apply w = (.ok entries, w) ∧
      List.Forall₂ SameEntry entries (listing.map Listing.keyed) := by
  induction h with
  | nil => exact ⟨[], rfl, .nil⟩
  | @cons row entry rows listing hrow _ ih =>
    obtain ⟨stored, hread, hsame⟩ := apply_readRow hrow (w := w)
    obtain ⟨others, hothers, hall⟩ := ih
    have hkey : InvoiceKey.text row.key = .text entry.1 := congrArg InvoiceKey.text hrow.key
    refine ⟨(.text row.key, stored) :: others, ?_, .cons ⟨hkey, hsame⟩ hall⟩
    simp only [readRows, Action.apply_bind, Action.apply_attempt, hread, hothers, Action.apply_pure]

/-- The durable store serves a request as the list of its entries does. -/
theorem serve_ofTable (hc : cell.Lawful) (h : (cell.look w).Holds listing)
    {request : StoreRequest} (hr : request.Canonical) :
    Agree (((ofTable cell journal).serve request).apply w).1 (listing.reply request) ∧
      (cell.look (((ofTable cell journal).serve request).apply w).2).Holds
        (listing.after request) := by
  cases request with
  | set key invoice =>
    obtain ⟨data, hdata⟩ := hr.encodable
    simp only [serve, ofTable, Action.apply_bind, hdata, Action.apply_ofExcept,
      apply_putRow key data h.present, Action.apply_pure, hc.look_put]
    exact ⟨.ok .done, h.present, h.ascending.put key data, Rows.put_holds key h.rows hr hdata⟩
  | get key =>
    have hfind := Rows.find?_of_holds key h.rows
    simp only [serve, ofTable, Action.apply_bind, apply_findRow key h.present, Listing.reply,
      Listing.after]
    generalize (cell.look w).rows.find? key = row at hfind
    generalize listing.find? key = invoice at hfind
    cases hfind with
    | none => exact ⟨.error _, h⟩
    | some hrow =>
      obtain ⟨stored, hread, hsame⟩ := apply_readRow hrow (w := w)
      simp only [hread, Action.apply_pure]
      exact ⟨.ok (.invoice hsame), h⟩
  | getAll =>
    obtain ⟨entries, hread, hsame⟩ := apply_readRows journal w h.rows
    simp only [serve, ofTable, Action.apply_bind, apply_withTable _ h.present, Cell.apply_read,
      h.ascending.inOrder, hread, Action.apply_pure]
    exact ⟨.ok (.entries hsame), h⟩
  | latest =>
    have hlast := rel_getLast? h.rows
    simp only [serve, ofTable, Action.apply_bind, apply_withTable _ h.present, Cell.apply_read,
      h.ascending.latest?, Listing.reply, Listing.after]
    generalize (cell.look w).rows.entries.getLast? = row at hlast
    generalize listing.getLast? = entry at hlast
    cases hlast with
    | none => exact ⟨.error _, h⟩
    | some hrow =>
      obtain ⟨stored, hread, hsame⟩ := apply_readRow hrow (w := w)
      simp only [Action.apply_bind, hread, Action.apply_pure]
      exact ⟨.ok (.entry ⟨congrArg InvoiceKey.text hrow.key, hsame⟩), h⟩
  | delete key =>
    have hpresent : ((cell.look w).rows.find? key).isSome = true ↔
        key ∈ listing.map Prod.fst := by
      rw [Rows.find?_isSome, Rows.keys, Rows.keys_of_holds h.rows]
    have herased : Table.Holds { cell.look w with rows := (cell.look w).rows.erase key }
        (listing.delete key) :=
      ⟨h.present, h.ascending.erase key, Rows.erase_holds key h.rows⟩
    simp only [serve, ofTable, Action.apply_bind, apply_eraseRow key h.present, hpresent,
      Listing.reply]
    by_cases hkey : key ∈ listing.map Prod.fst
    · simp only [if_pos hkey, Action.apply_pure, hc.look_put]
      exact ⟨.ok .done, herased⟩
    · simp only [if_neg hkey]
      exact ⟨.error _, (hc.look_put _ _).symm ▸ herased⟩

/-- The durable store replies to requests as the list of its entries does. -/
theorem replies_ofTable (hc : cell.Lawful) (h : (cell.look w).Holds listing)
    {requests : List StoreRequest} (hr : ∀ request ∈ requests, request.Canonical) :
    List.Forall₂ Agree ((ofTable cell journal).replies requests w)
      (Listing.replies requests listing) := by
  induction requests generalizing w listing with
  | nil => exact .nil
  | cons request rest ih =>
    rw [List.forall_mem_cons] at hr
    obtain ⟨hreply, hafter⟩ := serve_ofTable hc h hr.1
    exact .cons hreply (ih hafter hr.2)

end Store

end DepositGateway
