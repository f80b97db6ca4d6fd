import DepositGateway.Proofs.Invoice.Written
import DepositGateway.Proofs.Store.Appends

/-!
# Stores that collect new invoices

While nothing but new invoices is put into a store, each under a key of its own, either store hands
out exactly what was put in, in this order.

* `Store.Collects`: the operations of such a store.
* `Store.ofMemory_collects`, `Store.ofTable_collects`: both stores are such stores.
-/

namespace DepositGateway

namespace Store

variable {ω : Type}

/-- Wherever `Holds` says that a list of invoices is in the store, this list is handed out, and a
new invoice under another key is added to it, unless the invoice has no record. -/
structure Collects (store : Store ω) (Holds : Listing → ω → Prop) : Prop where
  getAll : ∀ {listing w}, Holds listing w →
    store.getAll.apply w = (.ok (listing.map Listing.keyed), w)
  latest : ∀ {listing w}, Holds listing w →
    store.latest.apply w =
      (match listing.getLast? with
        | some entry => .ok (Listing.keyed entry)
        | none => .error (.store (.notFound "")), w)
  get : ∀ {listing w} (key : String), Holds listing w →
    (store.get (.text key)).apply w =
      (match listing.find? key with
        | some invoice => .ok invoice
        | none => .error (.store (.notFound key)), w)
  set : ∀ {listing w} {key : String} {invoice : Invoice}, Holds listing w → invoice.New →
    key ∉ listing.map Prod.fst →
    (∃ w', (store.set (.text key) invoice).apply w = (.ok (), w') ∧
        Holds (listing ++ [(key, invoice)]) w') ∨
      (store.set (.text key) invoice).apply w = (.error Invoice.unserializable, w)

/-! ## The volatile store -/

theorem ofMemory_collects {cell : Cell ω (Keyed InvoiceKey Invoice)} (hc : cell.Lawful) :
    (ofMemory cell).Collects fun listing w =>
      (cell.look w).entries = listing.map Listing.keyed where
  getAll {listing w} h := by rw [apply_ofMemory_getAll, h]
  latest {listing w} h := by
    have hlatest : (cell.look w).latest? = listing.getLast?.map Listing.keyed := by
      rw [Keyed.latest?, h, List.getLast?_map]
    simp only [ofMemory, Action.apply_bind, Cell.apply_read, hlatest]
    cases listing.getLast? <;> rfl
  get {listing w} key h := by
    have hfind : (cell.look w).find? (.text key) = listing.find? key := by
      rw [Keyed.find?, h, Listing.findIn_keyed]
    simp only [ofMemory, Action.apply_bind, apply_found, hfind]
    cases listing.find? key <;> rfl
  set {listing w key invoice} h _ hfresh := by
    have hput := Listing.putIn_keyed key invoice (h ▸ (cell.look w).distinct)
    refine .inl ⟨_, apply_ofMemory_set cell key invoice w, ?_⟩
    rw [hc.look_put, ← show Listing.set key invoice listing = _ from if_neg hfresh, ← hput, ← h]
    rfl

/-! ## The durable store -/

/-- A table holds a list of new invoices. -/
structure HoldsNew (table : Table) (listing : Listing) : Prop where
  holds : table.Holds listing
  new : ∀ entry ∈ listing, entry.2.New

variable {cell : Cell ω Table} {journal : Journal ω} {listing : Listing} {w : ω}

/-- The row of a new invoice is read as it. -/
theorem apply_readRow_new {row : Row} {entry : String × Invoice} (h : row.Holds entry)
    (new : entry.2.New) : (readRow row.data).apply w = (.ok entry.2, w) := by
  rw [readRow, new.decode_eq h.data]
  rfl

/-- Entries that are the same as new ones are these. -/
theorem eq_of_sameEntries {entries : List (InvoiceKey × Invoice)}
    (h : List.Forall₂ SameEntry entries (listing.map Listing.keyed))
    (new : ∀ entry ∈ listing, entry.2.New) : entries = listing.map Listing.keyed := by
  rw [List.forall₂_map_right_iff] at h
  induction h with
  | nil => rfl
  | @cons stored entry entries listing hsame _ ih =>
    rw [List.forall_mem_cons] at new
    rw [List.map_cons, ih new.2]
    exact congrArg (· :: _) (Prod.ext hsame.1 (new.1.eq_of_same hsame.2))

theorem ofTable_collects (hc : cell.Lawful) (journal : Journal ω) :
    (ofTable cell journal).Collects fun listing w => HoldsNew (cell.look w) listing where
  getAll {listing w} h := by
    obtain ⟨entries, hread, hsame⟩ := apply_readRows journal w h.holds.rows
    rw [eq_of_sameEntries hsame h.new] at hread
    simp only [ofTable, Action.apply_bind, apply_withTable _ h.holds.present, Cell.apply_read,
      h.holds.ascending.inOrder, hread]
  latest {listing w} h := by
    have hlast := rel_getLast? h.holds.rows
    have hnew (entry : String × Invoice) (hentry : listing.getLast? = some entry) : entry.2.New :=
      h.new entry (List.mem_of_getLast? hentry)
    simp only [ofTable, Action.apply_bind, apply_withTable _ h.holds.present, Cell.apply_read,
      h.holds.ascending.latest?]
    generalize (cell.look w).rows.entries.getLast? = row at hlast
    generalize listing.getLast? = entry at hlast hnew
    cases hlast with
    | none => rfl
    | @some row entry hrow =>
      simp only [Action.apply_bind, apply_readRow_new hrow (hnew entry rfl), Action.apply_pure,
        hrow.key, Listing.keyed]
  get {listing w} key h := by
    have hfind := Rows.find?_of_holds key h.holds.rows
    have hnew (invoice : Invoice) (hinvoice : listing.find? key = some invoice) : invoice.New := by
      obtain ⟨entry, hentry, rfl⟩ := Option.map_eq_some_iff.1 hinvoice
      exact h.new entry (List.mem_of_find?_eq_some hentry)
    simp only [ofTable, Action.apply_bind, apply_findRow key h.holds.present]
    generalize (cell.look w).rows.find? key = row at hfind
    generalize listing.find? key = invoice at hfind hnew
    cases hfind with
    | none => rfl
    | @some row invoice hrow => exact apply_readRow_new hrow (hnew invoice rfl)
  set {listing w key invoice} h new hfresh := by
    cases hencode : invoice.encode with
    | error fault =>
      have typed : invoice.Typed :=
        ⟨⟨0, new.paidAt⟩, new.expires.imp' Int.ofNat fun _ => id, .inl new.hash⟩
      cases Invoice.encode_eq_error typed hencode
      right
      simp only [ofTable, Action.apply_bind, Action.apply_ofExcept, hencode]
    | ok data =>
      have canonical := new.canonical hencode
      have hput := Rows.put_holds key h.holds.rows canonical hencode
      rw [Listing.set, if_neg hfresh] at hput
      have hset : ((ofTable cell journal).set (.text key) invoice).apply w =
          (.ok (), cell.put { cell.look w with rows := (cell.look w).rows.put key data } w) := by
        simp only [ofTable, Action.apply_bind, Action.apply_ofExcept, hencode,
          apply_putRow key data h.holds.present]
      refine .inl ⟨_, hset, ?_⟩
      rw [hc.look_put]
      exact ⟨⟨h.holds.present, h.holds.ascending.put key data, hput⟩,
        List.forall_mem_append.2 ⟨h.new, List.forall_mem_singleton.2 new⟩⟩

end Store

end DepositGateway
