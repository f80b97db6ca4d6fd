import DepositGateway.Proofs.Independence.Account
import DepositGateway.Proofs.Store.Appends
import DepositGateway.Proofs.Store.Volatile
import DepositGateway.Simulation.Deployment
import Mathlib.Data.List.Nodup

/-!
# The shelf of the simulated world

* `Shelf.entries`: what is kept, in memory or in the readable rows of a table.
* `World.apply_getAll`, `World.apply_delete`: what listing and removing do on a sound shelf.
-/

namespace DepositGateway

namespace Shelf

/-- The invoices that are kept. -/
def entries : Shelf → List (InvoiceKey × Invoice)
  | memory invoices => invoices.entries
  | table content => Store.readable content
  | file content => Store.readable content

/-- Rows that are there, each of which is read or passed over. -/
def RowsSound (content : Table) : Prop :=
  content.isGone = false ∧ ∀ row ∈ content.rows.entries, ¬ Invoice.Escapes row.data

/-- All can be listed and removed: no key is a list or an object, and the rows of a table are
sound. -/
def Sound : Shelf → Prop
  | memory invoices => ∀ key ∈ invoices.keys, key.isSingle = true
  | table content | file content => RowsSound content

theorem entries_of_rows {shelf : Shelf} (h : shelf.isMemory = false) :
    shelf.entries = Store.readable shelf.rows := by
  cases shelf with
  | memory => cases h
  | table | file => rfl

theorem sound_iff_rows {shelf : Shelf} (h : shelf.isMemory = false) :
    shelf.Sound ↔ RowsSound shelf.rows := by
  cases shelf with
  | memory => cases h
  | table | file => exact Iff.rfl

theorem setRows_isMemory (content : Table) (shelf : Shelf) :
    (shelf.setRows content).isMemory = shelf.isMemory := by
  cases shelf <;> rfl

theorem rows_setRows {shelf : Shelf} (h : shelf.isMemory = false) (content : Table) :
    (shelf.setRows content).rows = content := by
  cases shelf with
  | memory => cases h
  | table | file => rfl

end Shelf

namespace Store

variable {ω : Type}

/-- The key of a readable row is that of its entry. -/
theorem fst_of_readable {row : Row} {entry : InvoiceKey × Invoice}
    (h : row.readable? = some entry) : entry.1 = .text row.key := by
  obtain ⟨invoice, -, rfl⟩ := Option.map_eq_some_iff.1 h
  rfl

theorem readable_erase (content : Table) (key : String) :
    readable { content with rows := content.rows.erase key } =
      (readable content).filter fun entry => entry.1 ≠ .text key := by
  show (content.rows.entries.filter fun row => row.key ≠ key).filterMap Row.readable? = _
  rw [readable, List.filter_filterMap, List.filterMap_filter]
  refine List.filterMap_congr fun row _ => ?_
  cases hreadable : row.readable? with
  | none => simp
  | some entry =>
    have hkey := fst_of_readable hreadable
    by_cases h : row.key = key <;> simp [Option.filter, h, hkey]

theorem keys_readable_nodup (content : Table) : ((readable content).map Prod.fst).Nodup := by
  -- Rows that are passed over take their keys with them; the other keys stay as they are.
  have hsub : ((readable content).map Prod.fst).Sublist
      (content.rows.keys.map InvoiceKey.text) := by
    unfold readable Rows.keys
    generalize content.rows.entries = rows
    induction rows with
    | nil => exact .slnil
    | cons row rest ih =>
      cases hreadable : row.readable? with
      | none =>
        rw [List.filterMap_cons_none hreadable]
        exact ih.cons _
      | some entry =>
        rw [List.filterMap_cons_some hreadable, List.map_cons, fst_of_readable hreadable]
        exact ih.cons_cons _
  exact (List.Nodup.map (fun _ _ h => InvoiceKey.text.inj h) content.rows.distinct).sublist hsub

/-- An entry that can be looked for is removed from memory. -/
theorem apply_ofMemory_delete_of_mem {cell : Cell ω (Keyed InvoiceKey Invoice)} {w : ω}
    {key : InvoiceKey} (single : key.isSingle = true) (hk : key ∈ (cell.look w).keys) :
    ((ofMemory cell).delete key).apply w =
      (.ok (), cell.put ((cell.look w).erase key) w) := by
  obtain ⟨invoice, hfound⟩ := Option.isSome_iff_exists.1 ((Keyed.find?_isSome _ key).2 hk)
  simp only [ofMemory, found, if_pos single, Action.apply_bind, Cell.apply_read, hfound,
    Cell.apply_update]

/-- The row of a readable entry is removed from a table. -/
theorem apply_ofTable_delete_of_mem {cell : Cell ω Table} {journal : Journal ω} {w : ω}
    (present : (cell.look w).isGone = false) {key : InvoiceKey}
    (hk : key ∈ (readable (cell.look w)).map Prod.fst) :
    ∃ name, key = .text name ∧ ((ofTable cell journal).delete key).apply w = (.ok (), cell.put
      { cell.look w with rows := (cell.look w).rows.erase name } w) := by
  obtain ⟨entry, hentry, rfl⟩ := List.mem_map.1 hk
  obtain ⟨row, hrow, hreadable⟩ := List.mem_filterMap.1 hentry
  have hkey := fst_of_readable hreadable
  refine ⟨row.key, hkey, ?_⟩
  have hfound : ((cell.look w).rows.find? row.key).isSome = true :=
    Rows.find?_isSome.2 (List.mem_map_of_mem hrow)
  rw [hkey]
  simp only [ofTable, Action.apply_bind, apply_eraseRow row.key present, hfound, if_true,
    Action.apply_pure]

end Store

theorem Shelf.keys_nodup (shelf : Shelf) : (shelf.entries.map Prod.fst).Nodup := by
  cases shelf with
  | memory invoices => exact invoices.distinct
  | table content | file content => exact Store.keys_readable_nodup content

namespace World

variable {w : World}

theorem apply_stored_memory {α : Type} {method : StoreMethod}
    {operation : Store World → Action World α} (hf : w.storeFailures = [])
    (hm : w.shelf.isMemory = true) :
    (stored method operation).apply w = (operation (Store.ofMemory memory)).apply w := by
  simp [stored, Action.apply_bind, Action.read, hf, hm]

theorem apply_stored_table {α : Type} {method : StoreMethod}
    {operation : Store World → Action World α} (hf : w.storeFailures = [])
    (hm : w.shelf.isMemory = false) :
    (stored method operation).apply w = (operation (Store.ofTable table journal)).apply w := by
  simp [stored, Action.apply_bind, Action.read, hf, hm]

/-- What is there is removed, and nothing else happens. -/
theorem apply_delete (hf : w.storeFailures = []) (hs : w.shelf.Sound) {key : InvoiceKey}
    (hk : key ∈ w.shelf.entries.map Prod.fst) :
    ∃ shelf, (World.store.delete key).apply w = (.ok (), { w with shelf }) ∧ shelf.Sound ∧
      shelf.entries = w.shelf.entries.filter fun entry => entry.1 ≠ key := by
  show ∃ shelf, (stored .delete fun store => store.delete key).apply w = _ ∧ _
  cases hm : w.shelf.isMemory with
  | true =>
    rw [apply_stored_memory hf hm]
    cases hshelf : w.shelf with
    | memory invoices =>
      rw [hshelf] at hs hk
      have hlook : World.memory.look w = invoices := congrArg Shelf.invoices hshelf
      rw [Store.apply_ofMemory_delete_of_mem (hs key hk) (hlook ▸ hk), hlook]
      refine ⟨w.shelf.setInvoices (invoices.erase key), rfl, ?_, ?_⟩
      · rw [hshelf]
        intro other hother
        rw [Keyed.keys_erase] at hother
        exact hs other (List.mem_filter.1 hother).1
      · rw [hshelf]
        exact Keyed.eraseIn_eq key invoices.entries
    | table | file =>
      rw [hshelf] at hm
      cases hm
  | false =>
    rw [apply_stored_table hf hm]
    rw [Shelf.entries_of_rows hm] at hk ⊢
    rw [Shelf.sound_iff_rows hm] at hs
    have hpresent : (table.look w).isGone = false := hs.1
    obtain ⟨name, rfl, happly⟩ := Store.apply_ofTable_delete_of_mem hpresent hk
    rw [happly]
    refine ⟨_, rfl, ?_, ?_⟩
    · rw [Shelf.sound_iff_rows ((Shelf.setRows_isMemory _ _).trans hm), Shelf.rows_setRows hm]
      exact ⟨hs.1, fun row hrow => hs.2 row (List.mem_filter.1 hrow).1⟩
    · rw [Shelf.entries_of_rows ((Shelf.setRows_isMemory _ _).trans hm), Shelf.rows_setRows hm]
      exact Store.readable_erase _ name

/-- Rows that are passed over are reported, and nothing else happens. -/
theorem readRows_records (rows : List Row) (w : World) :
    Records w ((Store.readRows journal rows).apply w).2 := by
  induction rows generalizing w with
  | nil => exact .refl w
  | cons row rest ih =>
    rw [Store.readRows, Action.apply_attempt_bind, Store.readRow]
    cases Invoice.decode row.data with
    | ok invoice =>
      show Records w ((do return _ :: (← Store.readRows journal rest)).apply w).2
      rw [Action.apply_bind]
      have hrest := ih w
      generalize (Store.readRows journal rest).apply w = read at hrest
      obtain ⟨fault | others, after⟩ := read <;> exact hrest
    | error fault =>
      dsimp only [Action.fail, Action.apply_ofExcept]
      split
      · next h => cases h
      · next text _ =>
        rw [Action.apply_bind]
        exact (records_journal _ w).trans (ih _)
      · exact .refl w

/-- All that is kept is listed, and no more is done than to report. -/
theorem apply_getAll (hf : w.storeFailures = []) (hs : w.shelf.Sound) :
    ∃ listed w', World.store.getAll.apply w = (.ok listed, w') ∧ listed.Perm w.shelf.entries ∧
      Records w w' := by
  show ∃ listed w', (stored .getAll fun store => store.getAll).apply w = _ ∧ _
  cases hm : w.shelf.isMemory with
  | true =>
    rw [apply_stored_memory hf hm, Store.apply_ofMemory_getAll]
    refine ⟨_, _, rfl, ?_, .refl w⟩
    cases hshelf : w.shelf with
    | memory invoices =>
      rw [show World.memory.look w = invoices from congrArg Shelf.invoices hshelf]
      exact .refl _
    | table | file =>
      rw [hshelf] at hm
      cases hm
  | false =>
    rw [apply_stored_table hf hm, Shelf.entries_of_rows hm]
    rw [Shelf.sound_iff_rows hm] at hs
    have hpresent : (table.look w).isGone = false := hs.1
    have hrows : (Store.ofTable table journal).getAll.apply w =
        (Store.readRows journal w.shelf.rows.rows.inOrder).apply w := by
      simp only [Store.ofTable, Action.apply_bind, Store.apply_withTable _ hpresent,
        Cell.apply_read]
      rfl
    have hrecords := readRows_records w.shelf.rows.rows.inOrder w
    rw [← hrows] at hrecords
    exact ⟨_, _, Prod.ext (Store.getAll_ofTable_readable hpresent hs.2) rfl,
      (List.mergeSort_perm _ _).filterMap _, hrecords⟩

end World

end DepositGateway
