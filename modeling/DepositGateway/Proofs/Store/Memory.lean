import DepositGateway.Store.Memory

/-!
# The volatile store at work

* `Cell.Lawful`: what was put into a part of the world is found there.
* `Store.apply_ofMemory_set`, `Store.apply_ofMemory_delete`, `Store.apply_ofMemory_getAll`: each
  operation on a text key as a change of the ordered map.
* `Store.Shelves`: a store as a set of keys. `Store.ofMemory_shelves`: the volatile store is one.
-/

namespace DepositGateway

variable {ω σ α : Type}

namespace Cell

/-- What was put into the part is found there. -/
structure Lawful (cell : Cell ω σ) : Prop where
  look_put : ∀ part w, cell.look (cell.put part w) = part

theorem lawful_whole : (whole : Cell ω ω).Lawful := ⟨fun _ _ => rfl⟩

@[simp] theorem apply_read (cell : Cell ω σ) (view : σ → α) (w : ω) :
    (cell.read view).apply w = (.ok (view (cell.look w)), w) := rfl

@[simp] theorem apply_update (cell : Cell ω σ) (change : σ → σ) (w : ω) :
    (cell.update change).apply w = (.ok (), cell.put (change (cell.look w)) w) := rfl

end Cell

namespace Keyed

variable {κ : Type} [DecidableEq κ]

theorem findIn_isSome (key : κ) (entries : List (κ × α)) :
    (findIn key entries).isSome = true ↔ key ∈ entries.map Prod.fst := by
  induction entries with
  | nil => simp [findIn]
  | cons entry rest ih =>
    obtain ⟨other, value⟩ := entry
    by_cases h : other = key
    · simp [findIn, h]
    · have h' : key ≠ other := fun e => h e.symm
      simpa [findIn, h, h'] using ih

theorem find?_isSome (map : Keyed κ α) (key : κ) :
    (map.find? key).isSome = true ↔ key ∈ map.keys :=
  findIn_isSome key map.entries

end Keyed

namespace Store

variable (cell : Cell ω (Keyed InvoiceKey Invoice))

theorem apply_found (key : String) (w : ω) :
    (found cell (.text key)).apply w = (.ok ((cell.look w).find? (.text key)), w) := rfl

theorem apply_ofMemory_getAll (w : ω) :
    (ofMemory cell).getAll.apply w = (.ok (cell.look w).entries, w) := rfl

theorem apply_ofMemory_set (key : String) (invoice : Invoice) (w : ω) :
    ((ofMemory cell).set (.text key) invoice).apply w =
      (.ok (), cell.put ((cell.look w).put (.text key) invoice) w) := by
  simp only [ofMemory, Action.apply_bind, apply_found, Cell.apply_update]

theorem apply_ofMemory_delete (key : String) (w : ω) :
    ((ofMemory cell).delete (.text key)).apply w =
      if .text key ∈ (cell.look w).keys then
        (.ok (), cell.put ((cell.look w).erase (.text key)) w)
      else (.error (.store (.notFound key)), w) := by
  simp only [ofMemory, Action.apply_bind, apply_found]
  have hmem := Keyed.find?_isSome (cell.look w) (.text key)
  cases h : (cell.look w).find? (.text key) with
  | none =>
    rw [if_neg (by simp [← hmem, h])]
    rfl
  | some invoice =>
    rw [if_pos (by simp [← hmem, h])]
    rfl

/-! ## Stores as sets of keys -/

/-- `keys` lists what is stored: reading shows some of it, setting adds no other key, and deleting
what is there succeeds and takes out nothing else. Keys given out by a gateway are texts. -/
structure Shelves (store : Store ω) (keys : ω → List InvoiceKey) : Prop where
  distinct : ∀ w, (keys w).Nodup
  getAll : ∀ w, keys (store.getAll.apply w).2 = keys w
  listed : ∀ {w entries w'}, store.getAll.apply w = (.ok entries, w') →
    (entries.map Prod.fst).Sublist (keys w)
  set : ∀ (key : String) (invoice : Invoice) {w k},
    k ∈ keys ((store.set (.text key) invoice).apply w).2 → k = .text key ∨ k ∈ keys w
  delete : ∀ (key : String) {w}, .text key ∈ keys w →
    ((store.delete (.text key)).apply w).1 = .ok () ∧
      ∀ k, k ∈ keys ((store.delete (.text key)).apply w).2 ↔ k ≠ .text key ∧ k ∈ keys w

variable {cell}

/-- The volatile store shelves its keys. -/
theorem ofMemory_shelves (hc : cell.Lawful) :
    (ofMemory cell).Shelves fun w => (cell.look w).keys where
  distinct w := (cell.look w).distinct
  getAll _ := rfl
  listed h := by
    rw [apply_ofMemory_getAll] at h
    cases h
    exact List.Sublist.refl _
  set key invoice w k h := by
    rw [apply_ofMemory_set] at h
    simp only [hc.look_put, Keyed.keys_put] at h
    split at h
    · exact .inr h
    · simpa [or_comm] using h
  delete key w h := by
    rw [apply_ofMemory_delete, if_pos h]
    refine ⟨rfl, fun k => ?_⟩
    simp [hc.look_put, Keyed.keys_erase, and_comm]

end Store

end DepositGateway
