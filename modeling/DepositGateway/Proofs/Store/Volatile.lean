import DepositGateway.Proofs.Store.Listing
import DepositGateway.Proofs.Store.Memory

/-!
# The volatile store replies as a list of entries would

* `Keyed.putIn_eq`, `Keyed.eraseIn_eq`: the operations of an ordered map as operations on the list
  of its entries.
* `Store.serve_ofMemory`: one request. `Store.replies_ofMemory`: any number of them.
-/

namespace DepositGateway

namespace Keyed

variable {κ α : Type} [DecidableEq κ]

theorem map_replaced_of_not_mem {key : κ} {value : α} {entries : List (κ × α)}
    (h : key ∉ entries.map Prod.fst) :
    entries.map (fun entry => if entry.1 = key then (key, value) else entry) = entries := by
  refine (List.map_congr_left fun entry hentry => ?_).trans (List.map_id entries)
  exact if_neg fun e => h (List.mem_map.mpr ⟨entry, hentry, e⟩)

/-- Where keys are distinct, putting replaces the entry of the key in its place or appends it. -/
theorem putIn_eq (key : κ) (value : α) {entries : List (κ × α)}
    (distinct : (entries.map Prod.fst).Nodup) :
    putIn key value entries =
      if key ∈ entries.map Prod.fst then
        entries.map fun entry => if entry.1 = key then (key, value) else entry
      else entries ++ [(key, value)] := by
  induction entries with
  | nil => rfl
  | cons entry rest ih =>
    obtain ⟨other, old⟩ := entry
    rw [List.map_cons, List.nodup_cons] at distinct
    by_cases h : other = key
    · subst h
      rw [putIn, if_pos rfl, List.map_cons, if_pos List.mem_cons_self, List.map_cons, if_pos rfl,
        map_replaced_of_not_mem distinct.1]
    · have h' : key ≠ other := fun e => h e.symm
      rw [putIn, if_neg h, ih distinct.2]
      simp only [List.map_cons, List.mem_cons, h', false_or, if_neg h]
      split <;> rfl

theorem eraseIn_eq (key : κ) (entries : List (κ × α)) :
    eraseIn key entries = entries.filter fun entry => entry.1 ≠ key := by
  induction entries with
  | nil => rfl
  | cons entry rest ih =>
    by_cases h : entry.1 = key <;> simp [eraseIn, h, ih]

end Keyed

namespace Listing

/-! ## A list of entries under the keys of a store -/

theorem mem_keys_keyed (key : String) (listing : Listing) :
    .text key ∈ (listing.map keyed).map Prod.fst ↔ key ∈ listing.map Prod.fst := by
  simp [keyed]

theorem findIn_keyed (key : String) (listing : Listing) :
    Keyed.findIn (.text key) (listing.map keyed) = find? key listing := by
  induction listing with
  | nil => rfl
  | cons entry rest ih =>
    rw [List.map_cons, keyed, Keyed.findIn, ih, find?_cons]
    simp

theorem eraseIn_keyed (key : String) (listing : Listing) :
    Keyed.eraseIn (.text key) (listing.map keyed) = (delete key listing).map keyed := by
  rw [Keyed.eraseIn_eq, List.filter_map, delete]
  simp [Function.comp_def, keyed]

theorem putIn_keyed (key : String) (invoice : Invoice) {listing : Listing}
    (distinct : ((listing.map keyed).map Prod.fst).Nodup) :
    Keyed.putIn (.text key) invoice (listing.map keyed) = (set key invoice listing).map keyed := by
  rw [Keyed.putIn_eq _ _ distinct, set]
  simp only [mem_keys_keyed]
  split
  · rw [List.map_map, List.map_map]
    refine List.map_congr_left fun entry _ => ?_
    by_cases h : entry.1 = key <;> simp [keyed, h]
  · simp [keyed]

end Listing

namespace Store

variable {ω : Type} {cell : Cell ω (Keyed InvoiceKey Invoice)} {listing : Listing} {w : ω}

/-- The volatile store serves a request as the list of its entries does. -/
theorem serve_ofMemory (hc : cell.Lawful) (h : (cell.look w).entries = listing.map Listing.keyed)
    (request : StoreRequest) :
    (((ofMemory cell).serve request).apply w).1 = listing.reply request ∧
      (cell.look (((ofMemory cell).serve request).apply w).2).entries =
        (listing.after request).map Listing.keyed := by
  cases request with
  | set key invoice =>
    have hput := Listing.putIn_keyed key invoice (h ▸ (cell.look w).distinct)
    simp only [serve, Action.apply_bind, apply_ofMemory_set, Action.apply_pure, hc.look_put]
    exact ⟨rfl, (congrArg _ h).trans hput⟩
  | get key =>
    have hfind : (cell.look w).find? (.text key) = listing.find? key := by
      rw [Keyed.find?, h, Listing.findIn_keyed]
    simp only [serve, ofMemory, Action.apply_bind, apply_found, hfind, Listing.reply,
      Listing.after]
    cases listing.find? key with
    | none => exact ⟨rfl, h⟩
    | some invoice => exact ⟨rfl, h⟩
  | getAll =>
    simp only [serve, Action.apply_bind, apply_ofMemory_getAll, Action.apply_pure]
    exact ⟨congrArg (Except.ok ∘ StoreReply.entries) h, h⟩
  | latest =>
    have hlatest : (cell.look w).latest? = listing.getLast?.map Listing.keyed := by
      rw [Keyed.latest?, h, List.getLast?_map]
    simp only [serve, ofMemory, Action.apply_bind, Cell.apply_read, hlatest, Listing.reply,
      Listing.after]
    cases listing.getLast? with
    | none => exact ⟨rfl, h⟩
    | some entry => exact ⟨rfl, h⟩
  | delete key =>
    have hpresent : .text key ∈ (cell.look w).keys ↔ key ∈ listing.map Prod.fst := by
      rw [Keyed.keys, h, Listing.mem_keys_keyed]
    simp only [serve, Action.apply_bind, apply_ofMemory_delete, hpresent, Listing.reply]
    by_cases hkey : key ∈ listing.map Prod.fst
    · simp only [if_pos hkey, Action.apply_pure, hc.look_put]
      exact ⟨trivial, (congrArg _ h).trans (Listing.eraseIn_keyed key listing)⟩
    · have herror : listing.reply (.delete key) = .error (.store (.notFound key)) := if_neg hkey
      simp only [if_neg hkey]
      exact ⟨trivial, h.trans (congrArg _ (Listing.after_of_error herror).symm)⟩

/-- The volatile store replies to requests as the list of its entries does. -/
theorem replies_ofMemory (hc : cell.Lawful) (h : (cell.look w).entries = listing.map Listing.keyed)
    (requests : List StoreRequest) :
    (ofMemory cell).replies requests w = Listing.replies requests listing := by
  induction requests generalizing w listing with
  | nil => rfl
  | cons request rest ih =>
    obtain ⟨hreply, hafter⟩ := serve_ofMemory hc h request
    rw [replies, Listing.replies, ← hreply, ← ih hafter]

end Store

end DepositGateway
