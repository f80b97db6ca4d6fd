import DepositGateway.Store.Basic

/-!
# What a store is asked and what it should answer

A store is meant to be a list of keys with their invoices, in the order of insertion. Requests for
text keys are served one after the other; one that fails changes nothing.

* `StoreRequest`, `StoreReply`, `Store.replies`: the requests to a store and its replies to them.
* `Listing.after`, `Listing.reply`: the list after a request, and the reply that is right.
* `Listing.nodup_afterAll`: its keys stay distinct.
* `Listing.find?_afterAll`: a key has the invoice that it was last set to, unless it was deleted
  since.
-/

namespace DepositGateway

/-- What is asked of a store. -/
inductive StoreRequest where
  | set (key : String) (invoice : Invoice)
  | get (key : String)
  | getAll
  | latest
  | delete (key : String)

/-- What a store replies. -/
inductive StoreReply where
  | done
  | invoice (invoice : Invoice)
  | entry (entry : InvoiceKey × Invoice)
  | entries (entries : List (InvoiceKey × Invoice))

namespace Store

variable {ω : Type} (store : Store ω)

/-- Serves a request. -/
def serve : StoreRequest → Action ω StoreReply
  | .set key invoice => do
    store.set (.text key) invoice
    return .done
  | .get key => return .invoice (← store.get (.text key))
  | .getAll => return .entries (← store.getAll)
  | .latest => return .entry (← store.latest)
  | .delete key => do
    store.delete (.text key)
    return .done

/-- The replies to requests, each served in the world that the one before it left. -/
def replies : List StoreRequest → ω → List (Except Fault StoreReply)
  | [], _ => []
  | request :: rest, w =>
    let (reply, after) := (store.serve request).apply w
    reply :: replies rest after

end Store

/-- The entries that a store should have, the earliest first. -/
abbrev Listing := List (String × Invoice)

namespace Listing

/-- The invoice of a key. -/
def find? (key : String) (listing : Listing) : Option Invoice :=
  (List.find? (·.1 = key) listing).map Prod.snd

/-- Replaces the invoice of a key that is present in its place, and appends the entry otherwise. -/
def set (key : String) (invoice : Invoice) (listing : Listing) : Listing :=
  if key ∈ listing.map Prod.fst then
    listing.map fun entry => if entry.1 = key then (key, invoice) else entry
  else listing ++ [(key, invoice)]

/-- Takes the entry of a key out. -/
def delete (key : String) (listing : Listing) : Listing := listing.filter (·.1 ≠ key)

/-- An entry under its key as a store has it. -/
def keyed (entry : String × Invoice) : InvoiceKey × Invoice := (.text entry.1, entry.2)

/-- The reply to a request. -/
def reply (listing : Listing) : StoreRequest → Except Fault StoreReply
  | .set _ _ => .ok .done
  | .get key =>
    match find? key listing with
    | some invoice => .ok (.invoice invoice)
    | none => .error (.store (.notFound key))
  | .getAll => .ok (.entries (listing.map keyed))
  | .latest =>
    match listing.getLast? with
    | some entry => .ok (.entry (keyed entry))
    | none => .error (.store (.notFound ""))
  | .delete key =>
    if key ∈ listing.map Prod.fst then .ok .done else .error (.store (.notFound key))

/-- The entries after a request. -/
def after (listing : Listing) : StoreRequest → Listing
  | .set key invoice => set key invoice listing
  | .delete key => delete key listing
  | _ => listing

/-- The replies to requests. -/
def replies : List StoreRequest → Listing → List (Except Fault StoreReply)
  | [], _ => []
  | request :: rest, listing => reply listing request :: replies rest (after listing request)

/-- The entries after requests. -/
def afterAll (requests : List StoreRequest) : Listing := requests.foldl after []

/-! ## What requests leave -/

/-- A request that fails changes nothing. -/
theorem after_of_error {listing : Listing} {request : StoreRequest} {fault : Fault}
    (h : reply listing request = .error fault) : after listing request = listing := by
  cases request with
  | set key invoice => cases h
  | delete key =>
    rw [reply] at h
    split at h
    · cases h
    · next hkey =>
      refine List.filter_eq_self.mpr fun entry hentry => ?_
      have : entry.1 ≠ key := fun e => hkey (e ▸ List.mem_map.mpr ⟨entry, hentry, rfl⟩)
      simpa using this
  | get | getAll | latest => rfl

theorem keys_set (key : String) (invoice : Invoice) (listing : Listing) :
    (set key invoice listing).map Prod.fst =
      if key ∈ listing.map Prod.fst then listing.map Prod.fst
      else listing.map Prod.fst ++ [key] := by
  unfold set
  split
  · rw [List.map_map]
    refine List.map_congr_left fun entry _ => ?_
    by_cases h : entry.1 = key <;> simp [h]
  · simp

theorem nodup_after {listing : Listing} (h : (listing.map Prod.fst).Nodup)
    (request : StoreRequest) : ((after listing request).map Prod.fst).Nodup := by
  cases request with
  | set key invoice =>
    rw [after, keys_set]
    split
    · exact h
    · next hkey =>
      refine List.nodup_append.mpr ⟨h, by simp, fun a ha b hb e => ?_⟩
      rw [List.mem_singleton] at hb
      exact hkey (hb ▸ e ▸ ha)
  | delete key => exact h.sublist (List.filter_sublist.map _)
  | get | getAll | latest => exact h

/-- The keys are distinct at any time. -/
theorem nodup_afterAll (requests : List StoreRequest) :
    ((afterAll requests).map Prod.fst).Nodup :=
  List.foldlRecOn (motive := fun listing : Listing => (listing.map Prod.fst).Nodup) requests after
    List.nodup_nil fun _ h request _ => nodup_after h request

/-! ## What a key was last set to -/

theorem find?_cons (key : String) (entry : String × Invoice) (rest : Listing) :
    find? key (entry :: rest) = if entry.1 = key then some entry.2 else find? key rest := by
  rw [find?, List.find?_cons]
  by_cases h : entry.1 = key
  · simp [h]
  · simp [h, find?]

theorem find?_append (key : String) (listing rest : Listing) :
    find? key (listing ++ rest) = (find? key listing).or (find? key rest) := by
  rw [find?, List.find?_append, Option.map_or, find?, find?]

/-- Only keys that are not present have no invoice. -/
theorem find?_eq_none_iff {key : String} {listing : Listing} :
    find? key listing = none ↔ key ∉ listing.map Prod.fst := by
  rw [find?, Option.map_eq_none_iff, List.find?_eq_none]
  refine ⟨fun h hkey => ?_, fun h entry hentry hkey => ?_⟩
  · obtain ⟨entry, hentry, rfl⟩ := List.mem_map.mp hkey
    exact h entry hentry (by simp)
  · exact h (List.mem_map.mpr ⟨entry, hentry, by simpa using hkey⟩)

/-- The invoices of all other keys stay, and that of a present key is replaced. -/
theorem find?_replaced (key other : String) (invoice : Invoice) (listing : Listing) :
    find? key (listing.map fun entry => if entry.1 = other then (other, invoice) else entry) =
      if other = key ∧ other ∈ listing.map Prod.fst then some invoice else find? key listing := by
  induction listing with
  | nil => simp [find?]
  | cons entry rest ih =>
    rw [List.map_cons, find?_cons, ih, find?_cons]
    by_cases hother : entry.1 = other
    · by_cases hkey : other = key <;> simp [hother, hkey]
    · have hother' : other ≠ entry.1 := fun e => hother e.symm
      by_cases hkey : other = key
      · subst hkey
        simp only [if_neg hother, List.map_cons, List.mem_cons, hother', false_or]
      · simp [hother, hkey]

theorem find?_set (key other : String) (invoice : Invoice) (listing : Listing) :
    find? key (set other invoice listing) =
      if other = key then some invoice else find? key listing := by
  unfold set
  split
  · next hpresent => simp [find?_replaced, hpresent]
  · next habsent =>
    rw [find?_append, find?_cons]
    by_cases hkey : other = key
    · subst hkey
      simp [find?_eq_none_iff.mpr habsent]
    · simp [hkey, find?]

theorem find?_delete (key other : String) (listing : Listing) :
    find? key (delete other listing) = if other = key then none else find? key listing := by
  induction listing with
  | nil => simp [delete, find?]
  | cons entry rest ih =>
    rw [delete] at ih ⊢
    by_cases hother : entry.1 = other
    · rw [List.filter_cons_of_neg (by simpa using hother), ih, find?_cons, hother]
      by_cases hkey : other = key <;> simp [hkey]
    · rw [List.filter_cons_of_pos (by simpa using hother), find?_cons, ih, find?_cons]
      by_cases hkey : other = key
      · subst hkey
        simp [hother]
      · simp [hkey]

/-- What a key was last set to after one more request. -/
def lastSetAfter (key : String) (last : Option Invoice) : StoreRequest → Option Invoice
  | .set other invoice => if other = key then some invoice else last
  | .delete other => if other = key then none else last
  | _ => last

/-- What a key was last set to in the course of requests, unless it was deleted since. -/
def lastSet (key : String) (requests : List StoreRequest) : Option Invoice :=
  requests.foldl (lastSetAfter key) none

theorem find?_after (key : String) (listing : Listing) (request : StoreRequest) :
    find? key (after listing request) = lastSetAfter key (find? key listing) request := by
  cases request with
  | set other invoice => exact find?_set key other invoice listing
  | delete other => exact find?_delete key other listing
  | get | getAll | latest => rfl

/-- A key has the invoice that it was last set to, unless it was deleted since. -/
theorem find?_afterAll (key : String) (requests : List StoreRequest) :
    find? key (afterAll requests) = lastSet key requests :=
  (List.foldl_hom (find? key) (fun listing request => (find?_after key listing request).symm)).symm

end Listing

end DepositGateway
