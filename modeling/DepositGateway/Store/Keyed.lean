/-!
# Ordered maps

Values under distinct keys, in the order in which the keys were first put in. Putting a value
under a key that is present replaces it in its place; a key that was erased and comes back stands
last.

* `Keyed.find?`, `Keyed.put`, `Keyed.erase`, `Keyed.latest?`: the operations.
* `Keyed.find?_put`, `Keyed.find?_erase`: what each operation does to every look-up.
* `Keyed.keys_put`, `Keyed.keys_erase`: what each operation does to the order of the keys.
-/

namespace DepositGateway

namespace Keyed

variable {κ α : Type} [DecidableEq κ]

/-! ## Lists of entries -/

/-- The value of a key in a list of entries. -/
def findIn (key : κ) : List (κ × α) → Option α
  | [] => none
  | (other, value) :: rest => if other = key then some value else findIn key rest

/-- Replaces the value of a key in its place, or appends the entry. -/
def putIn (key : κ) (value : α) : List (κ × α) → List (κ × α)
  | [] => [(key, value)]
  | (other, old) :: rest =>
    if other = key then (other, value) :: rest else (other, old) :: putIn key value rest

/-- Leaves the entry of a key out. -/
def eraseIn (key : κ) : List (κ × α) → List (κ × α)
  | [] => []
  | (other, value) :: rest =>
    if other = key then eraseIn key rest else (other, value) :: eraseIn key rest

theorem map_fst_putIn (key : κ) (value : α) (entries : List (κ × α)) :
    (putIn key value entries).map Prod.fst =
      if key ∈ entries.map Prod.fst then entries.map Prod.fst
      else entries.map Prod.fst ++ [key] := by
  induction entries with
  | nil => simp [putIn]
  | cons entry rest ih =>
    obtain ⟨other, old⟩ := entry
    by_cases h : other = key
    · simp [putIn, h]
    · have h' : key ≠ other := fun e => h e.symm
      simp only [putIn, if_neg h, List.map_cons, ih, List.mem_cons, h', false_or]
      split <;> simp

theorem map_fst_eraseIn (key : κ) (entries : List (κ × α)) :
    (eraseIn key entries).map Prod.fst =
      (entries.map Prod.fst).filter fun other => other ≠ key := by
  induction entries with
  | nil => rfl
  | cons entry rest ih =>
    obtain ⟨other, value⟩ := entry
    by_cases h : other = key <;> simp [eraseIn, h, ih]

theorem findIn_putIn (key other : κ) (value : α) (entries : List (κ × α)) :
    findIn other (putIn key value entries) =
      if other = key then some value else findIn other entries := by
  induction entries with
  | nil => simp [putIn, findIn, eq_comm]
  | cons entry rest ih =>
    obtain ⟨first, old⟩ := entry
    by_cases h : first = key
    · subst h
      by_cases ho : other = first
      · simp [putIn, findIn, ho]
      · have ho' : first ≠ other := fun e => ho e.symm
        simp [putIn, findIn, ho, ho']
    · by_cases hf : first = other
      · subst hf
        simp [putIn, findIn, h]
      · simp only [putIn, if_neg h, findIn, if_neg hf, ih]

theorem findIn_eraseIn (key other : κ) (entries : List (κ × α)) :
    findIn other (eraseIn key entries) = if other = key then none else findIn other entries := by
  induction entries with
  | nil => simp [eraseIn, findIn]
  | cons entry rest ih =>
    obtain ⟨first, old⟩ := entry
    by_cases h : first = key
    · subst h
      by_cases ho : other = first
      · simpa [eraseIn, ho] using ih
      · have ho' : first ≠ other := fun e => ho e.symm
        simp [eraseIn, findIn, ih, ho, ho']
    · by_cases hf : first = other
      · subst hf
        simp [eraseIn, findIn, h]
      · simp [eraseIn, findIn, ih, h, hf]

end Keyed

/-- Values under distinct keys, in order of insertion. -/
structure Keyed (κ α : Type) where
  entries : List (κ × α) := []
  distinct : (entries.map Prod.fst).Nodup := by exact List.nodup_nil

namespace Keyed

variable {κ α : Type}

/-- No entries. -/
def empty : Keyed κ α := {}

instance : Inhabited (Keyed κ α) := ⟨empty⟩

/-- The keys in their order. -/
def keys (map : Keyed κ α) : List κ := map.entries.map Prod.fst

/-- The entry that stands last. -/
def latest? (map : Keyed κ α) : Option (κ × α) := map.entries.getLast?

/-- How many entries there are. -/
def size (map : Keyed κ α) : Nat := map.entries.length

@[ext] theorem ext {a b : Keyed κ α} (h : a.entries = b.entries) : a = b := by
  cases a; cases b; cases h; rfl

variable [DecidableEq κ]

/-- The value of a key. -/
def find? (map : Keyed κ α) (key : κ) : Option α := findIn key map.entries

/-- Puts a value under a key. -/
def put (map : Keyed κ α) (key : κ) (value : α) : Keyed κ α where
  entries := putIn key value map.entries
  distinct := by
    rw [map_fst_putIn]
    split
    · exact map.distinct
    · next h =>
      refine List.nodup_append.2 ⟨map.distinct, by simp, ?_⟩
      intro a ha b hb e
      simp only [List.mem_singleton] at hb
      exact h (hb ▸ e ▸ ha)

/-- Takes the entry of a key out. -/
def erase (map : Keyed κ α) (key : κ) : Keyed κ α where
  entries := eraseIn key map.entries
  distinct := by
    rw [map_fst_eraseIn]
    exact map.distinct.filter _

theorem find?_put (map : Keyed κ α) (key other : κ) (value : α) :
    (map.put key value).find? other = if other = key then some value else map.find? other :=
  findIn_putIn key other value map.entries

theorem find?_erase (map : Keyed κ α) (key other : κ) :
    (map.erase key).find? other = if other = key then none else map.find? other :=
  findIn_eraseIn key other map.entries

theorem keys_put (map : Keyed κ α) (key : κ) (value : α) :
    (map.put key value).keys = if key ∈ map.keys then map.keys else map.keys ++ [key] :=
  map_fst_putIn key value map.entries

theorem keys_erase (map : Keyed κ α) (key : κ) :
    (map.erase key).keys = map.keys.filter fun other => other ≠ key :=
  map_fst_eraseIn key map.entries

end Keyed

end DepositGateway
