import DepositGateway.Store.Rows
import Mathlib.Data.List.Forall2

/-!
# The numbers of rows tell when they were inserted

* `rel_find?`, `rel_getLast?`: what is found in two lists that are related one by one.
* `Rows.Ascending`: each row has a greater number than all that were inserted before it.
  `Rows.Ascending.put`, `Rows.Ascending.erase`: every operation keeps it so.
* `Rows.Ascending.inOrder`, `Rows.Ascending.latest?`: reading by number is then reading by time of
  insertion.
-/

namespace DepositGateway

section

variable {α β : Type} {Q : α → β → Prop} {first : List α} {second : List β}

/-- What is looked for alike in two lists is found in the same place. -/
theorem rel_find? {p : α → Bool} {q : β → Bool} (hpq : ∀ a b, Q a b → q b = p a)
    (h : List.Forall₂ Q first second) :
    Option.Rel (fun a b => Q a b ∧ p a = true) (first.find? p) (second.find? q) := by
  induction h with
  | nil => exact .none
  | @cons a b first second hab hrest ih =>
    rw [List.find?_cons, List.find?_cons, hpq a b hab]
    cases hp : p a with
    | true => exact .some ⟨hab, hp⟩
    | false => exact ih

theorem rel_getLast? (h : List.Forall₂ Q first second) :
    Option.Rel Q first.getLast? second.getLast? := by
  induction h with
  | nil => exact .none
  | @cons a b first second hab hrest ih =>
    rw [List.getLast?_cons, List.getLast?_cons]
    generalize first.getLast? = last at ih
    generalize second.getLast? = last' at ih
    cases ih with
    | none => exact .some hab
    | some hlast => exact .some hlast

end

namespace Rows

theorem find?_isSome {rows : Rows} {key : String} :
    (rows.find? key).isSome = true ↔ key ∈ rows.keys := by
  simp [find?, keys]

theorem entries_put (rows : Rows) (key : String) (data : Bytes) :
    (rows.put key data).entries =
      if key ∈ rows.keys then rows.entries.map (written key data)
      else rows.entries ++ [⟨rows.nextNumber, key, data⟩] := by
  unfold put
  split <;> rfl

theorem entries_erase (rows : Rows) (key : String) :
    (rows.erase key).entries = rows.entries.filter (·.key ≠ key) := rfl

/-- A row after bytes were put under a key was there before, or has this key and these bytes. -/
theorem mem_of_mem_put {rows : Rows} {key : String} {data : Bytes} {row : Row}
    (h : row ∈ (rows.put key data).entries) :
    row ∈ rows.entries ∨ row.key = key ∧ row.data = data := by
  rw [entries_put] at h
  split at h
  · obtain ⟨before, hbefore, rfl⟩ := List.mem_map.mp h
    unfold written
    split
    · next hkey => exact .inr ⟨hkey, rfl⟩
    · exact .inl hbefore
  · rcases List.mem_append.mp h with h | h
    · exact .inl h
    · rw [List.mem_singleton.mp h]
      exact .inr ⟨rfl, rfl⟩

/-- Each row has a greater number than all that were inserted before it. -/
def Ascending (rows : Rows) : Prop := rows.entries.Pairwise fun a b => a.number < b.number

theorem ascending_empty : Ascending {} := List.Pairwise.nil

theorem le_foldl_max (numbers : List Nat) (start : Nat) :
    start ≤ numbers.foldl max start ∧ ∀ n ∈ numbers, n ≤ numbers.foldl max start := by
  induction numbers generalizing start with
  | nil => simp
  | cons first rest ih =>
    obtain ⟨hstart, hrest⟩ := ih (max start first)
    rw [List.foldl_cons, List.forall_mem_cons]
    exact ⟨by omega, by omega, hrest⟩

/-- The number of the next row is greater than that of any row. -/
theorem number_lt_nextNumber {rows : Rows} {row : Row} (h : row ∈ rows.entries) :
    row.number < rows.nextNumber :=
  Nat.lt_succ_of_le ((le_foldl_max _ 0).2 _ (List.mem_map.mpr ⟨row, h, rfl⟩))

theorem number_written (key : String) (data : Bytes) (row : Row) :
    (written key data row).number = row.number := by
  unfold written
  split <;> rfl

theorem Ascending.put {rows : Rows} (h : rows.Ascending) (key : String) (data : Bytes) :
    (rows.put key data).Ascending := by
  unfold Rows.put
  split
  · refine List.pairwise_map.mpr (h.imp fun hlt => ?_)
    rwa [number_written, number_written]
  · refine List.pairwise_append.mpr ⟨h, List.pairwise_singleton _ _, fun row hrow last hlast => ?_⟩
    rw [List.mem_singleton] at hlast
    exact hlast ▸ number_lt_nextNumber hrow

theorem Ascending.erase {rows : Rows} (h : rows.Ascending) (key : String) :
    (rows.erase key).Ascending := h.sublist List.filter_sublist

/-- The rows by their numbers are the rows as they were inserted. -/
theorem Ascending.inOrder {rows : Rows} (h : rows.Ascending) : rows.inOrder = rows.entries :=
  List.mergeSort_of_pairwise (h.imp fun hlt => by simpa using Nat.le_of_lt hlt)

/-- The number of a row tells which one it is. -/
theorem Ascending.eq_of_number {rows : Rows} (h : rows.Ascending) {a b : Row}
    (ha : a ∈ rows.entries) (hb : b ∈ rows.entries) (heq : a.number = b.number) : a = b := by
  unfold Ascending at h
  generalize rows.entries = entries at h ha hb
  induction h with
  | nil => cases ha
  | cons hfirst _ ih =>
    rcases List.mem_cons.mp ha with rfl | harest <;> rcases List.mem_cons.mp hb with rfl | hbrest
    · rfl
    · exact absurd heq (Nat.ne_of_lt (hfirst b hbrest))
    · exact absurd heq (Nat.ne_of_gt (hfirst a harest))
    · exact ih harest hbrest

/-- The row with the greatest number is the one that was inserted last. -/
theorem Ascending.latest? {rows : Rows} (h : rows.Ascending) :
    rows.latest? = rows.entries.getLast? := by
  have hreverse : rows.entries.reverse.Pairwise fun a b => decide (b.number ≤ a.number) = true :=
    List.pairwise_reverse.mpr (h.imp fun hlt => by simpa using Nat.le_of_lt hlt)
  have hsorted : (rows.entries.mergeSort fun a b => b.number ≤ a.number).Pairwise
      fun a b => decide (b.number ≤ a.number) = true :=
    List.pairwise_mergeSort (by simp; omega) (by simp; omega) _
  have hperm : (rows.entries.mergeSort fun a b => b.number ≤ a.number).Perm
      rows.entries.reverse := (List.mergeSort_perm _ _).trans (List.reverse_perm _).symm
  have heq := hperm.eq_of_pairwise (fun a b ha hb hab hba => h.eq_of_number
    ((List.mergeSort_perm _ _).mem_iff.mp ha) (List.mem_reverse.mp hb)
    (by simp at hab hba; omega)) hsorted hreverse
  rw [Rows.latest?, heq, List.head?_reverse]

end Rows

end DepositGateway
