import DepositGateway.Bytes.BigEndian

/-!
# Rows of a table

A row has a number, a key and bytes. The number of a new row is one more than the greatest there
is; it tells which of two rows was inserted later. No two rows have the same key.

* `Rows.find?`, `Rows.put`, `Rows.erase`: the operations.
* `Rows.inOrder`, `Rows.latest?`: the rows by their numbers.
-/

namespace DepositGateway

/-- A row of a table. -/
structure Row where
  number : Nat
  key : String
  data : Bytes
  deriving DecidableEq

/-- Rows with distinct keys. -/
structure Rows where
  entries : List Row := []
  distinct : (entries.map Row.key).Nodup := by exact List.nodup_nil

namespace Rows

/-- The keys of the rows. -/
def keys (rows : Rows) : List String := rows.entries.map Row.key

/-- The number of the next row. -/
def nextNumber (rows : Rows) : Nat := (rows.entries.map Row.number).foldl max 0 + 1

/-- The row of a key. -/
def find? (rows : Rows) (key : String) : Option Row := rows.entries.find? (·.key = key)

/-- A row with other bytes, where it is the one of a key. -/
def written (key : String) (data : Bytes) (row : Row) : Row :=
  if row.key = key then { row with data } else row

theorem key_written (key : String) (data : Bytes) (row : Row) :
    (written key data row).key = row.key := by
  unfold written
  split <;> rfl

/-- Writes bytes into the row of a key, which keeps its number, or into a new row. -/
def put (rows : Rows) (key : String) (data : Bytes) : Rows :=
  if h : key ∈ rows.keys then
    { entries := rows.entries.map (written key data)
      distinct := by
        simpa [List.map_map, Function.comp_def, key_written] using rows.distinct }
  else
    { entries := rows.entries ++ [⟨rows.nextNumber, key, data⟩]
      distinct := by
        rw [List.map_append, List.nodup_append]
        refine ⟨rows.distinct, by simp, fun a ha b hb e => ?_⟩
        simp only [List.map_cons, List.map_nil, List.mem_singleton] at hb
        exact h (hb ▸ e ▸ ha) }

/-- Takes the row of a key out. -/
def erase (rows : Rows) (key : String) : Rows where
  entries := rows.entries.filter (·.key ≠ key)
  distinct := rows.distinct.sublist (List.filter_sublist.map _)

/-- The rows from the smallest number to the greatest. -/
def inOrder (rows : Rows) : List Row := rows.entries.mergeSort fun a b => a.number ≤ b.number

/-- The row with the greatest number. -/
def latest? (rows : Rows) : Option Row :=
  (rows.entries.mergeSort fun a b => b.number ≤ a.number).head?

end Rows

end DepositGateway
