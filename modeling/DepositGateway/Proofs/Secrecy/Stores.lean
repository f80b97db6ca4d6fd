import DepositGateway.Proofs.Secrecy.Sweep
import DepositGateway.Proofs.Store.Rows
import DepositGateway.Proofs.Store.Volatile
import Mathlib.Data.List.Forall2

/-!
# Stores of twin invoices

Two stores that keep twins under the same keys in the same order answer with twins, or with the same
fault, report the same, and go on keeping twins.

* `TwinEntries`: the same key with twin invoices.
* `Backend.Alike`: what two such stores keep. In the durable one, a row that cannot be read has one
  beside it that cannot be read for the same reason.
* `Store.Blind`: a store whose answers are such. `Backend.blind`: either store is one.
-/

namespace DepositGateway

variable {ω σ α β : Type}

/-- The same key, with twin invoices. -/
structure TwinEntries (entry twin : InvoiceKey × Invoice) : Prop where
  key : twin.1 = entry.1
  invoices : entry.2.Twins twin.2

/-- What is in a store is told as twins, and what is done to it is told alike. -/
structure Store.Blind (R : ω → ω → Prop) (store : Store ω) : Prop where
  get : ∀ key, Action.Concur R Invoice.Twins (store.get key) (store.get key)
  getAll : Action.Concur R (List.Forall₂ TwinEntries) store.getAll store.getAll
  latest : Action.Concur R TwinEntries store.latest store.latest
  delete : ∀ key, Action.Blind R (store.delete key)

/-! ## What is kept -/

namespace Row

/-- What the bytes of a row are read as. -/
def reading (row : Row) : Except Fault Invoice :=
  (Invoice.decode row.data).mapError RecordFault.toFault

/-- Two rows of one key that are read as twins, or not at all for the same reason. -/
structure Alike (row twin : Row) : Prop where
  key : twin.key = row.key
  reading : SameEnd Invoice.Twins row.reading twin.reading

end Row

/-- Two tables with like rows in the same order, which their numbers tell. -/
structure Table.Alike (table twin : Table) : Prop where
  isGone : twin.isGone = table.isGone
  rows : List.Forall₂ Row.Alike table.rows.entries twin.rows.entries
  ascending : table.rows.Ascending
  ascendingTwin : twin.rows.Ascending

/-- What two stores keep is the same but for the keys of the invoices. -/
def Backend.Alike : Backend σ → σ → σ → Prop
  | .memory, shelf, twin => List.Forall₂ TwinEntries shelf.entries twin.entries
  | .table, shelf, twin => shelf.Alike twin

/-! ## Looking and changing -/

namespace Premises

variable {S : σ → σ → Prop} {E : ω → ω → Prop} {Q : α → β → Prop}

theorem concur_read {view : σ → α} {other : σ → β} (h : ∀ s t, S s t → Q (view s) (other t)) :
    Action.Concur (Related S E) Q (shelved.read view) (shelved.read other) :=
  fun _ _ hr => ⟨.ok (h _ _ hr.shelf), hr⟩

theorem blind_update {change : σ → σ} (h : ∀ s t, S s t → S (change s) (change t)) :
    Action.Blind (Related S E) (shelved.update change) :=
  .update fun _ _ hr => ⟨h _ _ hr.shelf, hr.outside⟩

end Premises

/-- What is found or not goes on alike on both sides. -/
theorem Action.Concur.found {R : ω → ω → Prop} {Q : α → β → Prop} {γ δ : Type} {P : γ → δ → Prop}
    {first : Action ω (Option α)} {second : Action ω (Option β)} {f : Option α → Action ω γ}
    {g : Option β → Action ω δ} (h : Action.Concur R (Option.Rel Q) first second)
    (hsome : ∀ a b, Q a b → Action.Concur R P (f (some a)) (g (some b)))
    (hnone : Action.Concur R P (f none) (g none)) :
    Action.Concur R P (first >>= f) (second >>= g) := by
  refine h.bind fun a b hab => ?_
  cases hab with
  | some hab => exact hsome _ _ hab
  | none => exact hnone

/-! ## The volatile store -/

namespace Backend

variable {E : ω → ω → Prop}

theorem findIn_twins {entries twins : List (InvoiceKey × Invoice)} (key : InvoiceKey)
    (h : List.Forall₂ TwinEntries entries twins) :
    Option.Rel Invoice.Twins (Keyed.findIn key entries) (Keyed.findIn key twins) := by
  induction h with
  | nil => exact .none
  | @cons entry twin entries twins hentry hrest ih =>
    obtain ⟨name, invoice⟩ := entry
    obtain ⟨name', invoice'⟩ := twin
    obtain ⟨hname, hinvoices⟩ := hentry
    dsimp only at hname hinvoices
    subst hname
    by_cases hkey : name' = key
    · rw [Keyed.findIn, Keyed.findIn, if_pos hkey, if_pos hkey]
      exact .some hinvoices
    · rw [Keyed.findIn, Keyed.findIn, if_neg hkey, if_neg hkey]
      exact ih

theorem eraseIn_twins {entries twins : List (InvoiceKey × Invoice)} (key : InvoiceKey)
    (h : List.Forall₂ TwinEntries entries twins) :
    List.Forall₂ TwinEntries (Keyed.eraseIn key entries) (Keyed.eraseIn key twins) := by
  rw [Keyed.eraseIn_eq, Keyed.eraseIn_eq]
  refine List.rel_filter (fun entry twin hentry => ?_) h
  dsimp only
  rw [hentry.key]

/-- The relation between what two gateways keep and what is outside of them. -/
abbrev Beside (backend : Backend σ) (E : ω → ω → Prop) : Premises σ ω → Premises σ ω → Prop :=
  Premises.Related backend.Alike E

theorem concur_found (key : InvoiceKey) :
    Action.Concur (memory.Beside E) (Option.Rel Invoice.Twins) (Store.found Premises.shelved key)
      (Store.found Premises.shelved key) := by
  unfold Store.found
  by_cases hsingle : key.isSingle = true
  · rw [if_pos hsingle]
    exact Premises.concur_read fun _ _ => findIn_twins key
  · rw [if_neg hsingle]
    exact .ofExcept (.error _)

theorem blind_memory :
    (Store.ofMemory Premises.shelved : Store (Premises _ ω)).Blind (memory.Beside E) where
  get key := (concur_found key).found (fun _ _ htwins => .pure htwins) (.ofExcept (.error _))
  getAll := Premises.concur_read fun _ _ halike => halike
  latest := by
    have hlatest : Action.Concur (memory.Beside E) (Option.Rel TwinEntries)
        (Premises.shelved.read Keyed.latest?) (Premises.shelved.read Keyed.latest?) :=
      Premises.concur_read fun _ _ => rel_getLast?
    exact hlatest.found (fun _ _ htwins => .pure htwins) (.ofExcept (.error _))
  delete key := (concur_found key).found
    (fun _ _ _ => Premises.blind_update fun _ _ => eraseIn_twins key) (.ofExcept (.error _))

/-! ## The durable store -/

theorem readRow_eq (row : Row) :
    (Store.readRow row.data : Action ω Invoice) = Action.ofExcept row.reading := by
  unfold Store.readRow Row.reading
  cases Invoice.decode row.data <;> rfl

theorem concur_readRow {R : ω → ω → Prop} {row twin : Row} (h : row.Alike twin) :
    Action.Concur R Invoice.Twins (Store.readRow row.data) (Store.readRow twin.data) := by
  rw [readRow_eq, readRow_eq]
  exact .ofExcept h.reading

variable {journal : Journal ω}

/-- Rows are passed over alike on both sides, and told of alike. -/
theorem concur_readRows {R : ω → ω → Prop} (hj : journal.Blind R) {rows twins : List Row}
    (h : List.Forall₂ Row.Alike rows twins) :
    Action.Concur R (List.Forall₂ TwinEntries) (Store.readRows journal rows)
      (Store.readRows journal twins) := by
  induction h with
  | nil => exact .pure .nil
  | @cons row twin rows twins hrow hrest ih =>
    refine (concur_readRow hrow).attempt_bind fun x y hend => ?_
    cases hend with
    | ok htwins =>
      refine ih.bind fun entries others hentries => .pure (.cons ⟨?_, htwins⟩ hentries)
      exact congrArg InvoiceKey.text hrow.key
    | error fault =>
      rw [hrow.key]
      split
      · next heq => cases heq
      · exact (hj.report _ _ _).then_concur fun _ => ih
      · exact .ofExcept (.error _)

theorem find?_alike {rows twins : Rows} (name : String)
    (h : List.Forall₂ Row.Alike rows.entries twins.entries) :
    Option.Rel Row.Alike (rows.find? name) (twins.find? name) := by
  have hfound := rel_find? (p := fun row => row.key = name) (q := fun row => row.key = name)
    (fun _ _ hrow => by rw [hrow.key]) h
  unfold Rows.find?
  generalize rows.entries.find? _ = found at hfound ⊢
  generalize twins.entries.find? _ = found' at hfound ⊢
  cases hfound with
  | none => exact .none
  | some halike => exact .some halike.1

theorem erase_alike {table twin : Table} (name : String) (h : table.Alike twin) :
    Table.Alike { table with rows := table.rows.erase name }
      { twin with rows := twin.rows.erase name } where
  isGone := h.isGone
  rows := by
    refine List.rel_filter (fun row twin hrow => ?_) h.rows
    dsimp only
    rw [hrow.key]
  ascending := h.ascending.erase name
  ascendingTwin := h.ascendingTwin.erase name

section

variable (hj : journal.Blind E)

include hj

theorem blind_refused {α : Type} : Action.Blind (table.Beside E)
    (Store.refused (Premises.journal journal) : Action (Premises Table ω) α) :=
  ((Premises.blind_journal hj).report _ _ _).bind fun _ => .fail _

theorem blind_column (key : InvoiceKey) :
    Action.Blind (table.Beside E) (Store.column (Premises.journal journal) key) := by
  unfold Store.column
  split
  · exact .pure _
  · exact .pure _
  · exact .pure _
  · split
    · exact .pure _
    · exact .fail _
  · exact .pure _
  · exact blind_refused hj

theorem concur_withTable {Q : α → β → Prop} {first : Action (Premises Table ω) α}
    {second : Action (Premises Table ω) β} (h : Action.Concur (table.Beside E) Q first second) :
    Action.Concur (table.Beside E) Q
      (Store.withTable Premises.shelved (Premises.journal journal) first)
      (Store.withTable Premises.shelved (Premises.journal journal) second) := by
  have hgone : Action.Blind (table.Beside E) (Premises.shelved.read Table.isGone) :=
    Premises.concur_read fun _ _ halike => halike.isGone.symm
  refine hgone.then_concur fun gone => ?_
  cases gone with
  | false => exact h
  | true =>
    exact ((Premises.blind_journal hj).report _ _ _).then_concur fun _ => .ofExcept (.error _)

theorem concur_findRow (key : InvoiceKey) : Action.Concur (table.Beside E) (Option.Rel Row.Alike)
    (Store.findRow Premises.shelved (Premises.journal journal) key)
    (Store.findRow Premises.shelved (Premises.journal journal) key) := by
  refine concur_withTable hj ((blind_column hj key).then_concur fun name? => ?_)
  cases name? with
  | some name => exact Premises.concur_read fun _ _ halike => find?_alike name halike.rows
  | none => exact .pure .none

theorem blind_eraseRow (key : InvoiceKey) : Action.Blind (table.Beside E)
    (Store.eraseRow Premises.shelved (Premises.journal journal) key) := by
  refine concur_withTable hj ((blind_column hj key).then_concur fun name? => ?_)
  cases name? with
  | none => exact .pure rfl
  | some name =>
    have hpresent : Action.Blind (table.Beside E)
        (Premises.shelved.read fun table => (table.rows.find? name).isSome) := by
      refine Premises.concur_read fun table twin halike => ?_
      have hfound := find?_alike name halike.rows
      generalize table.rows.find? name = found at hfound
      generalize twin.rows.find? name = found' at hfound
      cases hfound <;> rfl
    refine hpresent.then_concur fun present => ?_
    exact (Premises.blind_update fun _ _ => erase_alike name).then_concur fun _ => .pure rfl

theorem blind_table :
    (Store.ofTable Premises.shelved (Premises.journal journal) : Store (Premises _ ω)).Blind
      (table.Beside E) where
  get key := (concur_findRow hj key).found (fun _ _ hrow => concur_readRow hrow)
    (.ofExcept (.error _))
  getAll := by
    have hrows : Action.Concur (table.Beside E) (List.Forall₂ Row.Alike)
        (Premises.shelved.read fun table => table.rows.inOrder)
        (Premises.shelved.read fun table => table.rows.inOrder) := by
      refine Premises.concur_read fun table twin halike => ?_
      rw [halike.ascending.inOrder, halike.ascendingTwin.inOrder]
      exact halike.rows
    exact (concur_withTable hj hrows).bind fun _ _ halike =>
      concur_readRows (Premises.blind_journal hj) halike
  latest := by
    have hlatest : Action.Concur (table.Beside E) (Option.Rel Row.Alike)
        (Premises.shelved.read fun table => table.rows.latest?)
        (Premises.shelved.read fun table => table.rows.latest?) := by
      refine Premises.concur_read fun table twin halike => ?_
      rw [halike.ascending.latest?, halike.ascendingTwin.latest?]
      exact rel_getLast? halike.rows
    refine (concur_withTable hj hlatest).found (fun row twin hrow => ?_) (.ofExcept (.error _))
    refine (concur_readRow hrow).bind fun _ _ htwins => .pure ⟨?_, htwins⟩
    exact congrArg InvoiceKey.text hrow.key
  delete key := by
    refine (blind_eraseRow hj key).bind fun present => ?_
    split
    · exact .pure _
    · exact .fail _

/-- Either store answers twins alike. -/
theorem blind (backend : Backend σ) :
    (backend.store Premises.shelved (Premises.journal journal) : Store (Premises σ ω)).Blind
      (backend.Beside E) := by
  cases backend with
  | memory => exact blind_memory
  | table => exact blind_table hj

end

end Backend

end DepositGateway
