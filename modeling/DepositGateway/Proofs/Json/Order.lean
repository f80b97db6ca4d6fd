import DepositGateway.Proofs.Json.Plain
import DepositGateway.Proofs.Text.RoundTrip
import Mathlib.Data.List.Nodup
import Mathlib.Data.List.Perm.Subperm

/-!
# Keys have one order

The order by code points is a linear order of texts, so an object with distinct keys has one order
of its members by their keys. Alike values are therefore the same once their keys are in order.

* `Utf16.precedes_total`, `Utf16.precedes_trans`, `Utf16.precedes_antisymm`: the order of texts.
* `Json.Distinct`: a value whose objects have distinct keys.
* `Json.sortKeys_eq_of_alike`: alike values are the same with their keys in order.
-/

namespace DepositGateway

namespace Utf16

/-! ## The order of texts -/

theorem listPrecedes_cons {first other : Nat} {rest others : List Nat} :
    listPrecedes (first :: rest) (other :: others) = true ↔
      first < other ∨ first = other ∧ listPrecedes rest others = true := by
  rw [listPrecedes, Bool.or_eq_true, Bool.and_eq_true, decide_eq_true_eq, beq_iff_eq]

theorem listPrecedes_total (a b : List Nat) :
    listPrecedes a b = true ∨ listPrecedes b a = true := by
  induction a generalizing b with
  | nil => exact .inl rfl
  | cons first rest ih =>
    cases b with
    | nil => exact .inr rfl
    | cons other others =>
      rw [listPrecedes_cons, listPrecedes_cons]
      rcases Nat.lt_trichotomy first other with hless | rfl | hmore
      · exact .inl (.inl hless)
      · exact (ih others).imp (.inr ⟨rfl, ·⟩) (.inr ⟨rfl, ·⟩)
      · exact .inr (.inl hmore)

theorem listPrecedes_trans {a b c : List Nat} (h : listPrecedes a b = true)
    (hnext : listPrecedes b c = true) : listPrecedes a c = true := by
  induction a generalizing b c with
  | nil => rfl
  | cons first rest ih =>
    cases b with
    | nil => cases h
    | cons second others =>
      cases c with
      | nil => cases hnext
      | cons third last =>
        rw [listPrecedes_cons] at *
        rcases h with hless | ⟨rfl, h⟩ <;> rcases hnext with hless' | ⟨rfl, hnext⟩
        · exact .inl (Nat.lt_trans hless hless')
        · exact .inl hless
        · exact .inl hless'
        · exact .inr ⟨rfl, ih h hnext⟩

theorem listPrecedes_antisymm {a b : List Nat} (h : listPrecedes a b = true)
    (hback : listPrecedes b a = true) : a = b := by
  induction a generalizing b with
  | nil =>
    cases b with
    | nil => rfl
    | cons => cases hback
  | cons first rest ih =>
    cases b with
    | nil => cases h
    | cons other others =>
      rw [listPrecedes_cons] at h hback
      have hfirst : first = other := by omega
      have hrest := h.resolve_left (by omega)
      have hothers := hback.resolve_left (by omega)
      rw [hfirst, ih hrest.2 hothers.2]

theorem precedes_total (a b : Utf16) : (precedes a b || precedes b a) = true :=
  Bool.or_eq_true_iff.2 (listPrecedes_total _ _)

theorem precedes_trans {a b c : Utf16} (h : precedes a b = true) (hnext : precedes b c = true) :
    precedes a c = true := listPrecedes_trans h hnext

theorem precedes_antisymm {a b : Utf16} (h : precedes a b = true) (hback : precedes b a = true) :
    a = b := codePoints_injective (listPrecedes_antisymm h hback)

end Utf16

namespace Json

/-! ## Values with distinct keys -/

/-- A value whose objects have distinct keys, at every depth. -/
inductive Distinct : Json → Prop
  | null : Distinct .null
  | bool (value : Bool) : Distinct (.bool value)
  | num (value : Number) : Distinct (.num value)
  | str (units : Utf16) : Distinct (.str units)
  | arr {items : List Json} (distinct : ∀ item ∈ items, Distinct item) : Distinct (.arr items)
  | obj {members : List (Utf16 × Json)} (keys : (members.map Prod.fst).Nodup)
      (distinct : ∀ member ∈ members, Distinct member.2) : Distinct (.obj members)

/-- Members with distinct keys have one order by their keys. -/
theorem eq_of_sorted {members others : List (Utf16 × Json)}
    (keys : (members.map Prod.fst).Nodup) (hperm : members.Perm others)
    (hsorted : members.Pairwise fun a b => Utf16.precedes a.1 b.1 = true)
    (hother : others.Pairwise fun a b => Utf16.precedes a.1 b.1 = true) : members = others := by
  refine List.Perm.eq_of_pairwise (fun a b ha hb h hback => ?_) hsorted hother hperm
  have hkey : a.1 = b.1 := Utf16.precedes_antisymm h hback
  have hmember := lookup_of_mem keys (hperm.mem_iff.2 hb)
  rw [← hkey, lookup_of_mem keys ha] at hmember
  exact Prod.ext hkey (Option.some.inj hmember)

/-- The members of an object in the order of their keys. -/
theorem pairwise_sortKeys (members : List (Utf16 × Json)) :
    ((sortMembers members).mergeSort fun a b => Utf16.precedes a.1 b.1).Pairwise
      fun a b => Utf16.precedes a.1 b.1 = true := by
  refine List.pairwise_mergeSort ?_ ?_ _
  · exact fun _ _ _ => Utf16.precedes_trans
  · exact fun first second => Utf16.precedes_total first.1 second.1

theorem mem_of_lookup {key : Utf16} {value : Json} {members : List (Utf16 × Json)}
    (h : lookup key members = some value) : (key, value) ∈ members := by
  induction members with
  | nil => cases h
  | cons member rest ih =>
    rw [lookup] at h
    split at h
    · next hkey =>
      cases h
      rw [← hkey]
      exact List.mem_cons_self
    · exact List.mem_cons_of_mem _ (ih h)

/-- Alike objects with distinct keys have the same members with their own keys in order, if perhaps
in another order. -/
theorem perm_sortMembers {members others : List (Utf16 × Json)}
    (keys : (members.map Prod.fst).Nodup) (hlength : members.length = others.length)
    (h : ∀ member ∈ members, ∃ other, lookup member.1 others = some other ∧
      member.2.sortKeys = other.sortKeys) :
    (sortMembers members).Perm (sortMembers others) := by
  rw [sortMembers_eq_map, sortMembers_eq_map]
  have hnodup : (members.map fun member => (member.1, member.2.sortKeys)).Nodup := by
    refine List.Nodup.of_map Prod.fst ?_
    rwa [List.map_map]
  refine (hnodup.subperm fun member hmember => ?_).perm_of_length_le
    (by simp [hlength])
  obtain ⟨original, horiginal, rfl⟩ := List.mem_map.1 hmember
  obtain ⟨other, hfound, hsame⟩ := h original horiginal
  exact List.mem_map.2 ⟨(original.1, other), mem_of_lookup hfound, by rw [hsame]⟩

theorem sortItems_eq_of_alike {items others : List Json}
    (h : ∀ item ∈ items, ∀ other, alike item other = true → item.sortKeys = other.sortKeys)
    (halike : alikeItems items others = true) : sortItems items = sortItems others := by
  induction items generalizing others with
  | nil =>
    cases others with
    | nil => rfl
    | cons other others => simp [alikeItems] at halike
  | cons item rest ih =>
    cases others with
    | nil => simp [alikeItems] at halike
    | cons other others =>
      rw [List.forall_mem_cons] at h
      rw [alikeItems, Bool.and_eq_true] at halike
      rw [sortItems, sortItems, h.1 other halike.1, ih h.2 halike.2]

/-- Alike values whose objects have distinct keys are the same with their keys in order. -/
theorem sortKeys_eq_of_alike {value other : Json} (hvalue : value.Distinct)
    (h : alike value other = true) : value.sortKeys = other.sortKeys := by
  induction hvalue generalizing other with
  | null | bool | num | str =>
    simp only [alike, decide_eq_true_eq] at h
    rw [h]
  | @arr items _ ih =>
    cases other with
    | arr others =>
      rw [alike] at h
      rw [sortKeys, sortKeys, sortItems_eq_of_alike (fun item hitem _ => ih item hitem) h]
    | _ => simp [alike] at h
  | @obj members keys _ ih =>
    cases other with
    | obj others =>
      rw [alike, Bool.and_eq_true, beq_iff_eq, alikeMembers_iff] at h
      have hperm := perm_sortMembers keys h.1 fun member hmember => by
        obtain ⟨found, hfound, hsame⟩ := h.2 member hmember
        exact ⟨found, hfound, ih member hmember hsame⟩
      -- Both are sorted lists of the same members, and distinct keys have one order.
      have hkeys : ((sortMembers members).map Prod.fst).Nodup := by
        rwa [sortMembers_eq_map, List.map_map]
      rw [sortKeys, sortKeys, obj.injEq]
      refine eq_of_sorted (((List.mergeSort_perm _ _).map _).nodup_iff.2 hkeys) ?_
        (pairwise_sortKeys members) (pairwise_sortKeys others)
      exact (List.mergeSort_perm _ _).trans (hperm.trans (List.mergeSort_perm _ _).symm)
    | _ => simp [alike] at h

end Json

end DepositGateway
