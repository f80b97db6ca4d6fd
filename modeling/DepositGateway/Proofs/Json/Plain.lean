import DepositGateway.Json.Printer

/-!
# Values without doubles, and equality of objects as mappings

A value is plain when it is built from null, truth values, integers, texts, lists, and objects whose
keys are distinct. Two values are alike when they differ at most in the order in which objects have
their members.

* `Json.Plain`, `Json.alike`: the two notions.
* `Json.Plain.sortKeys`: a plain value stays plain when its keys are brought into order.
* `Json.alike_sortKeys`: it also stays the same value.
* `Json.isWritable_sortKeys`: and its integers the same, as in any value.
* `Json.induct`: induction over values.
-/

namespace DepositGateway

namespace Json

/-- Induction over values: a list from its items, an object from the values of its members. -/
theorem induct {motive : Json → Prop} (null : motive .null) (bool : ∀ value, motive (.bool value))
    (num : ∀ value, motive (.num value)) (str : ∀ units, motive (.str units))
    (arr : ∀ items, (∀ item ∈ items, motive item) → motive (.arr items))
    (obj : ∀ members : List (Utf16 × Json), (∀ member ∈ members, motive member.2) →
      motive (.obj members)) (value : Json) : motive value :=
  @Json.rec motive (fun items => ∀ item ∈ items, motive item)
    (fun members => ∀ member ∈ members, motive member.2) (fun member => motive member.2)
    null bool num str arr obj (List.forall_mem_nil _)
    (fun _ _ first rest => List.forall_mem_cons.2 ⟨first, rest⟩) (List.forall_mem_nil _)
    (fun _ _ first rest => List.forall_mem_cons.2 ⟨first, rest⟩) (fun _ _ held => held) value

/-! ## Plain values -/

/-- A value without doubles whose objects have distinct keys. -/
inductive Plain : Json → Prop
  | null : Plain .null
  | bool (value : Bool) : Plain (.bool value)
  | int (value : Int) : Plain (.int value)
  | str (units : Utf16) : Plain (.str units)
  | arr {items : List Json} (plain : ∀ item ∈ items, Plain item) : Plain (.arr items)
  | obj {members : List (Utf16 × Json)} (distinct : (members.map Prod.fst).Nodup)
      (plain : ∀ member ∈ members, Plain member.2) : Plain (.obj members)

/-! ## Alike values -/

mutual

/-- Whether two values are the same up to the order of the members of objects: two objects have as
many members, and each of the first has one of the second with its key and an alike value. -/
def alike : Json → Json → Bool
  | .arr items, .arr others => alikeItems items others
  | .obj members, .obj others => members.length == others.length && alikeMembers members others
  | value, other => decide (value = other)

/-- Whether two lists of values are alike, place by place. -/
def alikeItems : List Json → List Json → Bool
  | [], [] => true
  | item :: rest, other :: others => alike item other && alikeItems rest others
  | _, _ => false

/-- Whether each member has one with its key and an alike value. -/
def alikeMembers : List (Utf16 × Json) → List (Utf16 × Json) → Bool
  | [], _ => true
  | (key, value) :: rest, others =>
    (match lookup key others with
      | some other => alike value other
      | none => false) && alikeMembers rest others

end

theorem alikeMembers_iff {members others : List (Utf16 × Json)} :
    alikeMembers members others = true ↔ ∀ member ∈ members, ∃ other,
      lookup member.1 others = some other ∧ alike member.2 other = true := by
  induction members with
  | nil => simp [alikeMembers]
  | cons member rest ih =>
    obtain ⟨key, value⟩ := member
    rw [alikeMembers, Bool.and_eq_true, ih, List.forall_mem_cons]
    refine and_congr_left fun _ => ?_
    cases lookup key others <;> simp

theorem alikeItems_map {change : Json → Json} {items : List Json}
    (h : ∀ item ∈ items, alike (change item) item = true) :
    alikeItems (items.map change) items = true := by
  induction items with
  | nil => rfl
  | cons item rest ih =>
    rw [List.forall_mem_cons] at h
    rw [List.map_cons, alikeItems, h.1, ih h.2]
    rfl

/-- A member is found under its key where keys are distinct. -/
theorem lookup_of_mem {members : List (Utf16 × Json)} (distinct : (members.map Prod.fst).Nodup)
    {member : Utf16 × Json} (h : member ∈ members) : lookup member.1 members = some member.2 := by
  induction members with
  | nil => cases h
  | cons first rest ih =>
    obtain ⟨key, value⟩ := first
    rw [List.map_cons, List.nodup_cons] at distinct
    rw [lookup]
    rcases List.mem_cons.mp h with rfl | hrest
    · rw [if_pos rfl]
    · have hkey : key ≠ member.1 := by
        rintro rfl
        exact distinct.1 (List.mem_map.mpr ⟨member, hrest, rfl⟩)
      rw [if_neg hkey, ih distinct.2 hrest]

/-! ## Keys in order -/

theorem sortItems_eq_map (items : List Json) : sortItems items = items.map sortKeys := by
  induction items with
  | nil => rfl
  | cons item rest ih => rw [sortItems, ih, List.map_cons]

theorem sortMembers_eq_map (members : List (Utf16 × Json)) :
    sortMembers members = members.map fun member => (member.1, member.2.sortKeys) := by
  induction members with
  | nil => rfl
  | cons member rest ih => rw [sortMembers, ih, List.map_cons]

/-- The members of an object in the order of their keys are the members with their own keys in
order, in another order. -/
theorem sortKeys_obj (members : List (Utf16 × Json)) :
    ∃ sorted, sortKeys (.obj members) = .obj sorted ∧
      sorted.Perm (members.map fun member => (member.1, member.2.sortKeys)) := by
  refine ⟨_, rfl, ?_⟩
  rw [← sortMembers_eq_map]
  exact List.mergeSort_perm _ _

theorem keys_sorted {members sorted : List (Utf16 × Json)}
    (h : sorted.Perm (members.map fun member => (member.1, member.2.sortKeys))) :
    (sorted.map Prod.fst).Perm (members.map Prod.fst) := by
  have := h.map Prod.fst
  rwa [List.map_map] at this

/-- A plain value stays plain when its keys are brought into order. -/
theorem Plain.sortKeys {value : Json} (h : Plain value) : Plain value.sortKeys := by
  induction h with
  | null => exact .null
  | bool value => exact .bool value
  | int value => exact .int value
  | str units => exact .str units
  | arr plain ih =>
    rw [Json.sortKeys, sortItems_eq_map]
    refine .arr fun item hitem => ?_
    obtain ⟨original, horiginal, rfl⟩ := List.mem_map.mp hitem
    exact ih original horiginal
  | @obj members distinct plain ih =>
    obtain ⟨sorted, hsorted, hperm⟩ := sortKeys_obj members
    rw [hsorted]
    refine .obj ((keys_sorted hperm).nodup_iff.mpr distinct) fun member hmember => ?_
    obtain ⟨original, horiginal, rfl⟩ := List.mem_map.mp (hperm.mem_iff.mp hmember)
    exact ih original horiginal

/-- Bringing the keys of a plain value into order leaves it the same value. -/
theorem alike_sortKeys {value : Json} (h : Plain value) : alike value.sortKeys value = true := by
  induction h with
  | null => rfl
  | bool value => simp [Json.sortKeys, alike]
  | int value => simp [Json.sortKeys, alike]
  | str units => simp [Json.sortKeys, alike]
  | arr plain ih =>
    rw [Json.sortKeys, sortItems_eq_map, alike]
    exact alikeItems_map ih
  | @obj members distinct plain ih =>
    obtain ⟨sorted, hsorted, hperm⟩ := sortKeys_obj members
    rw [hsorted, alike, Bool.and_eq_true]
    refine ⟨by simpa using hperm.length_eq, alikeMembers_iff.mpr fun member hmember => ?_⟩
    obtain ⟨original, horiginal, rfl⟩ := List.mem_map.mp (hperm.mem_iff.mp hmember)
    exact ⟨original.2, lookup_of_mem distinct horiginal, ih original horiginal⟩

/-! ## Integers within the limit of digits -/

theorem areWritable_iff {items : List Json} :
    areWritable items = true ↔ ∀ item ∈ items, item.isWritable = true := by
  induction items with
  | nil => simp [areWritable]
  | cons item rest ih => rw [areWritable, Bool.and_eq_true, ih, List.forall_mem_cons]

theorem membersAreWritable_iff {members : List (Utf16 × Json)} :
    membersAreWritable members = true ↔ ∀ member ∈ members, member.2.isWritable = true := by
  induction members with
  | nil => simp [membersAreWritable]
  | cons member rest ih =>
    rw [membersAreWritable, Bool.and_eq_true, ih, List.forall_mem_cons]

/-- The order of the keys does not matter to whether a value can be written. -/
theorem isWritable_sortKeys (value : Json) : value.sortKeys.isWritable = value.isWritable := by
  rw [Bool.eq_iff_iff]
  induction value using Json.induct with
  | null | bool | num | str => rfl
  | arr items ih =>
    rw [Json.sortKeys, sortItems_eq_map, isWritable, isWritable, areWritable_iff, areWritable_iff,
      List.forall_mem_map]
    exact forall₂_congr ih
  | obj members ih =>
    obtain ⟨sorted, hsorted, hperm⟩ := sortKeys_obj members
    rw [hsorted, isWritable, isWritable, membersAreWritable_iff, membersAreWritable_iff]
    rw [show (∀ member ∈ sorted, member.2.isWritable = true) ↔ _ from
      forall_congr' fun member => imp_congr_left hperm.mem_iff, List.forall_mem_map]
    exact forall₂_congr ih

end Json

end DepositGateway
