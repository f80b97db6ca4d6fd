import DepositGateway.Proofs.Json.Order

/-!
# How long the written form of a value is

The length of the written form is bounded by a sum over the parts of the value, which does not
depend on the order of the members of objects.

* `Json.Integral`: a value whose numbers are integers. `Json.Distinct.plain`: with distinct keys it
  is plain.
* `Json.room`: room for the written form of such a value. `Json.room_sortKeys`: the order of the
  keys does not matter to it.
* `Json.length_print_le`, `Json.length_render_le`: the written form fits in.
-/

namespace DepositGateway

namespace Json

/-! ## Values whose numbers are integers -/

/-- A value without doubles. -/
inductive Integral : Json → Prop
  | null : Integral .null
  | bool (value : Bool) : Integral (.bool value)
  | int (value : Int) : Integral (.int value)
  | str (units : Utf16) : Integral (.str units)
  | arr {items : List Json} (integral : ∀ item ∈ items, Integral item) : Integral (.arr items)
  | obj {members : List (Utf16 × Json)} (integral : ∀ member ∈ members, Integral member.2) :
      Integral (.obj members)

/-- A value without doubles whose objects have distinct keys is plain. -/
theorem Distinct.plain {value : Json} (h : Distinct value) (integral : Integral value) :
    Plain value := by
  induction h with
  | null => exact .null
  | bool value => exact .bool value
  | num value =>
    cases integral with
    | int value => exact .int value
  | str units => exact .str units
  | arr distinct ih =>
    cases integral with
    | arr integral => exact .arr fun item hitem => ih item hitem (integral item hitem)
  | obj keys distinct ih =>
    cases integral with
    | obj integral =>
      exact .obj keys fun member hmember => ih member hmember (integral member hmember)

/-! ## Room for the written form -/

mutual

/-- Room for the written form of a value, its doubles left out of account. -/
def room : Json → Nat
  | .null => 4
  | .bool _ => 5
  | .num (.int value) => (Decimal.ofInt value).length
  | .num (.double _) => 0
  | .str units => (printText units).length
  | .arr items => roomItems items + 2
  | .obj members => roomMembers members + 2

/-- Room for items, each with a comma and a blank. -/
def roomItems : List Json → Nat
  | [] => 0
  | item :: rest => room item + 2 + roomItems rest

/-- Room for members, each with a colon, a comma and two blanks. -/
def roomMembers : List (Utf16 × Json) → Nat
  | [] => 0
  | (key, value) :: rest => (printText key).length + room value + 4 + roomMembers rest

end

theorem length_printItems_le {items : List Json}
    (h : ∀ item ∈ items, (print item).length ≤ room item) :
    (printItems items).length ≤ roomItems items := by
  induction items with
  | nil => exact Nat.le_refl 0
  | cons item rest ih =>
    rw [List.forall_mem_cons] at h
    have hrest := ih h.2
    cases rest with
    | nil => exact Nat.le_trans h.1 (Nat.le_add_right _ 2)
    | cons next rest =>
      rw [printItems, roomItems]
      simp only [List.length_append, List.length_cons]
      omega

theorem length_printMembers_le {members : List (Utf16 × Json)}
    (h : ∀ member ∈ members, (print member.2).length ≤ room member.2) :
    (printMembers members).length ≤ roomMembers members := by
  induction members with
  | nil => exact Nat.le_refl 0
  | cons member rest ih =>
    obtain ⟨key, value⟩ := member
    rw [List.forall_mem_cons] at h
    have hvalue : (print value).length ≤ room value := h.1
    have hrest := ih h.2
    cases rest with
    | nil =>
      rw [printMembers, roomMembers, roomMembers]
      simp only [List.length_append, List.length_cons]
      omega
    | cons next rest =>
      rw [printMembers, roomMembers]
      simp only [List.length_append, List.length_cons]
      omega

/-- The written form of a value without doubles fits in the room for it. -/
theorem length_print_le {value : Json} (integral : Integral value) :
    (print value).length ≤ room value := by
  induction integral with
  | null | int | str => exact Nat.le_refl _
  | bool value => cases value <;> decide
  | arr _ ih =>
    have hitems := length_printItems_le ih
    simp only [print, room, List.length_append, List.length_cons, List.length_nil]
    omega
  | obj _ ih =>
    have hmembers := length_printMembers_le ih
    simp only [print, room, List.length_append, List.length_cons, List.length_nil]
    omega

theorem roomItems_congr {change : Json → Json} {items : List Json}
    (h : ∀ item ∈ items, room (change item) = room item) :
    roomItems (items.map change) = roomItems items := by
  induction items with
  | nil => rfl
  | cons item rest ih =>
    rw [List.forall_mem_cons] at h
    rw [List.map_cons, roomItems, roomItems, h.1, ih h.2]

theorem roomMembers_congr {change : Json → Json} {members : List (Utf16 × Json)}
    (h : ∀ member ∈ members, room (change member.2) = room member.2) :
    roomMembers (members.map fun member => (member.1, change member.2)) = roomMembers members := by
  induction members with
  | nil => rfl
  | cons member rest ih =>
    rw [List.forall_mem_cons] at h
    rw [List.map_cons, roomMembers, roomMembers, h.1, ih h.2]

/-- The room for members does not depend on their order. -/
theorem roomMembers_perm {members others : List (Utf16 × Json)} (h : members.Perm others) :
    roomMembers members = roomMembers others := by
  induction h with
  | nil => rfl
  | cons member _ ih => rw [roomMembers, roomMembers, ih]
  | swap first second rest =>
    simp only [roomMembers]
    omega
  | trans _ _ ih ih' => exact ih.trans ih'

/-- Bringing the keys of a value into order takes no room. -/
theorem room_sortKeys (value : Json) : room value.sortKeys = room value := by
  induction value using Json.induct with
  | null | bool | num | str => rfl
  | arr items ih => rw [sortKeys, sortItems_eq_map, room, room, roomItems_congr ih]
  | obj members ih =>
    obtain ⟨sorted, hsorted, hperm⟩ := sortKeys_obj members
    rw [hsorted, room, room, roomMembers_perm hperm, roomMembers_congr ih]

theorem Integral.sortKeys {value : Json} (h : Integral value) : Integral value.sortKeys := by
  induction h with
  | null => exact .null
  | bool value => exact .bool value
  | int value => exact .int value
  | str units => exact .str units
  | arr _ ih =>
    rw [Json.sortKeys, sortItems_eq_map]
    exact .arr (List.forall_mem_map.2 ih)
  | @obj members _ ih =>
    obtain ⟨sorted, hsorted, hperm⟩ := sortKeys_obj members
    rw [hsorted]
    refine .obj fun member hmember => ?_
    obtain ⟨original, horiginal, rfl⟩ := List.mem_map.1 (hperm.mem_iff.1 hmember)
    exact ih original horiginal

/-- The same room has the written form with the keys in order. -/
theorem length_render_le {value : Json} (integral : Integral value) :
    value.render.length ≤ room value :=
  Nat.le_trans (length_print_le integral.sortKeys) (Nat.le_of_eq (room_sortKeys value))

end Json

end DepositGateway
