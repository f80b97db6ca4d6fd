import DepositGateway.Json.Parser
import DepositGateway.Proofs.Json.Room
import Mathlib.Data.List.Induction
import Mathlib.Data.List.TakeWhile

/-!
# What the reader gives

What is read has integers within the limit of digits and objects with distinct keys. Its written
form may be longer than what it was read from, where a character is escaped or a blank put in, but
by no more than twelve characters for each that was read.

* `Json.Sound`: what holds of every value that was read.
* `Json.sound_number?`, `Json.length_textBody?`: numbers and texts.
* `Json.sound_value?`: values, by induction on the fuel of the reader.
* `Json.sound_parse?`: whole texts.
-/

namespace DepositGateway

/-! ## Numbers -/

namespace Decimal

/-- As many digits stand for less than so high a power of ten. -/
theorem value_lt_pow {run : List Char} (h : ∀ c ∈ run, isDigit c = true) :
    value run < Nat.pow 10 run.length := by
  induction run using List.reverseRecOn with
  | nil => exact Nat.one_pos
  | append_singleton front last ih =>
    rw [List.forall_mem_append, List.forall_mem_singleton] at h
    have hfront := ih h.1
    have hlast : last.toNat ≤ 57 := by
      have := h.2
      rw [isDigit, Bool.and_eq_true, decide_eq_true_eq, decide_eq_true_eq] at this
      exact UInt32.le_iff_toNat_le.1 this.2
    have hpow : Nat.pow 10 (front.length + 1) = Nat.pow 10 front.length * 10 := rfl
    rw [value_append_singleton, List.length_append, List.length_singleton, hpow]
    omega

/-- A number has no more digits than it was read from. -/
theorem length_digits_value_le {run : List Char} (h : ∀ c ∈ run, isDigit c = true)
    (hne : run ≠ []) : (digits (value run)).length ≤ run.length := by
  have hpos : 0 < run.length := List.length_pos_iff.2 hne
  have hlt := value_lt_pow h
  have hmore := lt_length_digits_iff (value run) hpos
  omega

theorem length_ofInt_le (number : Int) :
    (ofInt number).length ≤ (digits number.natAbs).length + 1 := by
  rw [ofInt]
  split
  · exact Nat.le_refl _
  · omega

theorem length_exponentPart_le (text : List Char) :
    (exponentPart text).2.length ≤ text.length := by
  have hdrop (run : List Char) : (run.dropWhile isDigit).length ≤ run.length :=
    List.length_dropWhile_le _ run
  cases text with
  | nil => exact Nat.le_refl 0
  | cons letter rest =>
    unfold exponentPart
    dsimp only
    split
    · split
      -- with a minus sign, with a plus sign, with none
      all_goals
        split
        · exact Nat.le_refl _
        · refine Nat.le_trans (hdrop _) ?_
          simp only [List.length_cons]
          omega
    · exact Nat.le_refl _

end Decimal

namespace Json

/-! ## Numbers -/

/-- What holds of a value that was read: its objects have distinct keys and its integers are within
the limit of digits. -/
structure Sound (value : Json) : Prop where
  distinct : value.Distinct
  writable : value.isWritable = true

theorem length_skipBlanks_le (text : List Char) : (skipBlanks text).length ≤ text.length :=
  List.length_dropWhile_le _ text

theorem length_afterWord? {word text rest : List Char} (h : afterWord? word text = some rest) :
    rest.length ≤ text.length := by
  induction word generalizing text with
  | nil =>
    cases h
    exact Nat.le_refl _
  | cons w word ih =>
    cases text with
    | nil => cases h
    | cons c text =>
      rw [afterWord?] at h
      split at h
      · exact Nat.le_succ_of_le (ih h)
      · cases h

theorem length_fractionDigits_le (text : List Char) :
    (fractionDigits text).2.length ≤ text.length := by
  unfold fractionDigits
  split
  · dsimp only
    split
    · exact Nat.le_refl _
    · exact Nat.le_succ_of_le (List.length_dropWhile_le _ _)
  · exact Nat.le_refl _

/-- A number from its digits before the point and what stands behind them. -/
theorem sound_of_whole {negative : Bool} {whole behind rest : List Char} {number : Number}
    (hwhole : ∀ c ∈ whole, Decimal.isDigit c = true) (hne : whole ≠ [])
    (h : (if ((fractionDigits behind).1.isEmpty &&
          (Decimal.exponentPart (fractionDigits behind).2).1.isNone) = true then
        if Decimal.limit < whole.length then none
        else some (.int (if negative = true then -(Decimal.value whole : Int)
          else (Decimal.value whole : Int)), (Decimal.exponentPart (fractionDigits behind).2).2)
      else some (.double (Binary64.ofDecimal negative
          (Decimal.value (whole ++ (fractionDigits behind).1))
          ((Decimal.exponentPart (fractionDigits behind).2).1.getD 0 -
            ((fractionDigits behind).1.length : Int))),
        (Decimal.exponentPart (fractionDigits behind).2).2)) = some (number, rest)) :
    Sound (.num number) ∧
      room (.num number) + 12 * rest.length ≤ 12 * (whole ++ behind).length := by
  have hfraction := length_fractionDigits_le behind
  have hexponent := Decimal.length_exponentPart_le (fractionDigits behind).2
  rw [List.length_append]
  split at h
  · split at h
    · cases h
    · next hlimit =>
      cases h
      have hdigits := Decimal.length_digits_value_le hwhole hne
      have hpos : 0 < whole.length := List.length_pos_iff.2 hne
      have hsize : (if negative = true then -(Decimal.value whole : Int)
          else (Decimal.value whole : Int)).natAbs = Decimal.value whole := by
        split <;> simp
      have hprinted := Decimal.length_ofInt_le
        (if negative = true then -(Decimal.value whole : Int) else (Decimal.value whole : Int))
      rw [hsize] at hprinted
      refine ⟨⟨.num _, ?_⟩, ?_⟩
      · rw [isWritable, Number.isWritable, hsize]
        exact decide_eq_true (by omega)
      · rw [room]
        omega
  · cases h
    refine ⟨⟨.num _, rfl⟩, ?_⟩
    rw [room]
    omega

/-- A number that was read from its digits. -/
theorem sound_unsignedNumber? {negative : Bool} {text rest : List Char} {number : Number}
    (h : unsignedNumber? negative text = some (number, rest)) :
    Sound (.num number) ∧ room (.num number) + 12 * rest.length ≤ 12 * text.length := by
  simp only [unsignedNumber?, Option.bind_eq_bind] at h
  split at h
  · next tail =>
    exact sound_of_whole (List.forall_mem_singleton.2 rfl) (List.cons_ne_nil _ _) h
  · next c tail _ =>
    split at h
    · next hfirst =>
      have hdigits : ∀ d ∈ c :: tail.takeWhile Decimal.isDigit, Decimal.isDigit d = true :=
        List.forall_mem_cons.2 ⟨hfirst, fun d => List.mem_takeWhile_imp⟩
      have hread := sound_of_whole hdigits (List.cons_ne_nil _ _) h
      rwa [List.cons_append, List.takeWhile_append_dropWhile] at hread
    · cases h
  · cases h

/-- A number that was read. -/
theorem sound_number? {text rest : List Char} {number : Number}
    (h : number? text = some (number, rest)) :
    Sound (.num number) ∧ room (.num number) + 12 * rest.length ≤ 12 * text.length := by
  have hword {word behind text : List Char} {x : Binary64}
      (h : (afterWord? word behind >>= fun rest => some (Number.double x, rest)) =
        some (number, rest)) (hshorter : behind.length ≤ text.length) :
      Sound (.num number) ∧ room (.num number) + 12 * rest.length ≤ 12 * text.length := by
    obtain ⟨found, hfound, h⟩ := Option.bind_eq_some_iff.1 h
    cases h
    have hlength := length_afterWord? hfound
    refine ⟨⟨.num _, rfl⟩, ?_⟩
    rw [room]
    omega
  unfold number? at h
  split at h
  · exact hword h (Nat.le_add_right _ 2)
  · obtain ⟨hsound, hroom⟩ := sound_unsignedNumber? h
    refine ⟨hsound, ?_⟩
    rw [List.length_cons]
    omega
  · exact hword h (Nat.le_succ _)
  · exact hword h (Nat.le_succ _)
  · exact sound_unsignedNumber? h

/-! ## Texts -/

theorem length_printUnit_le (unit : UInt16) : (printUnit unit).length ≤ 6 := by
  unfold printUnit escapeUnit
  repeat' split
  all_goals simp

/-- A character that is read as it is may be written as two escapes. -/
theorem length_printUnits_ofChar (c : Char) :
    ((Utf16.ofChar c).flatMap printUnit).length ≤ 12 := by
  rw [Utf16.ofChar]
  split
  · have hunit := length_printUnit_le (UInt16.ofNat c.toNat)
    rw [List.flatMap_singleton]
    omega
  · have hhigh := length_printUnit_le (UInt16.ofNat (0xd800 + (c.toNat - 0x10000) / 0x400))
    have hlow := length_printUnit_le (UInt16.ofNat (0xdc00 + (c.toNat - 0x10000) % 0x400))
    rw [List.flatMap_cons, List.flatMap_singleton, List.length_append]
    omega

/-- A text that was read is written in twelve characters at most for each of its own. -/
theorem length_textBody? {text rest : List Char} {units : Utf16}
    (h : textBody? text = some (units, rest)) :
    (units.flatMap printUnit).length + 12 * rest.length + 12 ≤ 12 * text.length := by
  fun_induction textBody? text generalizing units rest with
  | case1 => cases h
  | case2 tail =>
    cases h
    simp only [List.flatMap_nil, List.length_nil, List.length_cons]
    omega
  | case3 a b c d tail ih =>
    simp only [Option.bind_eq_bind, Option.bind_eq_some_iff] at h
    obtain ⟨unit, -, ⟨behind, found⟩, htail, h⟩ := h
    cases h
    have hunit := length_printUnit_le unit
    have hbehind := ih htail
    simp only [List.flatMap_cons, List.length_append, List.length_cons]
    omega
  | case4 c tail hother ih =>
    simp only [Option.bind_eq_bind, Option.bind_eq_some_iff] at h
    obtain ⟨unit, -, ⟨behind, found⟩, htail, h⟩ := h
    cases h
    have hunit := length_printUnit_le unit
    have hbehind := ih htail
    simp only [List.flatMap_cons, List.length_append, List.length_cons]
    omega
  | case5 => cases h
  | case6 c tail =>
    rename_i ih
    obtain ⟨⟨behind, found⟩, htail, h⟩ := Option.bind_eq_some_iff.1 h
    cases h
    have hunits := length_printUnits_ofChar c
    have hbehind := ih htail
    simp only [List.flatMap_append, List.length_append, List.length_cons]
    omega

/-- A text that was read up to its closing quote fits in twelve characters for each of its own. -/
theorem length_printText_le {text rest : List Char} {units : Utf16}
    (h : textBody? text = some (units, rest)) :
    (printText units).length + 12 * rest.length ≤ 12 * ('"' :: text).length := by
  have hbody := length_textBody? h
  simp only [printText, List.length_append, List.length_cons, List.length_nil]
  omega

/-! ## Lists and objects -/

theorem Sound.arr {items : List Json} (h : ∀ item ∈ items, Sound item) : Sound (.arr items) where
  distinct := .arr fun item hitem => (h item hitem).distinct
  writable := areWritable_iff.2 fun item hitem => (h item hitem).writable

theorem sound_obj_iff {members : List (Utf16 × Json)} :
    Sound (.obj members) ↔
      (members.map Prod.fst).Nodup ∧ ∀ member ∈ members, Sound member.2 := by
  constructor
  · rintro ⟨distinct, writable⟩
    rw [isWritable, membersAreWritable_iff] at writable
    cases distinct with
    | obj keys distinct =>
      exact ⟨keys, fun member hmember => ⟨distinct member hmember, writable member hmember⟩⟩
  · rintro ⟨keys, h⟩
    exact ⟨.obj keys fun member hmember => (h member hmember).distinct,
      membersAreWritable_iff.2 fun member hmember => (h member hmember).writable⟩

/-- A key that is there stays in its place, any other is appended. -/
theorem keys_insert (key : Utf16) (value : Json) (members : List (Utf16 × Json)) :
    (insert key value members).map Prod.fst =
      if key ∈ members.map Prod.fst then members.map Prod.fst
      else members.map Prod.fst ++ [key] := by
  induction members with
  | nil => rfl
  | cons member rest ih =>
    obtain ⟨other, old⟩ := member
    rw [insert]
    by_cases hkey : other = key
    · simp [hkey]
    · rw [if_neg hkey, List.map_cons, ih]
      by_cases hrest : key ∈ rest.map Prod.fst
      · simp [hrest]
      · simp [hrest, Ne.symm hkey]

/-- Each member behind an insertion is the new one or an old one. -/
theorem mem_insert {key : Utf16} {value : Json} {members : List (Utf16 × Json)}
    {member : Utf16 × Json} (h : member ∈ insert key value members) :
    member = (key, value) ∨ member ∈ members := by
  induction members with
  | nil => exact .inl (List.mem_singleton.1 h)
  | cons first rest ih =>
    obtain ⟨other, old⟩ := first
    rw [insert] at h
    split at h
    · next hkey =>
      subst hkey
      exact (List.mem_cons.1 h).imp_right (List.mem_cons_of_mem _)
    · rcases List.mem_cons.1 h with rfl | hrest
      · exact .inr List.mem_cons_self
      · exact (ih hrest).imp_right (List.mem_cons_of_mem _)

/-- An insertion takes the room of the new member at most. -/
theorem roomMembers_insert_le (key : Utf16) (value : Json) (members : List (Utf16 × Json)) :
    roomMembers (insert key value members) ≤
      (printText key).length + room value + 4 + roomMembers members := by
  induction members with
  | nil => exact Nat.le_refl _
  | cons member rest ih =>
    obtain ⟨other, old⟩ := member
    rw [insert]
    split
    · next hkey =>
      rw [hkey, roomMembers, roomMembers]
      omega
    · rw [roomMembers, roomMembers]
      omega

/-- An object stays sound with one more member. -/
theorem Sound.insert {key : Utf16} {value : Json} {members : List (Utf16 × Json)}
    (hmembers : Sound (.obj members)) (hvalue : Sound value) :
    Sound (.obj (Json.insert key value members)) := by
  obtain ⟨keys, hall⟩ := sound_obj_iff.1 hmembers
  refine sound_obj_iff.2 ⟨?_, fun member hmember => ?_⟩
  · rw [keys_insert]
    split
    · exact keys
    · next hnew => exact List.nodup_append_comm.1 (List.nodup_cons.2 ⟨hnew, keys⟩)
  · rcases mem_insert hmember with rfl | hold
    · exact hvalue
    · exact hall member hold

/-! ## Values -/

mutual

/-- A value that was read. -/
theorem sound_value? : (fuel : Nat) → {text rest : List Char} → {value : Json} →
    value? fuel text = some (value, rest) →
    Sound value ∧ room value + 12 * rest.length ≤ 12 * text.length
  | 0, _, _, _, h => by cases h
  | fuel + 1, text, rest, value, h => by
    rw [value?.eq_def] at h
    dsimp only at h
    split at h
    · next tail =>
      obtain ⟨behind, hbehind, h⟩ := Option.bind_eq_some_iff.1 h
      cases h
      have hlength := length_afterWord? hbehind
      refine ⟨⟨.null, rfl⟩, ?_⟩
      rw [room, List.length_cons]
      omega
    · next tail =>
      obtain ⟨behind, hbehind, h⟩ := Option.bind_eq_some_iff.1 h
      cases h
      have hlength := length_afterWord? hbehind
      refine ⟨⟨.bool true, rfl⟩, ?_⟩
      rw [room, List.length_cons]
      omega
    · next tail =>
      obtain ⟨behind, hbehind, h⟩ := Option.bind_eq_some_iff.1 h
      cases h
      have hlength := length_afterWord? hbehind
      refine ⟨⟨.bool false, rfl⟩, ?_⟩
      rw [room, List.length_cons]
      omega
    · next tail =>
      obtain ⟨⟨units, behind⟩, hunits, h⟩ := Option.bind_eq_some_iff.1 h
      cases h
      exact ⟨⟨.str units, rfl⟩, length_printText_le hunits⟩
    · next tail =>
      have hblanks := length_skipBlanks_le tail
      split at h
      · next behind hnone =>
        cases h
        rw [hnone, List.length_cons] at hblanks
        refine ⟨.arr (List.forall_mem_nil _), ?_⟩
        rw [room, roomItems, List.length_cons]
        omega
      · obtain ⟨⟨items, behind⟩, hitems, h⟩ := Option.bind_eq_some_iff.1 h
        cases h
        obtain ⟨hsound, hroom⟩ := sound_items? fuel hitems
        refine ⟨.arr hsound, ?_⟩
        rw [room, List.length_cons]
        dsimp only
        omega
    · next tail =>
      have hblanks := length_skipBlanks_le tail
      have hempty : Sound (.obj []) := sound_obj_iff.2 ⟨List.nodup_nil, List.forall_mem_nil _⟩
      split at h
      · next behind hnone =>
        cases h
        rw [hnone, List.length_cons] at hblanks
        refine ⟨hempty, ?_⟩
        rw [room, roomMembers, List.length_cons]
        omega
      · obtain ⟨⟨members, behind⟩, hmembers, h⟩ := Option.bind_eq_some_iff.1 h
        cases h
        obtain ⟨hsound, hroom⟩ := sound_members? fuel hempty hmembers
        refine ⟨hsound, ?_⟩
        rw [roomMembers] at hroom
        rw [room, List.length_cons]
        dsimp only
        omega
    · obtain ⟨⟨number, behind⟩, hnumber, h⟩ := Option.bind_eq_some_iff.1 h
      cases h
      exact sound_number? hnumber

/-- Items that were read. -/
theorem sound_items? : (fuel : Nat) → {text rest : List Char} → {items : List Json} →
    items? fuel text = some (items, rest) →
    (∀ item ∈ items, Sound item) ∧ roomItems items + 12 * rest.length ≤ 12 * text.length
  | 0, _, _, _, h => by cases h
  | fuel + 1, text, rest, items, h => by
    rw [items?] at h
    obtain ⟨⟨item, behind⟩, hitem, h⟩ := Option.bind_eq_some_iff.1 h
    obtain ⟨hsound, hroom⟩ := sound_value? fuel hitem
    have hblanks := length_skipBlanks_le behind
    dsimp only at h
    split at h
    · next next hcomma =>
      obtain ⟨⟨others, found⟩, hothers, h⟩ := Option.bind_eq_some_iff.1 h
      cases h
      obtain ⟨hall, hrest⟩ := sound_items? fuel hothers
      have hnext := length_skipBlanks_le next
      rw [hcomma, List.length_cons] at hblanks
      refine ⟨List.forall_mem_cons.2 ⟨hsound, hall⟩, ?_⟩
      dsimp only
      rw [roomItems]
      omega
    · next hclosing =>
      cases h
      rw [hclosing, List.length_cons] at hblanks
      refine ⟨List.forall_mem_singleton.2 hsound, ?_⟩
      rw [roomItems, roomItems]
      omega
    · cases h

/-- Members that were read after others. -/
theorem sound_members? : (fuel : Nat) → {seen : List (Utf16 × Json)} → Sound (.obj seen) →
    {text rest : List Char} → {members : List (Utf16 × Json)} →
    members? fuel seen text = some (members, rest) →
    Sound (.obj members) ∧
      roomMembers members + 12 * rest.length ≤ roomMembers seen + 12 * text.length
  | 0, _, _, _, _, _, h => by cases h
  | fuel + 1, seen, hseen, text, rest, members, h => by
    rw [members?.eq_def] at h
    dsimp only at h
    split at h
    · next tail =>
      obtain ⟨⟨key, behind⟩, hkey, h⟩ := Option.bind_eq_some_iff.1 h
      have hprinted := length_printText_le hkey
      have hblanks := length_skipBlanks_le behind
      dsimp only at h
      split at h
      · next colon hcolon =>
        rw [hcolon, List.length_cons] at hblanks
        obtain ⟨⟨value, found⟩, hvalue, h⟩ := Option.bind_eq_some_iff.1 h
        obtain ⟨hsound, hroom⟩ := sound_value? fuel hvalue
        have hnext := length_skipBlanks_le colon
        have hclosing := length_skipBlanks_le found
        have hinsert := roomMembers_insert_le key value seen
        dsimp only at h
        split at h
        · next comma hcomma =>
          obtain ⟨hall, hrest⟩ := sound_members? fuel (hseen.insert hsound) h
          have hskip := length_skipBlanks_le comma
          rw [hcomma, List.length_cons] at hclosing
          exact ⟨hall, by omega⟩
        · next brace hbrace =>
          cases h
          rw [hbrace, List.length_cons] at hclosing
          exact ⟨hseen.insert hsound, by omega⟩
        · cases h
      · cases h
    · cases h

end

/-- A value that was read from a whole text. -/
theorem sound_parse? {text : List Char} {value : Json} (h : parse? text = some value) :
    Sound value ∧ room value ≤ 12 * text.length := by
  obtain ⟨⟨found, rest⟩, hvalue, h⟩ := Option.bind_eq_some_iff.1 h
  obtain ⟨hsound, hroom⟩ := sound_value? _ hvalue
  have hblanks := length_skipBlanks_le text
  dsimp only at h
  split at h
  · cases h
    exact ⟨hsound, by omega⟩
  · cases h

end Json

end DepositGateway
