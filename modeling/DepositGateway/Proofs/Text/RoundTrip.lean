import DepositGateway.Text.Utf16
import DepositGateway.Text.Utf8

/-!
# Written texts are read back

* `Utf16.ofString_of_toString?`: the text of units has those units.
* `Utf16.toText_ofString`: the units of a text are read as that text.
* `Utf16.codePoints_injective`: units are known by their code points.
* `Utf8.read?_toUTF8`: the bytes of a text are read as that text. `Utf8.toUTF8_of_read?`: nothing
  else is read as it.
* `Utf8.read?_ascii`: characters of ASCII take a byte each.
-/

namespace DepositGateway

namespace Utf16

/-- One unit for a code point of the first plane, a pair for any other. -/
def ofPoint (point : Nat) : Utf16 :=
  if point < 0x10000 then [UInt16.ofNat point]
  else [UInt16.ofNat (0xd800 + (point - 0x10000) / 0x400),
    UInt16.ofNat (0xdc00 + (point - 0x10000) % 0x400)]

/-- A unit that stands for itself is written as it is. -/
theorem ofPoint_single (unit : UInt16) : ofPoint unit.toNat = [unit] := by
  have hunit := unit.toNat_lt
  rw [ofPoint, if_pos (by omega), UInt16.ofNat_toNat]

/-- The code point of a pair is written as that pair. -/
theorem ofPoint_pair {first second : UInt16} (hfirst : isLeading first = true)
    (hsecond : isTrailing second = true) :
    ofPoint (0x10000 + (first.toNat - 0xd800) * 0x400 + (second.toNat - 0xdc00)) =
      [first, second] := by
  simp only [isLeading, Bool.and_eq_true, decide_eq_true_eq, UInt16.le_iff_toNat_le,
    UInt16.lt_iff_toNat_lt] at hfirst
  simp only [isTrailing, Bool.and_eq_true, decide_eq_true_eq, UInt16.le_iff_toNat_le,
    UInt16.lt_iff_toNat_lt] at hsecond
  simp only [UInt16.reduceToNat] at hfirst hsecond
  rw [ofPoint, if_neg (by omega)]
  have hhigh : 0xd800 + (0x10000 + (first.toNat - 0xd800) * 0x400 + (second.toNat - 0xdc00)
      - 0x10000) / 0x400 = first.toNat := by omega
  have hlow : 0xdc00 + (0x10000 + (first.toNat - 0xd800) * 0x400 + (second.toNat - 0xdc00)
      - 0x10000) % 0x400 = second.toNat := by omega
  rw [hhigh, hlow, UInt16.ofNat_toNat, UInt16.ofNat_toNat]

/-- The code points of units are written as those units. -/
theorem ofPoints_codePoints (units : Utf16) : (codePoints units).flatMap ofPoint = units := by
  induction units using codePoints.induct with
  | case1 => rfl
  | case2 unit => rw [codePoints, List.flatMap_singleton, ofPoint_single]
  | case3 first second rest hpair ih =>
    rw [codePoints, if_pos hpair, List.flatMap_cons, ih]
    rw [Bool.and_eq_true] at hpair
    rw [ofPoint_pair hpair.1 hpair.2, List.cons_append, List.singleton_append]
  | case4 first second rest hpair ih =>
    rw [codePoints, if_neg hpair, List.flatMap_cons, ih, ofPoint_single, List.singleton_append]

/-- Units are known by their code points. -/
theorem codePoints_injective {units others : Utf16} (h : codePoints units = codePoints others) :
    units = others := by
  rw [← ofPoints_codePoints units, h, ofPoints_codePoints]

/-- The character of a code point has this code point. -/
theorem toNat_of_char? {point : Nat} {c : Char} (h : char? point = some c) : c.toNat = point := by
  obtain ⟨hvalid, hchar⟩ := Option.dite_none_right_eq_some.1 h
  cases hchar
  rfl

theorem map_toNat_of_char? {points : List Nat} {chars : List Char}
    (h : points.mapM char? = some chars) : chars.map Char.toNat = points := by
  induction points generalizing chars with
  | nil =>
    cases h
    rfl
  | cons point rest ih =>
    simp only [List.mapM_cons, Option.bind_eq_bind, Option.bind_eq_some_iff] at h
    obtain ⟨c, hc, others, hothers, hchars⟩ := h
    cases hchars
    rw [List.map_cons, toNat_of_char? hc, ih hothers]

/-- Units that are a text from end to end are those of the text. -/
theorem ofString_of_toString? {units : Utf16} {text : String} (h : toString? units = some text) :
    ofString text = units := by
  simp only [toString?, Option.bind_eq_bind, Option.bind_eq_some_iff, Option.pure_def,
    Option.some.injEq] at h
  obtain ⟨chars, hchars, rfl⟩ := h
  rw [ofString, String.toList_ofList]
  calc
    ofChars chars = (chars.map Char.toNat).flatMap ofPoint := by rw [List.flatMap_map]; rfl
    _ = (codePoints units).flatMap ofPoint := by rw [map_toNat_of_char? hchars]
    _ = units := ofPoints_codePoints units

theorem codePoints_single {unit : UInt16} (h : isLeading unit = false) (rest : Utf16) :
    codePoints (unit :: rest) = unit.toNat :: codePoints rest := by
  cases rest with
  | nil => rfl
  | cons second rest => rw [codePoints, h, Bool.false_and, if_neg Bool.false_ne_true]

/-- A character is read off the units it is written as. -/
theorem codePoints_ofChar (c : Char) (rest : Utf16) :
    codePoints (ofChar c ++ rest) = c.toNat :: codePoints rest := by
  have hvalid : c.toNat.isValidChar := c.valid
  simp only [Nat.isValidChar] at hvalid
  by_cases hsmall : c.toNat < 0x10000
  · rw [ofChar, if_pos hsmall]
    have hunit : (UInt16.ofNat c.toNat).toNat = c.toNat := UInt16.toNat_ofNat_of_lt' hsmall
    have hsingle : isLeading (UInt16.ofNat c.toNat) = false := by
      simp only [isLeading, Bool.and_eq_false_iff, decide_eq_false_iff_not, UInt16.le_iff_toNat_le,
        UInt16.lt_iff_toNat_lt, hunit, UInt16.reduceToNat]
      omega
    rw [List.singleton_append, codePoints_single hsingle, hunit]
  · rw [ofChar, if_neg hsmall]
    have hhigh : (UInt16.ofNat (0xd800 + (c.toNat - 0x10000) / 0x400)).toNat =
        0xd800 + (c.toNat - 0x10000) / 0x400 :=
      UInt16.toNat_ofNat_of_lt' (show _ < 0x10000 by omega)
    have hlow : (UInt16.ofNat (0xdc00 + (c.toNat - 0x10000) % 0x400)).toNat =
        0xdc00 + (c.toNat - 0x10000) % 0x400 :=
      UInt16.toNat_ofNat_of_lt' (show _ < 0x10000 by omega)
    have hpair : (isLeading (UInt16.ofNat (0xd800 + (c.toNat - 0x10000) / 0x400)) &&
        isTrailing (UInt16.ofNat (0xdc00 + (c.toNat - 0x10000) % 0x400))) = true := by
      simp only [isLeading, isTrailing, Bool.and_eq_true, decide_eq_true_eq,
        UInt16.le_iff_toNat_le, UInt16.lt_iff_toNat_lt, hhigh, hlow, UInt16.reduceToNat]
      omega
    have hpoint : 0x10000 + (0xd800 + (c.toNat - 0x10000) / 0x400 - 0xd800) * 0x400 +
        (0xdc00 + (c.toNat - 0x10000) % 0x400 - 0xdc00) = c.toNat := by omega
    rw [List.cons_append, List.singleton_append, codePoints, if_pos hpair, hhigh, hlow, hpoint]

theorem codePoints_ofChars (text : List Char) :
    codePoints (ofChars text) = text.map Char.toNat := by
  induction text with
  | nil => rfl
  | cons c rest ih =>
    rw [ofChars, List.flatMap_cons, codePoints_ofChar]
    exact congrArg _ ih

theorem char?_toNat (c : Char) : char? c.toNat = some c := by
  exact dif_pos (show c.toNat.isValidChar from c.valid)

/-- The units of a text are a text from end to end. -/
theorem toString?_ofString (text : String) : toString? (ofString text) = some text := by
  have hchars (chars : List Char) : (chars.map Char.toNat).mapM char? = some chars := by
    induction chars with
    | nil => rfl
    | cons c rest ih => simp [List.mapM_cons, char?_toNat, ih]
  rw [toString?, ofString, codePoints_ofChars, hchars]
  simp

/-- The units of a text are read as that text. -/
theorem toText_ofString (text : String) : toText (ofString text) = text := by
  rw [toText, ofString, codePoints_ofChars, List.map_map]
  simp [Function.comp_def, char?_toNat]

theorem mapM_char? {points : List Nat}
    (h : '?' ∉ points.map fun point => (char? point).getD '?') :
    points.mapM char? = some (points.map fun point => (char? point).getD '?') := by
  induction points with
  | nil => rfl
  | cons point rest ih =>
    rw [List.map_cons, List.mem_cons, not_or] at h
    cases hpoint : char? point with
    | none => simp [hpoint] at h
    | some c => simp [List.mapM_cons, hpoint, ih h.2]

/-- Units whose text has no mark in place of half a pair are those of the text. -/
theorem ofString_toText {units : Utf16} (h : '?' ∉ (toText units).toList) :
    ofString (toText units) = units := by
  rw [toText, String.toList_ofList] at h
  refine ofString_of_toString? ?_
  rw [toString?, mapM_char? h]
  rfl

end Utf16

namespace Utf8

theorem read?_toUTF8 (text : String) : read? text.toUTF8.data.toList = some text := by
  have hvalid : ByteArray.IsValidUTF8 ⟨text.toUTF8.data.toList.toArray⟩ := text.isValidUTF8
  rw [read?, String.fromUTF8?, dif_pos hvalid]
  rfl

/-- What is read as a text is the bytes of the text. -/
theorem toUTF8_of_read? {bytes : Bytes} {text : String} (h : read? bytes = some text) :
    text.toUTF8.data.toList = bytes := by
  rw [read?, String.fromUTF8?] at h
  split at h
  · cases h
    rfl
  · cases h

/-- The bytes of a text are those of its characters, one after the other. -/
theorem toUTF8_ofList (text : List Char) :
    (String.ofList text).toUTF8.data.toList = text.flatMap String.utf8EncodeChar := by
  simp [String.toUTF8, List.utf8Encode]

/-- A text has at least as many bytes as characters. -/
theorem length_le_of_read? {bytes : Bytes} {text : String} (h : read? bytes = some text) :
    text.toList.length ≤ bytes.length := by
  have hbytes := toUTF8_ofList text.toList
  rw [String.ofList_toList, toUTF8_of_read? h] at hbytes
  rw [hbytes]
  induction text.toList with
  | nil => exact Nat.le_refl 0
  | cons c rest ih =>
    have hsize := c.utf8Size_pos
    rw [List.flatMap_cons, List.length_append, String.length_utf8EncodeChar, List.length_cons]
    omega

theorem utf8EncodeChar_ascii {c : Char} (h : c.toNat < 0x80) :
    String.utf8EncodeChar c = [UInt8.ofNat c.toNat] := by
  have hle : c.val.toNat ≤ 127 := Nat.le_of_lt_succ h
  simp only [String.utf8EncodeChar, if_pos hle]
  rfl

/-- Characters of ASCII take a byte each. -/
theorem toUTF8_ascii {text : List Char} (h : ∀ c ∈ text, c.toNat < 0x80) :
    (String.ofList text).toUTF8.data.toList = text.map fun c => UInt8.ofNat c.toNat := by
  have hbytes : text.flatMap String.utf8EncodeChar = text.map fun c => UInt8.ofNat c.toNat := by
    rw [List.flatMap_def, List.map_congr_left fun c hc => utf8EncodeChar_ascii (h c hc),
      ← List.flatMap_def, ← List.map_eq_flatMap]
  rw [toUTF8_ofList, hbytes]

theorem read?_ascii {text : List Char} (h : ∀ c ∈ text, c.toNat < 0x80) :
    read? (text.map fun c => UInt8.ofNat c.toNat) = some (String.ofList text) := by
  rw [← toUTF8_ascii h, read?_toUTF8]

end Utf8

end DepositGateway
