import DepositGateway.Proofs.Rlp.Length
import Mathlib.Data.List.Induction

/-!
# The reader takes written forms alone

What the reader takes an item from begins with the written form of that item, so an item has one
written form, and no written form goes on in another.

* `Bytes.ofNat_toNat`: bytes without a leading zero are the shortest form of their number.
* `Rlp.eq_front_of_announced?`: what is announced was announced by its own first bytes.
* `Rlp.eq_encode_of_item?`: an item is read from its written form.
* `Rlp.decode?_eq_some_iff`: whole bytes are read as an item exactly if they are its written form.
* `Rlp.decode?_append`: nothing may follow the bytes of an item.
-/

namespace DepositGateway

namespace Bytes

/-- Bytes without a leading zero are the shortest form of their number. -/
theorem ofNat_toNat {bytes : Bytes} (h : bytes.head? ≠ some 0) : ofNat bytes.toNat = bytes := by
  induction bytes using List.reverseRecOn with
  | nil => exact ofNat_zero
  | append_singleton front last ih =>
    have hfront : front.head? ≠ some 0 := by
      cases front with
      | nil => simp
      | cons first rest => exact h
    have hlast := last.toNat_lt
    rw [toNat_append_singleton]
    have hpos : 0 < toNat front * 256 + last.toNat := by
      refine Nat.pos_of_ne_zero fun hzero => ?_
      obtain ⟨hnone, hbyte⟩ : toNat front = 0 ∧ last.toNat = 0 := by omega
      -- Nothing stands in front, so the last byte is the leading one, and it is zero.
      obtain rfl : front = [] := by rw [← ih hfront, hnone, ofNat_zero]
      exact h (congrArg some (UInt8.toNat_inj.1 hbyte))
    rw [ofNat_pos hpos, show (toNat front * 256 + last.toNat) / 256 = toNat front by omega,
      show (toNat front * 256 + last.toNat) % 256 = last.toNat by omega, ih hfront,
      UInt8.ofNat_toNat]

end Bytes

namespace Rlp

/-! ## First bytes -/

/-- The bytes that announce an item. -/
def Announced.front : Announced → Bytes
  | .single byte => [byte]
  | .bytes length => header 0x80 length
  | .list length => header 0xc0 length

/-- What can be announced: a lone byte below 0x80, or a length within the bound. -/
def Announced.Fits : Announced → Prop
  | .single byte => byte < 0x80
  | .bytes length => length < lengthBound
  | .list length => length < lengthBound

/-- A long length is read from its shortest form. -/
theorem eq_ofNat_of_longLength? {size length : Nat} {bytes rest : Bytes}
    (h : longLength? size bytes = some (length, rest)) :
    bytes = Bytes.ofNat length ++ rest ∧ (Bytes.ofNat length).length = size ∧ 56 ≤ length := by
  unfold longLength? at h
  dsimp only at h
  split at h
  · cases h
  · next hnone =>
    cases h
    obtain ⟨hsize, hhead, hlong⟩ : ¬ (bytes.take size).length < size ∧
        (bytes.take size).head? ≠ some 0 ∧ ¬ Bytes.toNat (bytes.take size) < 56 := by
      simpa only [not_or] using hnone
    have hle := List.length_take_le size bytes
    rw [Bytes.ofNat_toNat hhead, List.take_append_drop]
    exact ⟨rfl, by omega, by omega⟩

/-- A length of at most eight bytes is within the bound. -/
theorem lt_lengthBound {length : Nat} (h : (Bytes.ofNat length).length ≤ 8) :
    length < lengthBound :=
  Nat.lt_of_lt_of_le (Bytes.lt_pow_length length) (Nat.pow_le_pow_right (by omega) h)

/-- A first byte that announces a short length is all there is in front. -/
theorem header_of_short {base : Nat} {first : UInt8} (hbase : base ≤ first.toNat)
    (h : first.toNat < base + 56) : header base (first.toNat - base) = [first] := by
  rw [header, if_pos (by omega), Nat.add_sub_of_le hbase, UInt8.ofNat_toNat]

/-- A first byte that announces a long length stands in front together with that length. -/
theorem header_of_long {base length : Nat} {first : UInt8} {tail rest : Bytes}
    (hbase : base + 55 ≤ first.toNat) (hsmall : first.toNat ≤ base + 63)
    (h : longLength? (first.toNat - (base + 55)) tail = some (length, rest)) :
    first :: tail = header base length ++ rest ∧ length < lengthBound := by
  obtain ⟨rfl, hsize, hleast⟩ := eq_ofNat_of_longLength? h
  refine ⟨?_, lt_lengthBound (by omega)⟩
  rw [header, if_neg (by omega)]
  dsimp only
  rw [hsize, Nat.add_sub_of_le hbase, UInt8.ofNat_toNat, List.cons_append]

/-- What is announced was announced by its own first bytes. -/
theorem eq_front_of_announced? {bytes rest : Bytes} {announced : Announced}
    (h : announced? bytes = some (announced, rest)) :
    bytes = announced.front ++ rest ∧ announced.Fits := by
  cases bytes with
  | nil => cases h
  | cons first tail =>
    have hfirst := first.toNat_lt
    have hbound := lengthBound_eq
    -- The first byte lies in one of five ranges.
    simp only [announced?, Option.bind_eq_bind] at h
    split at h
    · next hsingle =>
      cases h
      exact ⟨rfl, UInt8.lt_iff_toNat_lt.2 hsingle⟩
    split at h
    · next hshort =>
      cases h
      rw [Announced.front, header_of_short (by omega) (by omega)]
      exact ⟨rfl, show first.toNat - 0x80 < lengthBound by omega⟩
    split at h
    · next hlong =>
      obtain ⟨⟨length, behind⟩, hlength, h⟩ := Option.bind_eq_some_iff.1 h
      cases h
      exact header_of_long (by omega) (by omega) hlength
    split at h
    · next hshort =>
      cases h
      rw [Announced.front, header_of_short (by omega) (by omega)]
      exact ⟨rfl, show first.toNat - 0xc0 < lengthBound by omega⟩
    · obtain ⟨⟨length, behind⟩, hlength, h⟩ := Option.bind_eq_some_iff.1 h
      cases h
      exact header_of_long (by omega) (by omega) hlength

/-! ## Items -/

/-- A byte string that is not wasteful is written behind its announcement. -/
theorem encodeBytes_of_not_wasteful {payload : Bytes} (h : isWasteful payload = false) :
    encodeBytes payload = header 0x80 payload.length ++ payload := by
  unfold encodeBytes
  split
  · next byte =>
    rw [if_neg (by simpa [isWasteful] using h)]
    rfl
  · rfl

mutual

/-- What an item is read from begins with the written form of the item, and the item fits. -/
theorem eq_encode_of_item? : (fuel : Nat) → {bytes rest : Bytes} → {item : Item} →
    item? fuel bytes = some (item, rest) → bytes = item.encode ++ rest ∧ item.fits = true
  | 0, _, _, _, h => by cases h
  | fuel + 1, bytes, rest, item, h => by
    simp only [item?, Option.bind_eq_bind, Option.bind_eq_some_iff] at h
    obtain ⟨⟨announced, behind⟩, hannounced, h⟩ := h
    obtain ⟨rfl, hfits⟩ := eq_front_of_announced? hannounced
    cases announced with
    | single byte =>
      cases h
      have hbyte : byte < 0x80 := hfits
      rw [Item.encode, encodeBytes, if_pos hbyte]
      exact ⟨rfl, rfl⟩
    | bytes length =>
      dsimp only at h
      split at h
      · cases h
      · next hwhole =>
        cases h
        rw [Bool.or_eq_true, not_or, decide_eq_true_eq, Bool.not_eq_true] at hwhole
        have hlength : (behind.take length).length = length := by
          have := List.length_take_le length behind
          omega
        have hbound : length < lengthBound := hfits
        refine ⟨?_, by rw [Item.fits, hlength]; exact decide_eq_true hbound⟩
        rw [Item.encode, encodeBytes_of_not_wasteful hwhole.2, hlength, List.append_assoc,
          List.take_append_drop]
        rfl
    | list length =>
      dsimp only at h
      split at h
      · cases h
      · next hwhole =>
        simp only [Option.bind_eq_some_iff] at h
        obtain ⟨items, hitems, h⟩ := h
        cases h
        obtain ⟨hpayload, hall⟩ := eq_encodeItems_of_items? fuel hitems
        have hlength : (encodeItems items).length = length := by
          have := List.length_take_le length behind
          rw [← hpayload]
          omega
        have hbound : length < lengthBound := hfits
        refine ⟨?_, by simp only [Item.fits, hlength, hall, hbound, decide_true, Bool.and_self]⟩
        rw [Item.encode, encodeList, hlength, ← hpayload, List.append_assoc,
          List.take_append_drop]
        rfl

/-- What items are read from is their written forms, one after the other, and they fit. -/
theorem eq_encodeItems_of_items? : (fuel : Nat) → {bytes : Bytes} → {items : List Item} →
    items? fuel bytes = some items → bytes = encodeItems items ∧ allFit items = true
  | 0, bytes, items, h => by
    rw [items?] at h
    split at h
    · next hnone =>
      cases h
      exact ⟨List.isEmpty_iff.1 hnone, rfl⟩
    · cases h
  | fuel + 1, bytes, items, h => by
    rw [items?] at h
    split at h
    · next hnone =>
      cases h
      exact ⟨List.isEmpty_iff.1 hnone, rfl⟩
    · simp only [Option.bind_eq_bind, Option.bind_eq_some_iff] at h
      obtain ⟨⟨item, behind⟩, hitem, others, hothers, h⟩ := h
      cases h
      obtain ⟨rfl, hfits⟩ := eq_encode_of_item? fuel hitem
      obtain ⟨rfl, hall⟩ := eq_encodeItems_of_items? fuel hothers
      exact ⟨rfl, by rw [allFit, hfits, hall]; rfl⟩

end

/-- Whole bytes are read as an item exactly if they are its written form. -/
theorem decode?_eq_some_iff {bytes : Bytes} {item : Item} :
    decode? bytes = some item ↔ item.encode? = some bytes := by
  refine ⟨fun h => ?_, decode?_of_encode?⟩
  simp only [decode?, Option.bind_eq_bind, Option.bind_eq_some_iff] at h
  obtain ⟨⟨found, rest⟩, hitem, h⟩ := h
  dsimp only at h
  split at h
  · next hnone =>
    cases h
    obtain ⟨hbytes, hfits⟩ := eq_encode_of_item? _ hitem
    rw [List.isEmpty_iff.1 hnone, List.append_nil] at hbytes
    rw [Item.encode?, if_pos hfits, hbytes]
  · cases h

/-- Nothing may follow the bytes of an item. -/
theorem decode?_append {bytes more : Bytes} {item : Item} (h : decode? bytes = some item)
    (hmore : more ≠ []) : decode? (bytes ++ more) = none := by
  rw [decode?_eq_some_iff, Item.encode?] at h
  split at h
  · next hfits =>
    cases h
    have hread := item?_encode item hfits (2 * (item.encode ++ more).length + 2) more
      (by rw [List.length_append]; omega)
    rw [decode?, hread]
    simp [hmore]
  · cases h

end Rlp

end DepositGateway
