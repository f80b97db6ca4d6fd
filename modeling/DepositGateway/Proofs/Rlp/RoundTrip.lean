import DepositGateway.Rlp.Reader

/-!
# Written items are read back

* `Bytes.head?_ofNat`, `Bytes.length_ofNat_le`: the shortest form of a number has no leading zero,
  and a number below a power of 256 has no more bytes than the exponent.
* `Rlp.announced?_header`: the first bytes of a long or short payload announce its length.
* `Rlp.item?_encode`: an item that fits is read back, whatever follows it.
* `Rlp.decode?_encode`: an item that fits is what its written form is read as.
-/

namespace DepositGateway

namespace Bytes

theorem ofNat_ne_nil {value : Nat} (h : 0 < value) : ofNat value ≠ [] := by
  rw [ofNat_pos h]
  simp

/-- The shortest form begins with no zero byte. -/
theorem head?_ofNat (value : Nat) : (ofNat value).head? ≠ some 0 := by
  induction value using Nat.strongRecOn with
  | ind value ih =>
    rcases Nat.eq_zero_or_pos value with rfl | h
    · simp
    · rw [ofNat_pos h]
      rcases Nat.eq_zero_or_pos (value / 256) with hz | hp
      · have hlt : value < 256 := by omega
        rw [hz, ofNat_zero, List.nil_append, List.head?_cons]
        intro he
        have := congrArg UInt8.toNat (Option.some.inj he)
        simp only [UInt8.toNat_ofNat', UInt8.toNat_zero] at this
        omega
      · have hrest := ih (value / 256) (by omega)
        cases hd : ofNat (value / 256) with
        | nil => exact absurd hd (ofNat_ne_nil hp)
        | cons byte rest => simpa [hd] using hrest

theorem length_ofNat_le {value size : Nat} (h : value < Nat.pow 256 size) :
    (ofNat value).length ≤ size := by
  induction size generalizing value with
  | zero =>
    have : value = 0 := by
      have : Nat.pow 256 0 = 1 := rfl
      omega
    simp [this]
  | succ size ih =>
    rcases Nat.eq_zero_or_pos value with rfl | hp
    · simp
    · rw [ofNat_pos hp, List.length_append, List.length_singleton]
      have hdiv : value / 256 < Nat.pow 256 size := by
        have : Nat.pow 256 (size + 1) = Nat.pow 256 size * 256 := rfl
        omega
      exact Nat.succ_le_succ (ih hdiv)

end Bytes

namespace Rlp

/-! ## Headers -/

theorem longLength?_ofNat {length : Nat} (h : 56 ≤ length) (rest : Bytes) :
    longLength? (Bytes.ofNat length).length (Bytes.ofNat length ++ rest) = some (length, rest) := by
  have hhead := Bytes.head?_ofNat length
  unfold longLength?
  simp only [List.take_left, List.drop_left, Bytes.toNat_ofNat]
  rw [if_neg]
  rintro (hlt | hz | hshort)
  · omega
  · exact hhead hz
  · omega

/-- The first bytes of a byte string announce its length. -/
theorem announced?_header_bytes {length : Nat} (h : length < lengthBound) (rest : Bytes) :
    announced? (header 0x80 length ++ rest) = some (.bytes length, rest) := by
  unfold header
  split
  · next hs =>
    have hk : (UInt8.ofNat (0x80 + length)).toNat = 0x80 + length := by
      rw [UInt8.toNat_ofNat']
      omega
    simp only [List.cons_append, List.nil_append, announced?, hk]
    rw [if_neg (by omega), if_pos (by omega)]
    simp
  · next hs =>
    have hsize : (Bytes.ofNat length).length ≤ 8 := Bytes.length_ofNat_le h
    have hpos := List.length_pos_iff.2 (Bytes.ofNat_ne_nil (show 0 < length by omega))
    have hk : (UInt8.ofNat (0x80 + 55 + (Bytes.ofNat length).length)).toNat =
        0xb7 + (Bytes.ofNat length).length := by
      rw [UInt8.toNat_ofNat']
      omega
    have hlong := longLength?_ofNat (Nat.le_of_not_lt hs) rest
    simp only [List.cons_append, announced?, hk]
    rw [if_neg (by omega), if_neg (by omega), if_pos (by omega), Nat.add_sub_cancel_left, hlong]
    rfl

/-- The first bytes of a list announce the length of its payload. -/
theorem announced?_header_list {length : Nat} (h : length < lengthBound) (rest : Bytes) :
    announced? (header 0xc0 length ++ rest) = some (.list length, rest) := by
  unfold header
  split
  · next hs =>
    have hk : (UInt8.ofNat (0xc0 + length)).toNat = 0xc0 + length := by
      rw [UInt8.toNat_ofNat']
      omega
    simp only [List.cons_append, List.nil_append, announced?, hk]
    rw [if_neg (by omega), if_neg (by omega), if_neg (by omega), if_pos (by omega)]
    simp
  · next hs =>
    have hsize : (Bytes.ofNat length).length ≤ 8 := Bytes.length_ofNat_le h
    have hpos := List.length_pos_iff.2 (Bytes.ofNat_ne_nil (show 0 < length by omega))
    have hk : (UInt8.ofNat (0xc0 + 55 + (Bytes.ofNat length).length)).toNat =
        0xf7 + (Bytes.ofNat length).length := by
      rw [UInt8.toNat_ofNat']
      omega
    have hlong := longLength?_ofNat (Nat.le_of_not_lt hs) rest
    simp only [List.cons_append, announced?, hk]
    rw [if_neg (by omega), if_neg (by omega), if_neg (by omega), if_neg (by omega),
      Nat.add_sub_cancel_left, hlong]
    rfl

/-! ## Items -/

/-- A byte string is read back. -/
theorem item?_encodeBytes {payload : Bytes} (h : payload.length < lengthBound) (fuel : Nat)
    (rest : Bytes) :
    item? (fuel + 1) (encodeBytes payload ++ rest) = some (.bytes payload, rest) := by
  unfold encodeBytes
  split
  · next byte =>
    split
    · next hsmall =>
      have hk : byte.toNat < 0x80 := UInt8.lt_iff_toNat_lt.1 hsmall
      simp [item?, announced?, hk]
    · next hlarge =>
      have hk : ¬ byte.toNat < 0x80 := fun hlt => hlarge (UInt8.lt_iff_toNat_lt.2 hlt)
      simp [item?, announced?, isWasteful, hlarge]
  · next hother =>
    have hwaste : isWasteful payload = false := by
      unfold isWasteful
      split
      · next byte => exact absurd rfl (hother byte)
      · rfl
    rw [List.append_assoc]
    simp [item?, announced?_header_bytes h, hwaste]

theorem length_header_pos (base length : Nat) : 0 < (header base length).length := by
  unfold header
  split <;> simp

theorem length_encode_pos (item : Item) : 0 < item.encode.length := by
  cases item with
  | bytes payload =>
    unfold Item.encode encodeBytes
    split
    · split <;> simp
    · rw [List.length_append]
      exact Nat.add_pos_left (length_header_pos _ _) _
  | list items =>
    unfold Item.encode encodeList
    rw [List.length_append]
    exact Nat.add_pos_left (length_header_pos _ _) _

mutual

/-- An item that fits is read back, whatever follows it. Fuel of twice the written length, less
one, is enough: a list takes one for itself and one for each of its items. -/
theorem item?_encode : (item : Item) → item.fits = true → (fuel : Nat) → (rest : Bytes) →
    2 * item.encode.length ≤ fuel + 1 → item? fuel (item.encode ++ rest) = some (item, rest)
  | .bytes payload, h, fuel, rest, hf => by
    have hpos := length_encode_pos (.bytes payload)
    obtain ⟨fuel, rfl⟩ : ∃ less, fuel = less + 1 := ⟨fuel - 1, by omega⟩
    exact item?_encodeBytes (by simpa [Item.fits] using h) fuel rest
  | .list items, h, fuel, rest, hf => by
    simp only [Item.fits, Bool.and_eq_true, decide_eq_true_eq] at h
    have hheader := length_header_pos 0xc0 (encodeItems items).length
    simp only [Item.encode, encodeList, List.length_append] at hf
    obtain ⟨fuel, rfl⟩ : ∃ less, fuel = less + 1 := ⟨fuel - 1, by omega⟩
    have hitems := items?_encodeItems items h.2 fuel (by omega)
    simp [item?, Item.encode, encodeList, announced?_header_list h.1, hitems]

theorem items?_encodeItems : (items : List Item) → allFit items = true → (fuel : Nat) →
    2 * (encodeItems items).length ≤ fuel → items? fuel (encodeItems items) = some items
  | [], _, fuel, _ => by
    cases fuel <;> simp [items?, encodeItems]
  | item :: others, h, fuel, hf => by
    simp only [allFit, Bool.and_eq_true] at h
    have hpos := length_encode_pos item
    simp only [encodeItems, List.length_append] at hf
    obtain ⟨fuel, rfl⟩ : ∃ less, fuel = less + 1 := ⟨fuel - 1, by omega⟩
    have hfirst := item?_encode item h.1 fuel (encodeItems others) (by omega)
    have hothers := items?_encodeItems others h.2 fuel (by omega)
    have hne : (item.encode ++ encodeItems others).isEmpty = false := by
      cases hc : item.encode with
      | nil => simp [hc] at hpos
      | cons byte tail => rfl
    simp [items?, encodeItems, hne, hfirst, hothers]

end

/-- An item that fits is what its written form is read as. -/
theorem decode?_encode {item : Item} (h : item.fits = true) : decode? item.encode = some item := by
  have hread := item?_encode item h (2 * item.encode.length + 2) [] (by omega)
  rw [List.append_nil] at hread
  simp [decode?, hread]

theorem decode?_of_encode? {item : Item} {bytes : Bytes} (h : item.encode? = some bytes) :
    decode? bytes = some item := by
  unfold Item.encode? at h
  split at h
  · next hfits =>
    cases h
    exact decode?_encode hfits
  · cases h

end Rlp

end DepositGateway
