import DepositGateway.Proofs.Rlp.RoundTrip

/-!
# How long written forms are

A length takes up at most nine bytes in front of a payload, so a short list of short items fits.

* `Bytes.Short`: a number of fewer than 2^56 bytes, a 256th of what a payload may have.
* `Rlp.length_encodeItems_le`: a bound for the written forms of items from one for each.
* `Rlp.encode?_list`: a list of at most sixteen short byte strings and empty lists has a written
  form. `Rlp.encode?_strings`: so has a list of byte strings that are not too long together.
-/

namespace DepositGateway

namespace Bytes

theorem lt_pow_length (value : Nat) : value < Nat.pow 256 (ofNat value).length := by
  induction value using Nat.strongRecOn with
  | ind value ih =>
    rcases Nat.eq_zero_or_pos value with rfl | h
    · simp
    · have hdiv := ih (value / 256) (by omega)
      rw [ofNat_pos h, List.length_append, List.length_singleton]
      have hpow (size : Nat) : Nat.pow 256 (size + 1) = Nat.pow 256 size * 256 := rfl
      rw [hpow]
      omega

theorem length_ofNat_mono {value other : Nat} (h : value ≤ other) :
    (ofNat value).length ≤ (ofNat other).length :=
  length_ofNat_le (Nat.lt_of_le_of_lt h (lt_pow_length other))

/-- Whether a number has fewer than 2^56 bytes. -/
def Short (value : Nat) : Prop := 256 * (ofNat value).length < Rlp.lengthBound

theorem Short.mono {value other : Nat} (h : Short other) (hle : value ≤ other) : Short value :=
  Nat.lt_of_le_of_lt (Nat.mul_le_mul_left 256 (length_ofNat_mono hle)) h

end Bytes

namespace Rlp

theorem length_header_le {base length : Nat} (h : length < lengthBound) :
    (header base length).length ≤ 9 := by
  unfold header
  split
  · simp
  · have hsize : (Bytes.ofNat length).length ≤ 8 := Bytes.length_ofNat_le h
    rw [List.length_cons]
    omega

theorem length_encodeBytes_le {payload : Bytes} (h : payload.length < lengthBound) :
    (encodeBytes payload).length ≤ payload.length + 9 := by
  unfold encodeBytes
  split
  · split <;> simp
  · have hheader : (header 0x80 payload.length).length ≤ 9 := length_header_le h
    rw [List.length_append]
    omega

theorem length_encodeItems_le {items : List Item} {size : Nat}
    (h : ∀ item ∈ items, item.encode.length ≤ size) :
    (encodeItems items).length ≤ items.length * size := by
  induction items with
  | nil => simp [encodeItems]
  | cons item rest ih =>
    have hitem := h item List.mem_cons_self
    have hrest := ih fun other ho => h other (List.mem_cons_of_mem _ ho)
    rw [encodeItems, List.length_append, List.length_cons, Nat.succ_mul]
    omega

theorem allFit_of_forall {items : List Item} (h : ∀ item ∈ items, item.fits = true) :
    allFit items = true := by
  induction items with
  | nil => rfl
  | cons item rest ih =>
    have hitem := h item List.mem_cons_self
    have hrest := ih fun other ho => h other (List.mem_cons_of_mem _ ho)
    rw [allFit, hitem, hrest]
    rfl

theorem lengthBound_eq : lengthBound = 18446744073709551616 := rfl

/-- A byte string of at most 2^57 bytes or an empty list. -/
def Item.Slight : Item → Prop
  | .bytes payload => 128 * payload.length ≤ lengthBound
  | .list items => items = []

theorem Item.Slight.fits {item : Item} (h : item.Slight) :
    item.fits = true ∧ item.encode.length ≤ lengthBound / 128 + 9 := by
  have hbound := lengthBound_eq
  cases item with
  | bytes payload =>
    have hpayload : 128 * payload.length ≤ lengthBound := h
    have hlt : payload.length < lengthBound := by omega
    have hlength := length_encodeBytes_le hlt
    refine ⟨by simpa [Item.fits] using hlt, ?_⟩
    rw [Item.encode]
    omega
  | list items =>
    cases h
    exact ⟨by decide, by decide⟩

/-- A list of few slight items has a written form. -/
theorem encode?_list {items : List Item} (h : ∀ item ∈ items, item.Slight)
    (hl : items.length ≤ 16) : ∃ bytes, (Item.list items).encode? = some bytes := by
  have hbound := lengthBound_eq
  have hlength := length_encodeItems_le fun item hi => (h item hi).fits.2
  have hmul := Nat.mul_le_mul_right (lengthBound / 128 + 9) hl
  have hlt : (encodeItems items).length < lengthBound := by omega
  have hall := allFit_of_forall fun item hi => (h item hi).fits.1
  have hfits : (Item.list items).fits = true := by simp [Item.fits, hlt, hall]
  exact ⟨_, by rw [Item.encode?, if_pos hfits]⟩

theorem length_le_encodeBytes (payload : Bytes) :
    payload.length ≤ (encodeBytes payload).length := by
  unfold encodeBytes
  split
  · split <;> simp
  · rw [List.length_append]
    omega

theorem fits_strings {payloads : List Bytes}
    (h : (encodeItems (payloads.map .bytes)).length < lengthBound) :
    allFit (payloads.map .bytes) = true := by
  induction payloads with
  | nil => rfl
  | cons payload rest ih =>
    have hpayload := length_le_encodeBytes payload
    rw [List.map_cons, encodeItems, List.length_append, Item.encode] at h
    rw [List.map_cons, allFit, ih (by omega), Item.fits, Bool.and_true]
    exact decide_eq_true (by omega)

/-- A list of byte strings has a written form if these are not too long together. -/
theorem encode?_strings {payloads : List Bytes}
    (h : (encodeItems (payloads.map .bytes)).length < lengthBound) :
    ∃ bytes, (Item.list (payloads.map .bytes)).encode? = some bytes := by
  have hfits : (Item.list (payloads.map .bytes)).fits = true := by
    rw [Item.fits, fits_strings h, Bool.and_true]
    exact decide_eq_true h
  exact ⟨_, by rw [Item.encode?, if_pos hfits]⟩

end Rlp

end DepositGateway
