import DepositGateway.Address

/-!
# The checksum form of an address

The checksum form stands for the address it was made from: which letters are capitals does not
count when it is read.

* `Address.ofText?_checksum`: the checksum form of twenty bytes is read as these bytes.
* `Address.length_of_ofText?`: what is read as an address has twenty bytes.
* `Address.accepted?_eq_some_iff`: which texts keep to a rule. `Address.accepted?_self`: the
  checksum form keeps to every rule.
-/

namespace DepositGateway

theorem length_keccak256 (message : Bytes) : (keccak256 message).length = 32 := by
  simp only [keccak256, Keccak.bytesOfLane, List.length_flatMap, List.length_map, List.length_range]
  rfl

namespace Bytes

theorem length_hexDigits (bytes : Bytes) : (hexDigits bytes).length = 2 * bytes.length := by
  induction bytes with
  | nil => rfl
  | cons byte rest ih =>
    have h : hexDigits (byte :: rest) =
        hexDigit (byte.toNat / 16) :: hexDigit (byte.toNat % 16) :: hexDigits rest := rfl
    rw [h, List.length_cons, List.length_cons, ih, List.length_cons]
    omega

theorem mem_hexDigits {bytes : Bytes} {digit : Char} (h : digit ∈ hexDigits bytes) :
    ∃ value < 16, digit = hexDigit value := by
  obtain ⟨byte, -, hd⟩ := List.mem_flatMap.mp h
  have hb : byte.toNat < 256 := byte.toNat_lt
  rcases List.mem_cons.mp hd with rfl | hd
  · exact ⟨byte.toNat / 16, by omega, rfl⟩
  · exact ⟨byte.toNat % 16, by omega, List.mem_singleton.mp hd⟩

theorem length_of_ofHex? {text : List Char} {bytes : Bytes} (h : ofHex? text = some bytes) :
    text.length = 2 * bytes.length := by
  induction text using ofHex?.induct generalizing bytes with
  | case1 =>
    cases h
    rfl
  | case2 => cases h
  | case3 high low rest ih =>
    simp only [ofHex?, Option.bind_eq_bind, Option.bind_eq_some_iff, Option.some.injEq] at h
    obtain ⟨upper, -, lower, -, tail, ht, rfl⟩ := h
    rw [List.length_cons, List.length_cons, ih ht, List.length_cons]
    omega

/-- Only the values of the digits count. -/
theorem ofHex?_congr {text other : List Char} (h : text.map hexValue? = other.map hexValue?) :
    ofHex? text = ofHex? other := by
  induction text using ofHex?.induct generalizing other with
  | case1 =>
    rw [List.map_nil, eq_comm, List.map_eq_nil_iff] at h
    rw [h]
  | case2 digit =>
    obtain ⟨digit', rfl⟩ : ∃ digit', other = [digit'] := by
      refine List.length_eq_one_iff.mp ?_
      simpa using (congrArg List.length h).symm
    rfl
  | case3 high low rest ih =>
    match other, h with
    | [], h | [_], h => simp at h
    | high' :: low' :: rest', h =>
      simp only [List.map_cons, List.cons.injEq] at h
      obtain ⟨hhigh, hlow, hrest⟩ := h
      simp only [ofHex?, hhigh, hlow, ih hrest]

end Bytes

namespace Address

theorem hexValue?_capital {value : Nat} (h : value < 16) :
    hexValue? (capital (hexDigit value)) = hexValue? (hexDigit value) := by
  have all : ∀ v : Fin 16, hexValue? (capital (hexDigit v.val)) = hexValue? (hexDigit v.val) := by
    decide
  exact all ⟨value, h⟩

/-- Capitals change no value. -/
theorem map_hexValue?_capitals {digits : List Char} {halves : List Nat}
    (hd : ∀ digit ∈ digits, ∃ value < 16, digit = hexDigit value)
    (hl : digits.length ≤ halves.length) :
    (digits.zipWith (fun digit half => if 8 ≤ half then capital digit else digit) halves).map
      hexValue? = digits.map hexValue? := by
  induction digits generalizing halves with
  | nil => rfl
  | cons digit rest ih =>
    cases halves with
    | nil => exact absurd hl (by simp)
    | cons half halves =>
      obtain ⟨value, hv, rfl⟩ := hd _ List.mem_cons_self
      have hrest := ih (fun digit h => hd digit (List.mem_cons_of_mem _ h))
        (Nat.le_of_succ_le_succ hl)
      rw [List.zipWith_cons_cons, List.map_cons, List.map_cons, hrest]
      by_cases hh : 8 ≤ half
      · rw [if_pos hh, hexValue?_capital hv]
      · rw [if_neg hh]

theorem map_hexValue?_checksumDigits {address : Bytes} (h : address.length ≤ 32) :
    (checksumDigits address).map hexValue? = (Bytes.hexDigits address).map hexValue? := by
  unfold checksumDigits
  refine map_hexValue?_capitals (fun digit hd => Bytes.mem_hexDigits hd) ?_
  simp only [Bytes.length_hexDigits, List.length_flatMap, List.length_cons, List.length_nil,
    List.map_const', List.sum_replicate_nat, length_keccak256]
  omega

/-- The checksum form is read as the address it is made from. -/
theorem ofText?_checksum {address : Bytes} (h : address.length = 20) :
    ofText? (checksum address) = some address := by
  have hvalues : (checksumDigits address).map hexValue? =
      (Bytes.hexDigits address).map hexValue? := map_hexValue?_checksumDigits (by omega)
  have hlength : (checksumDigits address).length = 40 := by
    have := congrArg List.length hvalues
    rw [List.length_map, List.length_map, Bytes.length_hexDigits] at this
    omega
  have hdigits : digits (checksum address).toList = checksumDigits address := by
    simp [checksum, digits]
  unfold ofText?
  simp only [hdigits, if_pos hlength]
  rw [Bytes.ofHex?_congr hvalues, Bytes.ofHex?_hexDigits]

theorem length_of_ofText? {text : String} {address : Bytes} (h : ofText? text = some address) :
    address.length = 20 := by
  unfold ofText? at h
  dsimp only at h
  split at h
  · next hl =>
    have := Bytes.length_of_ofHex? h
    omega
  · cases h

/-- The checksum form of twenty bytes is in checksum form. -/
theorem checksum?_checksum {address : Bytes} (h : address.length = 20) :
    checksum? (checksum address) = some (checksum address) := by
  rw [checksum?, ofText?_checksum h]
  rfl

theorem isText_of_checksum? {text address : String} (h : checksum? text = some address) :
    isText text = true := by
  rw [checksum?, Option.map_eq_some_iff] at h
  obtain ⟨bytes, hbytes, -⟩ := h
  rw [isText, hbytes]
  rfl

/-- The checksum form of an address is its own. -/
theorem checksum?_checksum? {text address : String} (h : checksum? text = some address) :
    checksum? address = some address := by
  rw [checksum?, Option.map_eq_some_iff] at h
  obtain ⟨bytes, hbytes, rfl⟩ := h
  exact checksum?_checksum (length_of_ofText? hbytes)

section

variable {rule : CaseRule} {text address : String}

/-- A text is accepted exactly if it is that of an address and keeps to the rule. -/
theorem accepted?_eq_some_iff : accepted? rule text = some address ↔
    checksum? text = some address ∧ rule.admits text address = true := by
  rw [accepted?, Option.filter_eq_some_iff]

/-- The second letter was mistyped: it is a capital in the checksum form. -/
example : accepted? .strict "0x5aaeb6053F3E94C9b9A09f33669435E7Ef1BeAed" = none := by
  decide +kernel

/-- The checksum form of an address keeps to every rule. -/
theorem accepted?_self (rule : CaseRule) (h : checksum? address = some address) :
    accepted? rule address = some address := by
  refine accepted?_eq_some_iff.2 ⟨h, ?_⟩
  cases rule <;> simp [CaseRule.admits]

end

end Address

end DepositGateway
