import DepositGateway.Invoice.View
import DepositGateway.Proofs.Address.Checksum
import DepositGateway.Proofs.Http.Order
import Mathlib.Data.List.Induction

/-!
# Ways to write what is asked for

An amount, a token and a message may each be written in several ways. Which ones are accepted is
said here by what is written of a value, and not by how it is read: digits after any zeros, and
hexadecimal digits that are the written ones in lower case. How the letters of an address may stand
depends on the rule for them. The ways to write a message are `Json.Spells`.

* `Json.Counts`, `Address.Spelling`, `Address.Cased`, `Json.Designates`: the ways to write a number,
  an address and a payment method.
* `Order.Written`: what a body asks for, however it writes it. `Order.ofBody_eq_ok_iff`: an order is
  read exactly of such a body.
-/

namespace DepositGateway

/-! ## Numbers -/

namespace Decimal

theorem value_zeros_digits (zeros number : Nat) :
    value (List.replicate zeros '0' ++ digits number) = number := by
  have hfold : (List.replicate zeros '0').foldl (fun sum c => sum * 10 + (c.toNat - 48)) 0 = 0 := by
    induction zeros with
    | zero => rfl
    | succ zeros ih => exact ih
  rw [value, List.foldl_append, hfold]
  exact value_digits number

/-- A digit of ASCII is that of its value. -/
theorem eq_digit_of_isDigit {c : Char} (h : isDigit c = true) :
    c.toNat - 48 < 10 ∧ c = digit (c.toNat - 48) := by
  simp only [isDigit, Bool.and_eq_true, decide_eq_true_eq, Char.le_def, UInt32.le_iff_toNat_le] at h
  have hlow : 48 ≤ c.toNat := h.1
  have hhigh : c.toNat ≤ 57 := h.2
  refine ⟨by omega, ?_⟩
  rw [digit, show 48 + (c.toNat - 48) = c.toNat by omega, Char.ofNat_toNat]

/-- Digits are those of the number that they stand for, after zeros. -/
theorem Run.eq_zeros_digits {run : List Char} (h : Run run) :
    ∃ zeros, run = List.replicate zeros '0' ++ Decimal.digits (value run) := by
  induction run using List.reverseRecOn with
  | nil => exact absurd rfl h.nonempty
  | append_singleton front last ih =>
    have hlast := eq_digit_of_isDigit (h.digits last (by simp))
    have hvalue := value_append_singleton front last
    generalize last.toNat - 48 = unit at hlast hvalue
    obtain ⟨hlt, rfl⟩ := hlast
    rw [hvalue]
    by_cases hfront : front = []
    · subst hfront
      exact ⟨0, by simp [value, digits_of_lt hlt]⟩
    · have hrun : Run front := ⟨hfront, fun c hc => h.digits c (by simp [hc])⟩
      obtain ⟨zeros, heq⟩ := ih hrun
      rcases Nat.eq_zero_or_pos (value front) with hzero | hpos
      · -- All digits before the last are zeros, and none of them counts.
        rw [hzero, digits_of_lt (by decide)] at heq
        refine ⟨zeros + 1, ?_⟩
        rw [hzero, Nat.zero_mul, Nat.zero_add, digits_of_lt hlt, heq, List.replicate_succ']
        rfl
      · refine ⟨zeros, ?_⟩
        have hten : 10 ≤ value front * 10 + unit := by omega
        have hdiv : (value front * 10 + unit) / 10 = value front := by omega
        have hmod : (value front * 10 + unit) % 10 = unit := by omega
        rw [digits_of_le hten, hdiv, hmod, ← List.append_assoc, ← heq]

end Decimal

namespace Json

/-- The ways to write a natural: as a number, or as its digits after any number of zeros, up to the
limit of digits. -/
inductive Counts (count : Nat) : Json → Prop
  | number : Counts count (.int count)
  | digits {zeros : Nat} (short : zeros + (Decimal.digits count).length ≤ Decimal.limit) :
      Counts count (.text (String.ofList (List.replicate zeros '0' ++ Decimal.digits count)))

/-- A natural is counted exactly where it can be read. -/
theorem whole_and_not_long_iff {value : Json} {number : Int} :
    value.Whole number ∧ ¬ value.Long ↔ ∃ count : Nat, number = count ∧ value.Counts count := by
  constructor
  · rintro ⟨hwhole, hshort⟩
    cases hwhole with
    | int hnonneg =>
      obtain ⟨count, rfl⟩ := Int.eq_ofNat_of_zero_le hnonneg
      exact ⟨count, rfl, .number⟩
    | @digits run hrun =>
      refine ⟨Decimal.value run, rfl, ?_⟩
      have hlength : run.length ≤ Decimal.limit := Nat.not_lt.1 fun hlong =>
        hshort (.digits hrun hlong)
      obtain ⟨zeros, hzeros⟩ := hrun.eq_zeros_digits
      rw [hzeros, List.length_append, List.length_replicate] at hlength
      rw [hzeros, Decimal.value_zeros_digits]
      exact .digits hlength
  · rintro ⟨count, rfl, hcounts⟩
    cases hcounts with
    | number => exact ⟨.int (Int.natCast_nonneg count), nofun⟩
    | @digits zeros hshort =>
      have hrun := (Decimal.run_digits count).zeros zeros
      have hwhole := Json.Whole.digits hrun
      rw [Decimal.value_zeros_digits] at hwhole
      refine ⟨hwhole, fun hlong => ?_⟩
      have hlength := (long_str_iff.1 hlong).2
      rw [Utf16.toText_ofString, String.toList_ofList, List.length_append,
        List.length_replicate] at hlength
      omega

end Json

/-! ## Hexadecimal digits -/

theorem toNat_lt_of_hexValue? {c : Char} {value : Nat} (h : hexValue? c = some value) :
    c.toNat < 128 := by
  have hcode : c.toNat = c.val.toNat := rfl
  have hnine : '9'.val.toNat = 57 := rfl
  have hlower : 'f'.val.toNat = 102 := rfl
  have hupper : 'F'.val.toNat = 70 := rfl
  simp only [hexValue?, Char.le_def, UInt32.le_iff_toNat_le] at h
  split at h
  · omega
  split at h
  · omega
  split at h
  · omega
  · cases h

/-- The digits of a value are those that its written digit is the lower case of. -/
theorem hexValue?_eq_some_iff {c : Char} {value : Nat} :
    hexValue? c = some value ↔ value < 16 ∧ c.toLower = hexDigit value := by
  have reads : ∀ code : Fin 128, ∀ value ∈ hexValue? (Char.ofNat code),
      value < 16 ∧ (Char.ofNat code).toLower = hexDigit value := by decide +kernel
  have writes : ∀ code : Fin 128, ∀ value : Fin 16, (Char.ofNat code).toLower = hexDigit value →
      hexValue? (Char.ofNat code) = some value.val := by decide +kernel
  constructor
  · intro h
    have hread := reads ⟨c.toNat, toNat_lt_of_hexValue? h⟩ value
    rw [Char.ofNat_toNat] at hread
    exact hread h
  · rintro ⟨hvalue, h⟩
    have hcode : c.toNat < 128 := by
      -- Beyond ASCII a character is its own lower case, and no digit.
      by_contra hlarge
      have hsame : c.toLower = c := dif_neg fun hcapital =>
        hlarge (Nat.lt_of_le_of_lt (UInt32.le_iff_toNat_le.1 hcapital.2) (by decide))
      have hsmall : ∀ value : Fin 16, (hexDigit value).toNat < 128 := by decide
      rw [← hsame, h] at hlarge
      exact hlarge (hsmall ⟨value, hvalue⟩)
    have hwritten := writes ⟨c.toNat, hcode⟩ ⟨value, hvalue⟩
    rw [Char.ofNat_toNat] at hwritten
    exact hwritten h

namespace Bytes

theorem hexDigits_cons (byte : UInt8) (rest : Bytes) : hexDigits (byte :: rest) =
    hexDigit (byte.toNat / 16) :: hexDigit (byte.toNat % 16) :: hexDigits rest := rfl

/-- Bytes are read exactly of the digits that are theirs in lower case. -/
theorem ofHex?_eq_some_iff {text : List Char} {bytes : Bytes} :
    ofHex? text = some bytes ↔ text.map Char.toLower = hexDigits bytes := by
  induction text using ofHex?.induct generalizing bytes with
  | case1 => cases bytes <;> simp [ofHex?, hexDigits]
  | case2 digit => cases bytes <;> simp [ofHex?, hexDigits]
  | case3 high low rest ih =>
    simp only [ofHex?, Option.bind_eq_bind, Option.bind_eq_some_iff, Option.some.injEq,
      List.map_cons, hexValue?_eq_some_iff]
    constructor
    · rintro ⟨upper, ⟨hupper, hhigh⟩, lower, ⟨hlower, hlow⟩, others, hothers, rfl⟩
      have hbyte : (UInt8.ofNat (upper * 16 + lower)).toNat = upper * 16 + lower := by
        rw [UInt8.toNat_ofNat']
        omega
      rw [hexDigits_cons, hbyte, hhigh, hlow, ih.1 hothers,
        show (upper * 16 + lower) / 16 = upper by omega,
        show (upper * 16 + lower) % 16 = lower by omega]
    · intro h
      cases bytes with
      | nil => cases h
      | cons byte others =>
        rw [hexDigits_cons, List.cons.injEq, List.cons.injEq] at h
        obtain ⟨hhigh, hlow, hothers⟩ := h
        have hlt : byte.toNat < 256 := byte.toNat_lt
        refine ⟨_, ⟨by omega, hhigh⟩, _, ⟨by omega, hlow⟩, others, ih.2 hothers, ?_⟩
        rw [show byte.toNat / 16 * 16 + byte.toNat % 16 = byte.toNat by omega, UInt8.ofNat_toNat]

theorem hexPairs_hexDigits (bytes : Bytes) : HexPairs (hexDigits bytes) bytes := by
  induction bytes with
  | nil => exact .nil
  | cons byte rest ih =>
    have hlt : byte.toNat < 256 := byte.toNat_lt
    have hpair := HexPairs.pair (hexValue?_hexDigit (byte.toNat / 16) (by omega))
      (hexValue?_hexDigit (byte.toNat % 16) (by omega)) ih
    rwa [show byte.toNat / 16 * 16 + byte.toNat % 16 = byte.toNat by omega,
      UInt8.ofNat_toNat] at hpair

end Bytes

/-! ## Tokens -/

namespace Address

/-- The ways to write an address: its digits in either case, with or without a mark. -/
inductive Spelling (address : Bytes) : List Char → Prop
  | plain {digits : List Char} (h : digits.map Char.toLower = Bytes.hexDigits address) :
      Spelling address digits
  | marked {mark : Char} {digits : List Char} (hmark : mark = 'x' ∨ mark = 'X')
      (h : digits.map Char.toLower = Bytes.hexDigits address) :
      Spelling address ('0' :: mark :: digits)

/-- How the letters of an address may stand under a rule: in either case where it is lenient,
otherwise all small, all capitals, or as in the checksum form, which has the mark `0x`. -/
inductive Cased (address : Bytes) : CaseRule → List Char → Prop
  | either {text : List Char} : Cased address .lenient text
  | small {rule : CaseRule} {text : List Char} (h : ∀ c ∈ digits text, c.isUpper = false) :
      Cased address rule text
  | capitals {rule : CaseRule} {text : List Char} (h : ∀ c ∈ digits text, c.isLower = false) :
      Cased address rule text
  | checksum {rule : CaseRule} : Cased address rule (checksum address).toList

/-- A mark is no digit. -/
theorem not_mark_of_map_toLower {mark : Char} {rest : List Char} {address : Bytes}
    (hmark : mark = 'x' ∨ mark = 'X') :
    ('0' :: mark :: rest).map Char.toLower ≠ Bytes.hexDigits address := by
  intro h
  have hbytes := Bytes.ofHex?_eq_some_iff.2 h
  simp only [Bytes.ofHex?, Option.bind_eq_bind, Option.bind_eq_some_iff] at hbytes
  obtain ⟨-, -, lower, hlower, -⟩ := hbytes
  rcases hmark with rfl | rfl
  · exact absurd hlower (by simp [show hexValue? 'x' = none by decide])
  · exact absurd hlower (by simp [show hexValue? 'X' = none by decide])

/-- The digits of an address stand after the mark, if there is one. -/
theorem spelling_iff {address : Bytes} {text : List Char} :
    Spelling address text ↔ (digits text).map Char.toLower = Bytes.hexDigits address := by
  constructor
  · rintro (hplain | ⟨rfl | rfl, h⟩)
    · unfold digits
      split
      · exact absurd hplain (not_mark_of_map_toLower (.inl rfl))
      · exact absurd hplain (not_mark_of_map_toLower (.inr rfl))
      · exact hplain
    · exact h
    · exact h
  · unfold digits
    split
    · exact .marked (.inl rfl)
    · exact .marked (.inr rfl)
    · exact .plain

/-- An address is read exactly of a text that writes its twenty bytes. -/
theorem ofText?_eq_some_iff {text : String} {address : Bytes} :
    ofText? text = some address ↔ address.length = 20 ∧ Spelling address text.toList := by
  have hlength (h : (digits text.toList).map Char.toLower = Bytes.hexDigits address) :
      (digits text.toList).length = 2 * address.length := by
    rw [← Bytes.length_hexDigits, ← h, List.length_map]
  rw [spelling_iff, ofText?]
  split
  · next hforty =>
    rw [Bytes.ofHex?_eq_some_iff]
    exact ⟨fun h => ⟨by have := hlength h; omega, h⟩, And.right⟩
  · next hother =>
    refine iff_of_false nofun ?_
    rintro ⟨htwenty, h⟩
    have := hlength h
    omega

/-- A text keeps to a rule exactly where its letters stand as the rule says. -/
theorem admits_iff {rule : CaseRule} {text : String} {address : Bytes} :
    rule.admits text (checksum address) = true ↔ Cased address rule text.toList := by
  cases rule with
  | lenient => exact iff_of_true rfl .either
  | strict =>
    rw [CaseRule.admits, Bool.or_eq_true, beq_iff_eq, Bool.not_eq_true', isMixed,
      Bool.and_eq_false_iff, List.any_eq_false, List.any_eq_false]
    constructor
    · rintro ((hcapitals | hsmall) | rfl)
      · exact .capitals fun c hc => Bool.eq_false_iff.2 (hcapitals c hc)
      · exact .small fun c hc => Bool.eq_false_iff.2 (hsmall c hc)
      · exact .checksum
    · generalize htext : text.toList = written
      rintro (_ | hsmall | hcapitals | _)
      · exact .inl (.inr fun c hc => Bool.eq_false_iff.1 (hsmall c hc))
      · exact .inl (.inl fun c hc => Bool.eq_false_iff.1 (hcapitals c hc))
      · exact .inr (String.toList_inj.1 htext)

/-- An address is accepted exactly of a text that writes its twenty bytes in letters that keep to
the rule. -/
theorem accepted?_iff {rule : CaseRule} {text form : String} : accepted? rule text = some form ↔
    ∃ address : Bytes, form = checksum address ∧ address.length = 20 ∧
      Spelling address text.toList ∧ Cased address rule text.toList := by
  rw [accepted?_eq_some_iff, checksum?, Option.map_eq_some_iff]
  constructor
  · rintro ⟨⟨address, hread, rfl⟩, hrule⟩
    obtain ⟨htwenty, hspelling⟩ := ofText?_eq_some_iff.1 hread
    exact ⟨address, rfl, htwenty, hspelling, admits_iff.1 hrule⟩
  · rintro ⟨address, rfl, htwenty, hspelling, hcased⟩
    exact ⟨⟨address, ofText?_eq_some_iff.2 ⟨htwenty, hspelling⟩, rfl⟩, admits_iff.2 hcased⟩

end Address

namespace Json

/-- The ways to write a payment method: nothing for the coin of the chain, and for a token its
address in letters that keep to a rule. -/
inductive Designates (rule : Address.CaseRule) : Json → PaymentMethod → Prop
  | coin {token : Json} (nothing : token.truthy = false) : Designates rule token .native
  | token {address : Bytes} {text : List Char} (twenty : address.length = 20)
      (h : Address.Spelling address text) (cased : Address.Cased address rule text) :
      Designates rule (.text (String.ofList text)) (.token (Address.checksum address))

/-- The characters of an address are those of ASCII digits and letters. -/
theorem not_mem_of_spelling {address : Bytes} {text : List Char}
    (h : Address.Spelling address text) : '?' ∉ text := by
  have hdigits {digits : List Char} (h : digits.map Char.toLower = Bytes.hexDigits address) :
      '?' ∉ digits := by
    intro hmem
    have hlower : '?' ∈ Bytes.hexDigits address := h ▸ List.mem_map.2 ⟨'?', hmem, by decide⟩
    obtain ⟨value, hvalue, heq⟩ := Bytes.mem_hexDigits hlower
    have hother : ∀ value : Fin 16, '?' ≠ hexDigit value := by decide
    exact hother ⟨value, hvalue⟩ heq
  rcases h with h | ⟨rfl | rfl, h⟩
  · exact hdigits h
  · simpa using hdigits h
  · simpa using hdigits h

theorem names_iff {rule : Address.CaseRule} {token : Json} {method : PaymentMethod} :
    token.Names rule method ↔ token.Designates rule method := by
  constructor
  · rintro (hnothing | @⟨units, form, h⟩)
    · exact .coin hnothing
    · obtain ⟨address, rfl, htwenty, hspelling, hcased⟩ := Address.accepted?_iff.1 h
      have hunits := Utf16.ofString_toText (not_mem_of_spelling hspelling)
      have hdesignates := Designates.token htwenty hspelling hcased
      rwa [String.ofList_toList, Json.text, hunits] at hdesignates
  · rintro (hnothing | @⟨address, text, htwenty, hspelling, hcased⟩)
    · exact .coin hnothing
    · refine .token ?_
      rw [Utf16.toText_ofString, Address.accepted?_iff, String.toList_ofList]
      exact ⟨address, rfl, htwenty, hspelling, hcased⟩

end Json

/-! ## Orders -/

namespace Order

/-- A body asks for the amount, the payment method and the message of an order, however it writes
them. For how long the invoice is watched is not among them. -/
structure Written (rule : Address.CaseRule) (order : Order) (body : Json) : Prop where
  amount : ∃ count : Nat, order.amount = count ∧ (body.memberOrNull "amount").Counts count
  method : (body.memberOrNull "token_address").Designates rule order.method
  message : (body.memberOrNull "message").Spells order.message

variable {rule : Address.CaseRule}

/-- What is written in an accepted way is read as what it stands for. -/
theorem Written.reads {order : Order} {body : Json} (h : order.Written rule body) :
    wholeNumber .invalidAmount (body.memberOrNull "amount") = .ok order.amount ∧
      methodOf rule (body.memberOrNull "token_address") = .ok order.method ∧
      messageOf (body.memberOrNull "message") = .ok order.message :=
  ⟨wholeNumber_eq_ok.2 (Json.whole_and_not_long_iff.2 h.amount),
    methodOf_eq_ok.2 (Json.names_iff.2 h.method), messageOf_eq_ok.2 h.message⟩

/-- A body asks for the values of one order at most. -/
theorem Written.unique {order other : Order} {body : Json} (h : order.Written rule body)
    (hother : other.Written rule body) :
    order.amount = other.amount ∧ order.method = other.method ∧ order.message = other.message := by
  obtain ⟨hamount, hmethod, hmessage⟩ := h.reads
  obtain ⟨hamount', hmethod', hmessage'⟩ := hother.reads
  exact ⟨Except.ok.inj (hamount.symm.trans hamount'), Except.ok.inj (hmethod.symm.trans hmethod'),
    Except.ok.inj (hmessage.symm.trans hmessage')⟩

/-- An order is read exactly of an object that asks for it in an accepted way. -/
theorem ofBody_eq_ok_iff {given : Option Json} {order : Order} :
    ofBody rule given = .ok order ↔ ∃ members, given = some (.obj members) ∧
      order.Written rule (.obj members) ∧ (lifetime (.obj members)).Whole order.expiresIn ∧
      ¬ (lifetime (.obj members)).Long := by
  rw [ofBody_eq_ok]
  constructor
  · rintro ⟨body, rfl, ⟨⟨members, rfl⟩, hamount, hexpires, hmethod, hmessage⟩, hreadable⟩
    have hcounts := Json.whole_and_not_long_iff.1
      ⟨hamount, fun hlong => hreadable (.amount hlong)⟩
    exact ⟨members, rfl, ⟨hcounts, Json.names_iff.1 hmethod, hmessage⟩, hexpires,
      fun hlong => hreadable (.lifetime hamount hlong)⟩
  · rintro ⟨members, rfl, ⟨hcounts, hmethod, hmessage⟩, hexpires, hshort⟩
    obtain ⟨hamount, hreadable⟩ := Json.whole_and_not_long_iff.2 hcounts
    refine ⟨_, rfl, ⟨⟨members, rfl⟩, hamount, hexpires, Json.names_iff.2 hmethod, hmessage⟩, ?_⟩
    rintro (hlong | ⟨-, hlong⟩)
    · exact hreadable hlong
    · exact hshort hlong

end Order

end DepositGateway
