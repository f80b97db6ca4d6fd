import DepositGateway.Http.Api
import DepositGateway.Proofs.Decimal.Shortest
import DepositGateway.Proofs.Text.RoundTrip

/-!
# Bodies that ask for an invoice

What a request for a new invoice may hold is said here by the form of its members. Digits are the
one form that is also bounded: a run of more than `Decimal.limit` of them is not refused but ends
the request.

* `Order.Asked`: a body asks for an order, under a rule for the letters of a token address.
* `Order.Overlong`: a run of digits is reached in a body that is too long to be read.
* `Order.ofBody_eq_ok`, `Order.ofBody_eq_unreadable`: what is read of a body.
-/

namespace DepositGateway

/-- Pairs of hexadecimal digits with any blanks before, between and after them. -/
inductive Bytes.HexPairs : List Char → Bytes → Prop
  | nil : HexPairs [] []
  | blank {c : Char} {text : List Char} {bytes : Bytes} (h : isAsciiBlank c = true)
      (rest : HexPairs text bytes) : HexPairs (c :: text) bytes
  | pair {high low : Char} {upper lower : Nat} {text : List Char} {bytes : Bytes}
      (first : hexValue? high = some upper) (second : hexValue? low = some lower)
      (rest : HexPairs text bytes) :
      HexPairs (high :: low :: text) (UInt8.ofNat (upper * 16 + lower) :: bytes)

namespace Json

/-- A whole number from zero on, as a number or as digits. -/
inductive Whole : Json → Int → Prop
  | int {value : Int} (nonneg : 0 ≤ value) : Whole (.int value) value
  | digits {run : List Char} (h : Decimal.Run run) :
      Whole (.text (String.ofList run)) (Decimal.value run)

/-- Digits of which there are more than can be read. -/
inductive Long : Json → Prop
  | digits {run : List Char} (h : Decimal.Run run) (long : Decimal.limit < run.length) :
      Long (.text (String.ofList run))

/-- What an invoice is paid in: the coin of the chain where nothing is given, otherwise the token of
an address that keeps to a rule, which is brought into checksum form. -/
inductive Names (rule : Address.CaseRule) : Json → PaymentMethod → Prop
  | coin {token : Json} (nothing : token.truthy = false) : Names rule token .native
  | token {units : Utf16} {address : String}
      (h : Address.accepted? rule (Utf16.toText units) = some address) :
      Names rule (.str units) (.token address)

/-- The bytes of a message: none where nothing is given, otherwise those whose digits are what the
value displays as, with or without a mark. -/
inductive Spells : Json → Bytes → Prop
  | nothing {message : Json} (h : message.truthy = false) : Spells message []
  | plain {message : Json} {bytes : Bytes} (given : message.truthy = true)
      (h : Bytes.HexPairs message.display.toList bytes) : Spells message bytes
  | marked {message : Json} {digits : List Char} {bytes : Bytes} (given : message.truthy = true)
      (mark : message.display.toList = '0' :: 'x' :: digits) (h : Bytes.HexPairs digits bytes) :
      Spells message bytes

end Json

/-! ## Members -/

theorem Decimal.Run.toText {run : List Char} (h : Run run) :
    '?' ∉ run := fun hmark => by simpa [isDigit] using h.digits _ hmark

namespace Json

/-- A text is that of digits exactly if its units are those of the digits. -/
theorem text_eq_iff {units : Utf16} {run : List Char} (h : Decimal.Run run) :
    Json.text (String.ofList run) = .str units ↔ (Utf16.toText units).toList = run := by
  constructor
  · intro heq
    rw [← Json.str.inj heq, Utf16.toText_ofString, String.toList_ofList]
  · rintro rfl
    rw [Json.text, String.ofList_toList, Utf16.ofString_toText h.toText]

theorem whole_str_iff {units : Utf16} {value : Int} : (Json.str units).Whole value ↔
    Decimal.Run (Utf16.toText units).toList ∧
      value = Decimal.value (Utf16.toText units).toList := by
  constructor
  · intro h
    generalize hvalue : Json.str units = found at h
    cases h with
    | int nonneg => cases hvalue
    | digits hrun =>
      rw [(text_eq_iff hrun).1 hvalue.symm]
      exact ⟨hrun, rfl⟩
  · rintro ⟨hrun, rfl⟩
    rw [← (text_eq_iff hrun).2 rfl]
    exact .digits hrun

theorem long_str_iff {units : Utf16} : (Json.str units).Long ↔
    Decimal.Run (Utf16.toText units).toList ∧
      Decimal.limit < (Utf16.toText units).toList.length := by
  constructor
  · intro h
    generalize hvalue : Json.str units = found at h
    cases h with
    | digits hrun long =>
      rw [(text_eq_iff hrun).1 hvalue.symm]
      exact ⟨hrun, long⟩
  · rintro ⟨hrun, long⟩
    rw [← (text_eq_iff hrun).2 rfl]
    exact .digits hrun long

end Json

/-- A blank is no digit. -/
theorem isAsciiBlank_of_hexValue? {c : Char} {value : Nat} (h : hexValue? c = some value) :
    isAsciiBlank c = false := by
  -- All blanks stand before the digits, and the digits before the letters.
  have hlarge : '0' ≤ c := by
    unfold hexValue? at h
    split at h
    · next hdigit => exact hdigit.1
    split at h
    · next hdigit => exact Char.le_trans (by decide) hdigit.1
    split at h
    · next hdigit => exact Char.le_trans (by decide) hdigit.1
    · cases h
  rw [Char.le_def, UInt32.le_iff_toNat_le] at hlarge
  have hcode : 48 ≤ c.toNat := hlarge
  have hspace : c ≠ ' ' := by
    rintro rfl
    exact absurd hcode (by decide)
  simp only [isAsciiBlank, beq_eq_false_iff_ne.2 hspace, Bool.false_or, Bool.and_eq_false_iff,
    decide_eq_false_iff_not]
  omega

/-- Pairs of digits are read as their bytes, and nothing else is read. -/
theorem Bytes.ofSpacedHex?_eq_some {text : List Char} {bytes : Bytes} :
    ofSpacedHex? text = some bytes ↔ HexPairs text bytes := by
  constructor
  · intro h
    induction text using ofSpacedHex?.induct generalizing bytes with
    | case1 =>
      cases h
      exact .nil
    | case2 high rest hblank ih =>
      rw [ofSpacedHex?.eq_def] at h
      simp only [if_pos hblank] at h
      exact .blank hblank (ih h)
    | case3 high hblank =>
      rw [ofSpacedHex?.eq_def] at h
      simp only [if_neg hblank] at h
      cases h
    | case4 high hblank low rest ih =>
      rw [ofSpacedHex?.eq_def] at h
      simp only [if_neg hblank, Option.bind_eq_bind, Option.bind_eq_some_iff,
        Option.some.injEq] at h
      obtain ⟨upper, hupper, lower, hlower, others, hothers, rfl⟩ := h
      exact .pair hupper hlower (ih hothers)
  · intro h
    induction h with
    | nil => rfl
    | blank hblank _ ih =>
      rw [ofSpacedHex?.eq_def]
      simp only [if_pos hblank, ih]
    | pair hupper hlower _ ih =>
      have hblank := isAsciiBlank_of_hexValue? hupper
      rw [ofSpacedHex?.eq_def]
      simp [hblank, hupper, hlower, ih]

namespace Order

theorem run_iff {run : List Char} :
    (run.isEmpty || !run.all Decimal.isDigit) = false ↔ Decimal.Run run := by
  simp only [Bool.or_eq_false_iff, List.isEmpty_eq_false_iff, Bool.not_eq_false',
    List.all_eq_true]
  exact ⟨fun h => ⟨h.1, h.2⟩, fun h => ⟨h.nonempty, h.digits⟩⟩

theorem wholeNumber_str {fault : OrderFault} {units : Utf16} {number : Int} :
    wholeNumber fault (.str units) = .ok number ↔
      Decimal.Run (Utf16.toText units).toList ∧
        ¬ Decimal.limit < (Utf16.toText units).toList.length ∧
        number = Decimal.value (Utf16.toText units).toList := by
  rw [wholeNumber, ← run_iff]
  split
  · next hbad => simp [hbad]
  · next hrun =>
    rw [Bool.not_eq_true] at hrun
    split
    · next hlong => simp [hlong]
    · next hshort => simp [hrun, hshort, eq_comm]

theorem wholeNumber_eq_ok {fault : OrderFault} {value : Json} {number : Int} :
    wholeNumber fault value = .ok number ↔ value.Whole number ∧ ¬ value.Long := by
  cases value with
  | num found =>
    cases found with
    | int found =>
      rw [wholeNumber, and_iff_left fun h => nomatch h]
      split
      · next hnonneg =>
        constructor
        · intro h
          cases h
          exact .int hnonneg
        · intro h
          cases h
          rfl
      · next hneg =>
        refine iff_of_false (fun h => nomatch h) fun h => ?_
        cases h with
        | int hnonneg => exact hneg hnonneg
    | double found => exact iff_of_false (fun h => nomatch h) fun h => nomatch h.1
  | str units =>
    rw [Json.whole_str_iff, Json.long_str_iff, wholeNumber_str]
    constructor
    · rintro (⟨hrun, hshort, rfl⟩)
      exact ⟨⟨hrun, rfl⟩, fun hlong => hshort hlong.2⟩
    · rintro ⟨⟨hrun, rfl⟩, hshort⟩
      exact ⟨hrun, fun hlong => hshort ⟨hrun, hlong⟩, rfl⟩
  | _ => exact iff_of_false (fun h => nomatch h) fun h => nomatch h.1

theorem ofJson_eq_ok {rule : Address.CaseRule} {token : Json} {method : PaymentMethod}
    (h : PaymentMethod.ofJson token rule = .ok method) :
    ∃ units address, token = .str units ∧ method = .token address ∧
      Address.accepted? rule (Utf16.toText units) = some address := by
  cases token with
  | str units =>
    rw [PaymentMethod.ofJson, PaymentMethod.ofToken] at h
    split at h
    · next address haddress =>
      cases h
      exact ⟨units, address, rfl, rfl, haddress⟩
    · cases h
  | _ => cases h

theorem methodOf_eq_ok {rule : Address.CaseRule} {token : Json} {method : PaymentMethod} :
    methodOf rule token = .ok method ↔ token.Names rule method := by
  unfold methodOf
  by_cases htruthy : token.truthy = true
  · rw [if_pos htruthy]
    constructor
    · intro h
      split at h
      · next found hfound =>
        cases h
        obtain ⟨units, address, rfl, rfl, haddress⟩ := ofJson_eq_ok hfound
        exact .token haddress
      · cases h
    · rintro (hnothing | haddress)
      · rw [hnothing] at htruthy
        cases htruthy
      · next units address =>
        have hfound : PaymentMethod.ofJson (.str units) rule = .ok (.token address) := by
          rw [PaymentMethod.ofJson, PaymentMethod.ofToken, haddress]
        rw [hfound]
  · rw [if_neg htruthy]
    rw [Bool.not_eq_true] at htruthy
    constructor
    · intro h
      cases h
      exact .coin htruthy
    · rintro (- | haddress)
      · rfl
      · next units address =>
        cases units with
        | nil => cases haddress
        | cons first rest => cases htruthy

/-- A mark is no pair of digits. -/
theorem not_hexPairs_mark {digits : List Char} {bytes : Bytes} :
    ¬ Bytes.HexPairs ('0' :: 'x' :: digits) bytes := by
  intro h
  cases h with
  | blank hblank => exact absurd hblank (by decide)
  | pair _ hlower => exact absurd hlower (by simp [show hexValue? 'x' = none by decide])

/-- Nothing spells no bytes. -/
theorem spells_nothing {message : Json} {bytes : Bytes} (h : ¬ message.truthy = true) :
    message.Spells bytes ↔ Bytes.ofSpacedHex? [] = some bytes := by
  constructor
  · rintro (- | ⟨hgiven, -⟩ | ⟨hgiven, -, -⟩)
    · rfl
    · exact absurd hgiven h
    · exact absurd hgiven h
  · intro hread
    cases hread
    exact .nothing (Bool.eq_false_iff.2 h)

/-- After a mark the digits are spelled. -/
theorem spells_marked {message : Json} {bytes : Bytes} {digits : List Char}
    (h : message.truthy = true) (hmark : message.display.toList = '0' :: 'x' :: digits) :
    message.Spells bytes ↔ Bytes.ofSpacedHex? digits = some bytes := by
  rw [Bytes.ofSpacedHex?_eq_some]
  constructor
  · rintro (hnothing | ⟨-, hpairs⟩ | ⟨-, hmark', hpairs⟩)
    · exact absurd h (Bool.eq_false_iff.1 hnothing)
    · rw [hmark] at hpairs
      exact absurd hpairs not_hexPairs_mark
    · cases hmark.symm.trans hmark'
      exact hpairs
  · exact .marked h hmark

/-- Without a mark all digits are spelled. -/
theorem spells_plain {message : Json} {bytes : Bytes} (h : message.truthy = true)
    (hplain : ∀ digits, message.display.toList ≠ '0' :: 'x' :: digits) :
    message.Spells bytes ↔ Bytes.ofSpacedHex? message.display.toList = some bytes := by
  rw [Bytes.ofSpacedHex?_eq_some]
  constructor
  · rintro (hnothing | ⟨-, hpairs⟩ | ⟨-, hmark, -⟩)
    · exact absurd h (Bool.eq_false_iff.1 hnothing)
    · exact hpairs
    · exact absurd hmark (hplain _)
  · exact .plain h

theorem messageOf_eq_ok {message : Json} {bytes : Bytes} :
    messageOf message = .ok bytes ↔ message.Spells bytes := by
  unfold messageOf
  by_cases hgiven : message.truthy = true
  · simp only [if_pos hgiven]
    split
    · next found hfound =>
      split at hfound
      · next digits hmark =>
        rw [spells_marked hgiven hmark, hfound, Except.ok.injEq, Option.some.injEq]
      · next hplain =>
        rw [spells_plain hgiven hplain, hfound, Except.ok.injEq, Option.some.injEq]
    · next hnone =>
      split at hnone
      · next digits hmark => simp [spells_marked hgiven hmark, hnone]
      · next hplain => simp [spells_plain hgiven hplain, hnone]
  · simp only [if_neg hgiven]
    rw [spells_nothing hgiven]
    split
    · next found hfound => rw [hfound, Except.ok.injEq, Option.some.injEq]
    · next hnone => simp [hnone]

/-- What the lifetime of an invoice is given as; an hour where it is not. -/
def lifetime (body : Json) : Json := (body.member? "expires_in_seconds").getD (.int 3600)

/-- A body asks for an order, under a rule for the letters of a token address. -/
structure Asked (rule : Address.CaseRule) (body : Json) (order : Order) : Prop where
  isObject : ∃ members, body = .obj members
  amount : (body.memberOrNull "amount").Whole order.amount
  expiresIn : (lifetime body).Whole order.expiresIn
  method : (body.memberOrNull "token_address").Names rule order.method
  message : (body.memberOrNull "message").Spells order.message

/-- A run of digits is reached that is too long to be read: that of the amount, or that of the
lifetime after an amount that can be read. -/
inductive Overlong (body : Json) : Prop
  | amount (long : (body.memberOrNull "amount").Long)
  | lifetime {amount : Int} (whole : (body.memberOrNull "amount").Whole amount)
      (long : (lifetime body).Long)

/-- What is read of an object. -/
theorem ofBody_obj (rule : Address.CaseRule) (members : List (Utf16 × Json)) :
    ofBody rule (some (.obj members)) = do
      let body := Json.obj members
      let amount ← wholeNumber .invalidAmount (body.memberOrNull "amount")
      let expiresIn ← wholeNumber .invalidExpiry (lifetime body)
      let method ← methodOf rule (body.memberOrNull "token_address")
      let message ← messageOf (body.memberOrNull "message")
      return { amount, expiresIn, method, message } := by
  cases members <;> rfl

/-- What is no object holds no order. -/
theorem ofBody_other (rule : Address.CaseRule) {given : Option Json}
    (h : ∀ members, given ≠ some (.obj members)) :
    ofBody rule given = .error .badRequest ∨ ofBody rule given = .error .invalidAmount := by
  cases given with
  | none => exact .inr rfl
  | some value =>
    by_cases htruthy : value.truthy = true
    · refine .inl ?_
      simp only [ofBody, if_pos htruthy]
      cases value with
      | obj members => exact absurd rfl (h members)
      | _ => rfl
    · refine .inr ?_
      simp only [ofBody, if_neg htruthy]
      rfl

/-- An order is read exactly of a body that asks for it, unless digits are too long. -/
theorem ofBody_eq_ok {rule : Address.CaseRule} {given : Option Json} {order : Order} :
    ofBody rule given = .ok order ↔
      ∃ body, given = some body ∧ Asked rule body order ∧ ¬ Overlong body := by
  by_cases hobject : ∃ members, given = some (.obj members)
  · obtain ⟨members, rfl⟩ := hobject
    rw [ofBody_obj]
    simp only [bind_eq_ok, wholeNumber_eq_ok, methodOf_eq_ok, messageOf_eq_ok, pure, Except.pure,
      Except.ok.injEq, Option.some.injEq, exists_eq_left']
    constructor
    · rintro ⟨amount, ⟨hamount, hreadable⟩, expiresIn, ⟨hexpires, hshort⟩, method, hmethod, message,
        hmessage, rfl⟩
      refine ⟨⟨⟨members, rfl⟩, hamount, hexpires, hmethod, hmessage⟩, ?_⟩
      rintro (hlong | ⟨-, hlong⟩)
      · exact hreadable hlong
      · exact hshort hlong
    · rintro ⟨⟨-, hamount, hexpires, hmethod, hmessage⟩, hshort⟩
      exact ⟨_, ⟨hamount, fun hlong => hshort (.amount hlong)⟩, _,
        ⟨hexpires, fun hlong => hshort (.lifetime hamount hlong)⟩, _, hmethod, _, hmessage, rfl⟩
  · rw [not_exists] at hobject
    refine iff_of_false ?_ ?_
    · rcases ofBody_other rule hobject with h | h <;> simp [h]
    · rintro ⟨body, rfl, ⟨⟨members, rfl⟩, -, -, -, -⟩, -⟩
      exact hobject members rfl

theorem Overlong.isObject {body : Json} (h : Overlong body) : ∃ members, body = .obj members := by
  cases body with
  | obj members => exact ⟨members, rfl⟩
  | _ => rcases h with h | ⟨h, -⟩ <;> cases h

end Order

end DepositGateway
