import DepositGateway.Proofs.Store.Durable

/-!
# Bytes that are refused as a record

Whatever bytes are given, they are an invoice or they are refused, and a refusal should be a fault
of the store, for then the listing of a table passes over the row. Two kinds of bytes are refused by
other faults. How deep lists and objects nest in a record makes no difference: the stack limit of
the interpreter, which may end a decoding too, is outside the model.

* `Invoice.ListForNumber`: of the fields that cannot be read, the first is a number given as a list
  that is not empty.
* `Invoice.Escapes`: the two kinds; `Invoice.decode_escapes_iff`: there are no others.
* `Store.getAll_ofTable_escapes`: a table with such a row cannot be listed at all.
  `Store.getAll_ofTable_readable`: any other table is listed, with all rows that hold an invoice.
-/

namespace DepositGateway

namespace Invoice

/-! ## Fields -/

/-- What a field of a record holds. -/
inductive FieldKind where
  | bytes
  | number

/-- The ten fields in their order. -/
def fieldKinds : List FieldKind :=
  [.number, .bytes, .bytes, .number, .bytes, .bytes, .number, .number, .bytes, .bytes]

/-- An item that can stand in a field: bytes, and where a number belongs those without a leading
zero or the empty list. -/
inductive FieldKind.Accepts : FieldKind → Rlp.Item → Prop
  | bytes (payload : Bytes) : Accepts .bytes (.bytes payload)
  | number {payload : Bytes} (shortest : payload.head? ≠ some 0) : Accepts .number (.bytes payload)
  | zero : Accepts .number (.list [])

/-- The first item that cannot stand in its field is a list that is not empty, in the place of a
number. -/
inductive ListForNumber : List FieldKind → List Rlp.Item → Prop
  | here {kinds : List FieldKind} {first : Rlp.Item} {rest items : List Rlp.Item} :
      ListForNumber (.number :: kinds) (.list (first :: rest) :: items)
  | later {kind : FieldKind} {kinds : List FieldKind} {item : Rlp.Item} {items : List Rlp.Item}
      (accepts : kind.Accepts item) (rest : ListForNumber kinds items) :
      ListForNumber (kind :: kinds) (item :: items)

theorem natField_eq_ok {item : Rlp.Item} :
    (∃ value, natField item = .ok value) ↔ FieldKind.number.Accepts item := by
  constructor
  · rintro ⟨value, h⟩
    unfold natField at h
    split at h
    · split at h
      · cases h
      · next hhead => exact .number hhead
    · exact .zero
    · cases h
  · rintro (_ | hhead | _)
    · exact ⟨_, if_neg hhead⟩
    · exact ⟨0, rfl⟩

theorem bytesField_eq_ok {item : Rlp.Item} :
    (∃ payload, bytesField item = .ok payload) ↔ FieldKind.bytes.Accepts item := by
  constructor
  · rintro ⟨payload, h⟩
    unfold bytesField at h
    split at h
    · exact .bytes _
    · cases h
  · rintro ⟨payload⟩
    exact ⟨payload, rfl⟩

theorem natField_eq_error {item : Rlp.Item} :
    natField item = .error .listForNumber ↔ ∃ first rest, item = .list (first :: rest) := by
  unfold natField
  split
  · split <;> simp
  · simp
  · simp

theorem bytesField_ne_error (item : Rlp.Item) : bytesField item ≠ .error .listForNumber := by
  cases item <;> simp [bytesField]

theorem natField_ne_version (item : Rlp.Item) (found : Nat) :
    natField item ≠ .error (.version found) := by
  unfold natField
  split
  · split <;> simp
  · simp
  · simp

theorem bytesField_ne_version (item : Rlp.Item) (found : Nat) :
    bytesField item ≠ .error (.version found) := by
  cases item <;> simp [bytesField]

theorem listForNumber_nil : ¬ ListForNumber [] [] := fun h => nomatch h

theorem listForNumber_number {kinds : List FieldKind} {item : Rlp.Item} {items : List Rlp.Item} :
    ListForNumber (.number :: kinds) (item :: items) ↔
      natField item = .error .listForNumber ∨
        (∃ value, natField item = .ok value) ∧ ListForNumber kinds items := by
  rw [natField_eq_error, natField_eq_ok]
  constructor
  · rintro (_ | ⟨accepts, rest⟩)
    · exact .inl ⟨_, _, rfl⟩
    · exact .inr ⟨accepts, rest⟩
  · rintro (⟨first, rest, rfl⟩ | ⟨accepts, rest⟩)
    · exact .here
    · exact .later accepts rest

theorem listForNumber_bytes {kinds : List FieldKind} {item : Rlp.Item} {items : List Rlp.Item} :
    ListForNumber (.bytes :: kinds) (item :: items) ↔
      (∃ payload, bytesField item = .ok payload) ∧ ListForNumber kinds items := by
  rw [bytesField_eq_ok]
  constructor
  · rintro (_ | ⟨accepts, rest⟩)
    exact ⟨accepts, rest⟩
  · rintro ⟨accepts, rest⟩
    exact .later accepts rest

/-- Items are not refused for a version. -/
theorem ofItem_ne_version (item : Rlp.Item) (found : Nat) :
    Fields.ofItem item ≠ .error (.version found) := by
  unfold Fields.ofItem
  split
  · simp only [ne_eq, bind_eq_error, natField_ne_version, bytesField_ne_version, false_or, pure,
      Except.pure, reduceCtorEq, and_false, exists_false, not_false_eq_true]
  · simp

/-- Ten fields are refused for a list in the place of a number exactly if the first that cannot be
read is such a list. -/
theorem ofItem_eq_error {items : List Rlp.Item} :
    Fields.ofItem (.list items) = .error .listForNumber ↔
      items.length = fieldKinds.length ∧ ListForNumber fieldKinds items := by
  unfold Fields.ofItem
  split
  · next h =>
    cases h
    simp only [fieldKinds, listForNumber_number, listForNumber_bytes, bind_eq_error,
      bytesField_ne_error, false_or, List.length_cons, List.length_nil, true_and, pure,
      Except.pure, reduceCtorEq, and_false, exists_false, exists_and_right, listForNumber_nil]
  · next h =>
    refine iff_of_false (by simp) ?_
    rintro ⟨hlength, -⟩
    match items, hlength with
    | [_, _, _, _, _, _, _, _, _, _], _ => exact h _ _ _ _ _ _ _ _ _ _ rfl

/-- Ten fields are read exactly if each item can stand in its field, and then the first of them is
the version. -/
theorem ofItem_eq_ok {item : Rlp.Item} {version : Nat} :
    (∃ fields, Fields.ofItem item = .ok fields ∧ fields.version = version) ↔
      ∃ first others, item = .list (first :: others) ∧ natField first = .ok version ∧
        List.Forall₂ FieldKind.Accepts fieldKinds (first :: others) := by
  unfold Fields.ofItem
  split
  · simp only [fieldKinds, bind_eq_ok, pure, Except.pure, Except.ok.injEq, ↓existsAndEq, and_true,
      exists_and_right, exists_and_left, bytesField_eq_ok, natField_eq_ok, exists_eq_right,
      Rlp.Item.list.injEq, List.cons.injEq, List.forall₂_cons, List.forall₂_nil_right_iff,
      exists_eq_left', and_congr_right_iff, iff_and_self, and_imp]
    intro hversion _ _ _ _ _ _ _ _ _
    exact natField_eq_ok.1 ⟨version, hversion⟩
  · next h =>
    refine iff_of_false (by simp) ?_
    rintro ⟨first, others, rfl, -, haccepts⟩
    match others, haccepts.length_eq with
    | [_, _, _, _, _, _, _, _, _], _ => exact h _ _ _ _ _ _ _ _ _ _ rfl

/-! ## Refusals -/

/-- The bytes that are refused by a fault which is none of the store. -/
inductive Escapes (data : Bytes) : Prop
  /-- Ten fields, of which the first that cannot be read is a list in the place of a number. -/
  | listForNumber {items : List Rlp.Item} (list : Rlp.decode? data = some (.list items))
      (ten : items.length = fieldKinds.length) (first : ListForNumber fieldKinds items)
  /-- Ten fields that can be read, with a version of more digits than can be written. -/
  | unwritableVersion {version : Bytes} {others : List Rlp.Item}
      (list : Rlp.decode? data = some (.list (.bytes version :: others)))
      (accepts : List.Forall₂ FieldKind.Accepts fieldKinds (.bytes version :: others))
      (digits : Nat.pow 10 Decimal.limit ≤ version.toNat)

theorem one_lt_pow_ten {count : Nat} (h : 0 < count) : 1 < Nat.pow 10 count :=
  Nat.one_lt_pow (Nat.ne_of_gt h) (by decide)

theorem toNat_of_natField {payload : Bytes} {value : Nat}
    (h : natField (.bytes payload) = .ok value) : payload.toNat = value := by
  rw [natField] at h
  split at h
  · cases h
  · exact Except.ok.inj h

theorem natField_of_large {item : Rlp.Item} {version : Nat} (h : natField item = .ok version)
    (hpos : 0 < version) : ∃ payload, item = .bytes payload ∧ payload.toNat = version := by
  unfold natField at h
  split at h
  · split at h
    · cases h
    · cases h
      exact ⟨_, rfl, rfl⟩
  · cases h
    omega
  · cases h

/-- Fields that can be read are not refused for a list in the place of a number, and for no other
version than their own. -/
theorem ofFields_eq_error {fields : Fields} {fault : RecordFault}
    (h : ofFields fields = .error fault) :
    fault ≠ .listForNumber ∧ ∀ found, fault = .version found → found = fields.version := by
  -- The checks follow one another, and the fault is that of the first one that fails.
  unfold ofFields at h
  split at h
  · cases h
    simp
  split at h
  · cases h
    simp
  rcases error_of_bind h with h | ⟨receipt, -, h⟩
  · unfold readReceipt at h
    split at h
    · cases h
    · split at h <;> cases h
      simp
  rcases error_of_bind h with h | ⟨hash, -, h⟩
  · unfold readHash at h
    split at h
    · cases h
    · split at h <;> cases h
      simp
  have hread {field : Bytes} {fault : RecordFault} (h : readAddress field = .error fault) :
      fault = .addressLength field.length := by
    unfold readAddress at h
    split at h <;> cases h
    rfl
  rcases error_of_bind h with h | ⟨method, -, h⟩
  · unfold readMethod at h
    split at h
    · cases h
    · have hfault : readAddress fields.token = .error fault := by
        cases hread : readAddress fields.token with
        | error other =>
          rw [hread] at h
          cases h
          rfl
        | ok address =>
          rw [hread] at h
          cases h
      simp [hread hfault]
  rcases error_of_bind h with h | ⟨address, -, h⟩
  · simp [hread h]
  split at h <;> cases h
  simp

end Invoice

/-- The refusals by such a fault. -/
theorem RecordFault.toFault_ne_deserialize {fault : RecordFault} :
    (∀ text, fault.toFault ≠ .store (.deserialize text)) ↔
      fault = .listForNumber ∨
        ∃ found, fault = .version found ∧ Nat.pow 10 Decimal.limit ≤ found := by
  cases fault with
  | version found =>
    have hdigits := Decimal.lt_length_digits_iff found (show 0 < Decimal.limit by decide)
    generalize Nat.pow 10 Decimal.limit = bound at hdigits ⊢
    by_cases hlong : Decimal.limit < (Decimal.digits found).length
    · simpa [toFault, hlong, Fault.badValue] using hdigits.1 hlong
    · simpa [toFault, hlong] using mt hdigits.2 hlong
  | listForNumber => simp [toFault, Fault.badType]
  | _ => simp [toFault]

namespace Invoice

theorem decode_eq_error {data : Bytes} {fault : RecordFault} (hfault : fault ≠ .malformed) :
    decode data = .error fault ↔ ∃ item, Rlp.decode? data = some item ∧
      (Fields.ofItem item = .error fault ∨
        ∃ fields, Fields.ofItem item = .ok fields ∧ ofFields fields = .error fault) := by
  unfold decode
  cases Rlp.decode? data with
  | none => simpa using fun h => hfault h.symm
  | some item => simp only [bind_eq_error, Option.some.injEq, exists_eq_left']

/-- Bytes that are refused by a fault which is none of the store are of one of the two kinds. -/
theorem escapes_of_decode {data : Bytes} {fault : RecordFault} (h : decode data = .error fault)
    (hother : ∀ text, fault.toFault ≠ .store (.deserialize text)) : Escapes data := by
  rcases RecordFault.toFault_ne_deserialize.1 hother with rfl | ⟨found, rfl, hdigits⟩
  · obtain ⟨item, hitem, h | ⟨fields, -, h⟩⟩ := (decode_eq_error (by simp)).1 h
    · cases item with
      | bytes payload => cases h
      | list items =>
        obtain ⟨hten, hfirst⟩ := ofItem_eq_error.1 h
        exact .listForNumber hitem hten hfirst
    · exact absurd rfl (ofFields_eq_error h).1
  · obtain ⟨item, hitem, h | ⟨fields, hfields, h⟩⟩ := (decode_eq_error (by simp)).1 h
    · exact absurd h (ofItem_ne_version item found)
    · obtain rfl := (ofFields_eq_error h).2 found rfl
      obtain ⟨first, others, rfl, hfirst, haccepts⟩ := ofItem_eq_ok.1 ⟨fields, hfields, rfl⟩
      have hpos : 0 < fields.version :=
        Nat.lt_of_lt_of_le (Nat.zero_lt_of_lt (one_lt_pow_ten (by decide))) hdigits
      obtain ⟨payload, rfl, hpayload⟩ := natField_of_large hfirst hpos
      refine .unwritableVersion hitem haccepts ?_
      rw [hpayload]
      exact hdigits

/-- Bytes of the two kinds are refused by a fault which is none of the store. -/
theorem decode_of_escapes {data : Bytes} (h : Escapes data) :
    ∃ fault, decode data = .error fault ∧
      ∀ text, fault.toFault ≠ .store (.deserialize text) := by
  simp only [RecordFault.toFault_ne_deserialize]
  rcases h with ⟨hlist, hten, hfirst⟩ | ⟨hlist, haccepts, hdigits⟩
  · exact ⟨.listForNumber,
      (decode_eq_error (by simp)).2 ⟨_, hlist, .inl (ofItem_eq_error.2 ⟨hten, hfirst⟩)⟩,
      .inl rfl⟩
  · obtain ⟨value, hvalue⟩ := natField_eq_ok.2 (List.forall₂_cons.1 haccepts).1
    obtain ⟨fields, hfields, hversion⟩ := ofItem_eq_ok.2 ⟨_, _, rfl, hvalue, haccepts⟩
    have hnumber := toNat_of_natField hvalue
    -- The version that is supported has one digit, so the check of the version comes to this one.
    have hother : fields.version ≠ recordVersion := by
      intro hone
      rw [hversion, ← hnumber] at hone
      rw [hone] at hdigits
      exact absurd hdigits (Nat.not_le_of_gt (one_lt_pow_ten (by decide)))
    refine ⟨.version value, (decode_eq_error (by simp)).2
      ⟨_, hlist, .inr ⟨fields, hfields, ?_⟩⟩, .inr ⟨value, rfl, ?_⟩⟩
    · rw [ofFields, if_pos hother, hversion]
    · rw [← hnumber]
      exact hdigits

/-- The bytes that are refused by a fault which is none of the store are those of the two kinds. -/
theorem decode_escapes_iff (data : Bytes) :
    (∃ fault, decode data = .error fault ∧
      ∀ text, fault.toFault ≠ .store (.deserialize text)) ↔ Escapes data :=
  ⟨fun ⟨_, h, hother⟩ => escapes_of_decode h hother, decode_of_escapes⟩

/-- Ten fields of which the version is a list that holds an empty one. -/
example : decode [0xcb, 0xc1, 0xc0, 0xc0, 0xc0, 0xc0, 0xc0, 0xc0, 0xc0, 0xc0, 0xc0, 0xc0] =
    .error .listForNumber := by decide

end Invoice

/-! ## Listings -/

theorem Action.fst_apply_bind_pure {ω α β : Type} (first : Action ω α) (f : α → β) (w : ω) :
    ((do return f (← first)).apply w).1 = f <$> (first.apply w).1 := by
  rw [Action.apply_bind]
  rcases first.apply w with ⟨_ | _, _⟩ <;> rfl

/-- The entry of a row that holds an invoice. -/
def Row.readable? (row : Row) : Option (InvoiceKey × Invoice) :=
  (Invoice.decode row.data).toOption.map fun invoice => (.text row.key, invoice)

namespace Store

variable {ω : Type} {cell : Cell ω Table} {journal : Journal ω} {w : ω}

/-- Rows of which none is refused by another fault are read, and the refused ones passed over. -/
theorem readRows_readable (journal : Journal ω) {rows : List Row}
    (h : ∀ row ∈ rows, ¬ Invoice.Escapes row.data) (w : ω) :
    ((readRows journal rows).apply w).1 = .ok (rows.filterMap Row.readable?) := by
  induction rows generalizing w with
  | nil => rfl
  | cons row rest ih =>
    rw [List.forall_mem_cons] at h
    rw [readRows, Action.apply_attempt_bind, readRow]
    cases hdecode : Invoice.decode row.data with
    | ok invoice =>
      have hreadable : row.readable? = some (.text row.key, invoice) := by
        rw [Row.readable?, hdecode]
        rfl
      rw [List.filterMap_cons_some hreadable]
      simp only [Action.apply_pure, Action.fst_apply_bind_pure, ih h.2 w]
      rfl
    | error fault =>
      have hreadable : row.readable? = none := by
        rw [Row.readable?, hdecode]
        rfl
      obtain ⟨text, htext⟩ : ∃ text, fault.toFault = .store (.deserialize text) := by
        by_contra hnone
        exact h.1 (Invoice.escapes_of_decode hdecode (not_exists.1 hnone))
      rw [List.filterMap_cons_none hreadable]
      simp only [Action.fail, Action.apply_ofExcept, htext, Action.apply_bind]
      exact ih h.2 _

/-- One row that is refused by another fault ends the reading. -/
theorem readRows_escapes (journal : Journal ω) {rows : List Row}
    (h : ∃ row ∈ rows, Invoice.Escapes row.data) (w : ω) :
    ∃ fault, ((readRows journal rows).apply w).1 = .error fault ∧
      ∀ text, fault ≠ .store (.deserialize text) := by
  induction rows generalizing w with
  | nil => simp at h
  | cons row rest ih =>
    rw [List.exists_mem_cons_iff] at h
    rw [readRows, Action.apply_attempt_bind, readRow]
    cases hdecode : Invoice.decode row.data with
    | ok invoice =>
      have hreadable : ¬ Invoice.Escapes row.data := by
        intro hescapes
        obtain ⟨fault, hfault, -⟩ := Invoice.decode_of_escapes hescapes
        rw [hdecode] at hfault
        cases hfault
      obtain ⟨fault, hfault, hother⟩ := ih (h.resolve_left hreadable) w
      refine ⟨fault, ?_, hother⟩
      simp only [Action.apply_pure, Action.fst_apply_bind_pure, hfault]
      rfl
    | error fault =>
      by_cases htext : ∃ text, fault.toFault = .store (.deserialize text)
      · obtain ⟨text, htext⟩ := htext
        have hpassed : ¬ Invoice.Escapes row.data := by
          intro hescapes
          obtain ⟨other, hother, hfault⟩ := Invoice.decode_of_escapes hescapes
          rw [hdecode] at hother
          cases hother
          exact hfault text htext
        simp only [Action.fail, Action.apply_ofExcept, htext, Action.apply_bind]
        exact ih (h.resolve_left hpassed) _
      · have hother : ∀ text, fault.toFault ≠ .store (.deserialize text) := not_exists.1 htext
        refine ⟨fault.toFault, ?_, hother⟩
        simp only [Action.fail, Action.apply_ofExcept]

/-- A table without rows that are refused by another fault is listed: each row that holds an
invoice, and only those. -/
theorem getAll_ofTable_readable (present : (cell.look w).isGone = false)
    (h : ∀ row ∈ (cell.look w).rows.entries, ¬ Invoice.Escapes row.data) :
    ((ofTable cell journal).getAll.apply w).1 =
      .ok ((cell.look w).rows.inOrder.filterMap Row.readable?) := by
  simp only [ofTable, Action.apply_bind, apply_withTable _ present, Cell.apply_read]
  exact readRows_readable journal (fun row hrow => h row (List.mem_mergeSort.1 hrow)) w

/-- A table with a row that is refused by another fault cannot be listed. -/
theorem getAll_ofTable_escapes (present : (cell.look w).isGone = false)
    (h : ∃ row ∈ (cell.look w).rows.entries, Invoice.Escapes row.data) :
    ∃ fault, ((ofTable cell journal).getAll.apply w).1 = .error fault ∧
      ∀ text, fault ≠ .store (.deserialize text) := by
  obtain ⟨row, hrow, hescapes⟩ := h
  simp only [ofTable, Action.apply_bind, apply_withTable _ present, Cell.apply_read]
  exact readRows_escapes journal ⟨row, List.mem_mergeSort.2 hrow, hescapes⟩ w

end Store

end DepositGateway
