import DepositGateway.Invoice.Copy
import DepositGateway.Proofs.Invoice.Canonical
import DepositGateway.Proofs.Invoice.Written

/-!
# A record does not tell how a receipt was put together

The members of every object of a receipt are written in the order of their keys. What else an
invoice is the same in, however its receipt came to have its members, gives the same record: an
invoice with the members in another order, a copy, and what was read from the record itself.

* `Invoice.encode_eq_or`: an invoice of the declared types has a record or is unserializable.
* `Invoice.encode_of_decode`: what is read from a record has that record.
* `Invoice.encode_unordered`: all of them together.
-/

namespace DepositGateway

namespace Invoice

/-- An invoice with fields of the declared types has a record or is refused as unserializable. -/
theorem encode_eq_or {invoice : Invoice} (typed : invoice.Typed) :
    (∃ data, invoice.encode = .ok data) ∨ invoice.encode = .error unserializable := by
  cases h : invoice.encode with
  | ok data => exact .inl ⟨data, rfl⟩
  | error fault => exact .inr (by rw [encode_eq_error typed h])

/-- What is read from the record of an invoice has that record, whatever became of the spelling of
its addresses, of its fractions of seconds and of an empty hash. -/
theorem encode_of_decode {invoice : Invoice} {data : Bytes} (hwallet : invoice.wallet.bytes ≠ [])
    (plain : invoice.receipt.Plain) (h : invoice.encode = .ok data) :
    ∃ stored, decode data = .ok stored ∧ stored.encode = .ok data := by
  obtain ⟨fields, hrenders, hrecord⟩ := exists_renders h
  obtain ⟨stored, hstored, -⟩ := exists_decode_of_encode hwallet h
  have hfrom : stored.ReadFrom fields :=
    readFrom_of_ofFields ((decode_record hrecord).symm.trans hstored)
  -- The receipt that was read is alike to the one that was written, so it has the same field.
  have hreceipt : receiptField stored.receipt = .ok fields.receipt := by
    obtain ⟨found, hfound, halike⟩ := readReceipt_receiptField hrenders.receipt
    obtain rfl : found = stored.receipt := Except.ok.inj (hfound.symm.trans hfrom.receipt)
    have distinct := (receiptField_of_readReceipt hfrom.receipt).1
    rw [receiptField_of_alike distinct (halike plain), hrenders.receipt]
  exact ⟨stored, hstored, encode_of_writes (hfrom.writes hreceipt) hrecord⟩

/-- The record of an invoice does not depend on how its receipt was put together. Any other invoice
that differs from it at most in the order of the members of its receipt, at any depth, has the same
record or is refused in the same way, which is as unserializable for fields of the declared types.
So has a copy of it; and so has what is read from its record, where it carries a key and its receipt
has no doubles. -/
theorem encode_unordered (invoice : Invoice) :
    (∀ other : Invoice, invoice.Same other → invoice.receipt.Distinct →
      invoice.encode = other.encode ∧
      (invoice.Typed → (∃ data, invoice.encode = .ok data ∧ other.encode = .ok data) ∨
        invoice.encode = .error unserializable ∧ other.encode = .error unserializable)) ∧
    invoice.copy.encode = invoice.encode ∧
    ∀ data, invoice.encode = .ok data → invoice.wallet.bytes ≠ [] → invoice.receipt.Plain →
      ∃ stored, decode data = .ok stored ∧ stored.encode = .ok data := by
  refine ⟨fun other same distinct => ?_, by rw [copy_eq], fun data h hwallet plain =>
    encode_of_decode hwallet plain h⟩
  have hsame := encode_of_same same distinct
  refine ⟨hsame, fun typed => ?_⟩
  rw [← hsame]
  exact (encode_eq_or typed).imp (fun ⟨data, h⟩ => ⟨data, h, h⟩) fun h => ⟨h, h⟩

/-! ## A receipt put together in two orders -/

/-- The receipt of a sweep with the keys of a log in order, its own not. -/
def loggedReceipt : Json :=
  .object [("status", .int 1),
    ("logs", .arr [.object [("data", .text "é"), ("index", .int 0)]])]

/-- The same receipt with its own keys in order, those of the log not. -/
def reloggedReceipt : Json :=
  .object [("logs", .arr [.object [("index", .int 0), ("data", .text "é")]]),
    ("status", .int 1)]

/-- A swept invoice with such a receipt. -/
def logged : Invoice := { swept with receipt := loggedReceipt }

/-- Its twin. -/
def relogged : Invoice := { swept with receipt := reloggedReceipt }

theorem loggedReceipt_distinct : loggedReceipt.Distinct := by
  have hlog : (Json.object [("data", .text "é"), ("index", .int 0)]).Distinct :=
    .obj (by decide) (List.forall_mem_cons.2 ⟨.str _, List.forall_mem_singleton.2 (.num _)⟩)
  exact .obj (by decide) (List.forall_mem_cons.2
    ⟨.num _, List.forall_mem_singleton.2 (.arr (List.forall_mem_singleton.2 hlog))⟩)

theorem loggedReceipt_integral : loggedReceipt.Integral := by
  have hlog : (Json.object [("data", .text "é"), ("index", .int 0)]).Integral :=
    .obj (List.forall_mem_cons.2 ⟨.str _, List.forall_mem_singleton.2 (.int 0)⟩)
  exact .obj (List.forall_mem_cons.2
    ⟨.int 1, List.forall_mem_singleton.2 (.arr (List.forall_mem_singleton.2 hlog))⟩)

theorem logged_same : logged.Same relogged where
  address := rfl
  wallet := rfl
  amount := rfl
  method := rfl
  message := rfl
  paidAt := rfl
  expires := rfl
  receipt := by decide +kernel
  hash := rfl

theorem logged_typed : logged.Typed where
  paidAt := ⟨7, rfl⟩
  expires := ⟨1700000000, rfl⟩
  hash := .inr ⟨_, rfl⟩

/-- The receipt is short enough for a record. -/
theorem exists_encode_logged : ∃ data, logged.encode = .ok data := by
  have hfield : receiptField loggedReceipt =
      .ok (loggedReceipt.render.map fun c => UInt8.ofNat c.toNat) := by
    rw [receiptField, if_neg (by decide), if_pos (by decide +kernel)]
  have hroom : (loggedReceipt.render.map fun c => UInt8.ofNat c.toNat).length ≤ 1000 := by
    rw [List.length_map]
    exact Nat.le_trans (Json.length_render_le loggedReceipt_integral) (by decide +kernel)
  generalize loggedReceipt.render.map (fun c => UInt8.ofNat c.toNat) = receipt at hfield hroom
  have hwrites : logged.Writes { sweptFields with receipt } :=
    { swept_writes with receipt := hfield }
  have hbound : 3000 < Rlp.lengthBound := by decide +kernel
  have hothers : sweptFields.size ≤ 1000 := by decide +kernel
  have hreceipt : (Rlp.encodeBytes receipt).length ≤ receipt.length + 9 :=
    Rlp.length_encodeBytes_le (by omega)
  have hsize : { sweptFields with receipt }.size < Rlp.lengthBound :=
    Nat.lt_of_le_of_lt (size_of_receipt sweptFields receipt) (by omega)
  obtain ⟨data, hrecord⟩ := Rlp.encode?_strings hsize
  exact ⟨data, encode_of_writes hwrites hrecord⟩

theorem encode_unordered_logged : loggedReceipt ≠ reloggedReceipt ∧ ∃ data,
    logged.encode = .ok data ∧ relogged.encode = .ok data ∧ logged.copy.encode = .ok data ∧
    ∃ stored, decode data = .ok stored ∧ stored.encode = .ok data := by
  obtain ⟨same, copied, again⟩ := encode_unordered logged
  obtain ⟨data, hdata⟩ := exists_encode_logged
  refine ⟨by decide +kernel, data, hdata, ?_, copied.trans hdata, ?_⟩
  · rcases (same relogged logged_same loggedReceipt_distinct).2 logged_typed with
      ⟨found, hfound, hother⟩ | ⟨hfault, -⟩
    · rw [hother, ← hfound, hdata]
    · exact absurd (hfault.symm.trans hdata) nofun
  · exact again data hdata (by decide) (loggedReceipt_distinct.plain loggedReceipt_integral)

end Invoice

end DepositGateway
