import DepositGateway.Proofs.Invoice.Written
import DepositGateway.Proofs.Rlp.Canonical

/-!
# Where a record ends

The first bytes of a record say how long it is. A record that was cut off anywhere, be it in these
first bytes, is refused, and so is one with anything behind it.

* `Invoice.IsRecord`: the bytes that are read as an invoice.
* `Invoice.decode_append`: nothing may follow a record. `Invoice.decode_of_isPrefix`: no part in
  front of a record is read.
* `Invoice.record_alone`: no record is part of another in front.
-/

namespace DepositGateway

namespace Invoice

/-- The bytes that are read as an invoice, and among them those that an invoice with a key is
written as. -/
inductive IsRecord (data : Bytes) : Prop
  | read {invoice : Invoice} (h : decode data = .ok invoice)
  | written {invoice : Invoice} (key : invoice.wallet.bytes ≠ []) (h : invoice.encode = .ok data)

/-- Bytes that are refused as no list of ten fields, which is a fault of the store. -/
def IsRefused (data : Bytes) : Prop :=
  ∃ fault, decode data = .error fault ∧
    fault.toFault = .store (.deserialize "Could not deserialize binary data")

theorem isRefused_of_decode? {data : Bytes} (h : Rlp.decode? data = none) : IsRefused data :=
  ⟨.malformed, by rw [decode, h], rfl⟩

theorem IsRecord.decode {data : Bytes} (h : IsRecord data) :
    ∃ invoice, Invoice.decode data = .ok invoice := by
  cases h with
  | read h => exact ⟨_, h⟩
  | written key h =>
    obtain ⟨stored, hdecode, -⟩ := exists_decode_of_encode key h
    exact ⟨stored, hdecode⟩

/-- A record is the written form of an item. -/
theorem IsRecord.decode? {data : Bytes} (h : IsRecord data) :
    ∃ item, Rlp.decode? data = some item := by
  obtain ⟨invoice, hdecode⟩ := h.decode
  unfold Invoice.decode at hdecode
  split at hdecode
  · next item hitem => exact ⟨item, hitem⟩
  · cases hdecode

/-- Nothing may follow a record. -/
theorem decode_append {data more : Bytes} (h : IsRecord data) (hmore : more ≠ []) :
    IsRefused (data ++ more) := by
  obtain ⟨item, hitem⟩ := h.decode?
  exact isRefused_of_decode? (Rlp.decode?_append hitem hmore)

/-- No part in front of a record is read. -/
theorem decode_of_isPrefix {data cut : Bytes} (h : IsRecord data) (hcut : cut <+: data)
    (hne : cut ≠ data) : IsRefused cut := by
  obtain ⟨more, rfl⟩ := hcut
  have hmore : more ≠ [] := by
    rintro rfl
    exact hne (List.append_nil cut).symm
  obtain ⟨item, hitem⟩ := h.decode?
  cases hread : Rlp.decode? cut with
  | none => exact isRefused_of_decode? hread
  | some found =>
    -- What is read as an item bears nothing behind it, and here the rest of the record follows.
    rw [Rlp.decode?_append hread hmore] at hitem
    cases hitem

/-- A record that was cut off or goes on is refused, so no record is part of another in front. -/
theorem record_alone {data : Bytes} (h : IsRecord data) :
    (∀ cut, cut <+: data → cut ≠ data → IsRefused cut) ∧
      (∀ more, more ≠ [] → IsRefused (data ++ more)) ∧
      ∀ other, IsRecord other → data <+: other → data = other := by
  refine ⟨fun cut => decode_of_isPrefix h, fun more => decode_append h,
    fun other hother hfront => ?_⟩
  by_contra hne
  obtain ⟨invoice, hread⟩ := h.decode
  obtain ⟨fault, hrefused, -⟩ := decode_of_isPrefix hother hfront hne
  rw [hread] at hrefused
  cases hrefused

/-- The record of `swept` without any of its bytes, with the first of the two that say how long it
is, without its last one, and with one too many. -/
theorem record_alone_swept : ∃ data, swept.encode = .ok data ∧ IsRefused [] ∧
    IsRefused (data.take 1) ∧ IsRefused data.dropLast ∧ IsRefused (data ++ [0]) := by
  obtain ⟨data, hrecord⟩ : ∃ data, sweptFields.record.encode? = some data :=
    ⟨_, if_pos (by decide +kernel)⟩
  have hlength : 2 ≤ data.length := by
    have h : ∀ bytes ∈ sweptFields.record.encode?, 2 ≤ bytes.length := by decide +kernel
    exact h data hrecord
  have hencode := encode_of_writes swept_writes hrecord
  obtain ⟨hcut, hmore, -⟩ := record_alone (.written swept_recordable.wallet hencode)
  refine ⟨data, hencode, hcut [] List.nil_prefix ?_, hcut _ (List.take_prefix 1 data) ?_,
    hcut _ data.dropLast_prefix ?_, hmore [0] (by decide)⟩
  · rintro rfl
    simp at hlength
  · intro hsame
    have := congrArg List.length hsame
    rw [List.length_take] at this
    omega
  · intro hsame
    have := congrArg List.length hsame
    rw [List.length_dropLast] at this
    omega

end Invoice

end DepositGateway
