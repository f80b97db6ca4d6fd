import DepositGateway.Proofs.Invoice.Refusal

/-!
# Records that were written are read

Any invoice that has a record and carries a key is read back from it, if perhaps not as it was: its
times are cut off to whole seconds, and its receipt may hold doubles or a key twice.

* `Invoice.Recalls`: what comes back. `Invoice.exists_decode_of_encode`: the record is read.
* `Invoice.not_escapes_of_encode`: no record that was written is refused by a fault which is none of
  the store, with or without a key in it.
* `Invoice.Typed`: an invoice with fields of the declared types. `Invoice.encode_eq_error`: such an
  invoice has a record or is refused as unserializable.
-/

namespace DepositGateway

namespace Invoice

/-! ## Fields that were written -/

/-- A payment method that was written is read, with the address of its token in checksum form. -/
theorem exists_readMethod {method : PaymentMethod} {field : Bytes}
    (h : tokenField method = .ok field) :
    ∃ found, readMethod field = .ok found ∧
      ∀ given, checksumMethod? method = some given → found = given := by
  cases method with
  | native =>
    cases h
    exact ⟨.native, rfl, fun _ hgiven => Option.some.inj hgiven⟩
  | token address =>
    by_cases hempty : address.isEmpty = true
    · rw [tokenField, if_pos hempty] at h
      cases h
      refine ⟨.native, rfl, fun _ hgiven => ?_⟩
      rw [String.isEmpty_iff.mp hempty] at hgiven
      cases hgiven
    · have htext : Address.isText address = true := by
        rw [tokenField, if_neg hempty] at h
        exact Address.isText_of_checksum? (readAddress_addressField h).2
      obtain ⟨found, hread, hsum⟩ :=
        readMethod_tokenField (fun _ hsame => PaymentMethod.token.inj hsame ▸ htext) h
      exact ⟨found, hread, fun _ hgiven => Option.some.inj (hsum.symm.trans hgiven)⟩

/-- A hash that was written is read, and none where there was none. -/
theorem exists_readHash {hash : Json} {field : Bytes} (h : hashField hash = .ok field) :
    ∃ found, readHash field = .ok found ∧ (hash = .null → found = .null) := by
  by_cases hnone : hash = .null
  · subst hnone
    cases h
    exact ⟨.null, rfl, fun _ => rfl⟩
  have hgiven {found : Json} (hread : readHash field = .ok found) :
      ∃ found, readHash field = .ok found ∧ (hash = .null → found = .null) :=
    ⟨found, hread, fun hnull => absurd hnull hnone⟩
  unfold hashField at h
  split at h
  · split at h
    · split at h
      · next text htext =>
        cases h
        by_cases hempty : text.toUTF8.data.toList.isEmpty = true
        · exact hgiven (if_pos hempty)
        · have hread : readHash text.toUTF8.data.toList = .ok (.text text) := by
            rw [readHash, if_neg hempty, Utf8.read?_toUTF8 text]
          exact hgiven hread
      · cases h
    · cases h
  · cases h
    exact hgiven rfl

/-- What the record of an invoice recalls of it, whatever its receipt and its hash are. -/
structure Recalls (invoice stored : Invoice) : Prop where
  address : Address.checksum? invoice.address = some stored.address
  wallet : stored.wallet = invoice.wallet
  amount : stored.amount = invoice.amount
  method : ∀ given, checksumMethod? invoice.method = some given → stored.method = given
  message : stored.message = invoice.message
  paidAt : ∃ seconds : Nat,
    wholeSeconds invoice.paidAt = .ok seconds ∧ stored.paidAt = .int seconds
  expires : ∃ seconds : Nat,
    wholeSeconds invoice.expires = .ok seconds ∧ stored.expires = .int seconds
  receipt : invoice.receipt = .null → stored.receipt = .null
  hash : invoice.hash = .null → stored.hash = .null

/-- The record of an invoice that carries a key is read, with the key in it. -/
theorem exists_decode_of_encode {invoice : Invoice} {data : Bytes}
    (hwallet : invoice.wallet.bytes ≠ []) (h : invoice.encode = .ok data) :
    ∃ stored, decode data = .ok stored ∧ invoice.Recalls stored := by
  obtain ⟨fields, hrenders, hrecord⟩ := exists_renders h
  obtain ⟨hto, hsum⟩ := readAddress_addressField hrenders.address
  obtain ⟨method, hmethod, hgiven⟩ := exists_readMethod hrenders.token
  obtain ⟨receipt, hreceipt, halike⟩ := readReceipt_receiptField hrenders.receipt
  obtain ⟨hash, hhash, hnone⟩ := exists_readHash hrenders.hash
  have hkey : ¬ invoice.wallet.bytes.isEmpty :=
    fun hempty => hwallet (List.isEmpty_iff.mp hempty)
  refine ⟨{ address := Address.checksum fields.address, wallet := invoice.wallet,
            amount := invoice.amount, method, message := fields.message,
            paidAt := .int fields.paidAt, expires := .int fields.expires, receipt, hash },
    (decode_record hrecord).trans ?_, ?_⟩
  · simp only [ofFields, hrenders.version, ne_eq, not_true_eq_false, if_false, hrenders.wallet,
      if_neg hkey, hreceipt, hhash, hmethod, hto, hrenders.amount,
      Amount.ofNat?_of_lt invoice.amount.isLt]
    rfl
  · refine {
      address := hsum, wallet := rfl, amount := rfl, method := hgiven
      message := hrenders.message, paidAt := ⟨_, hrenders.paidAt, rfl⟩
      expires := ⟨_, hrenders.expires, rfl⟩, receipt := fun hnull => ?_, hash := hnone }
    have hsame := halike (hnull ▸ .null)
    rw [hnull] at hsame
    cases receipt <;> simp_all [Json.alike]

/-- A record with an invoice in it carries a key. -/
theorem wallet_of_decode {invoice stored : Invoice} {data : Bytes} (h : invoice.encode = .ok data)
    (hdecode : decode data = .ok stored) : invoice.wallet.bytes ≠ [] := by
  obtain ⟨fields, hrenders, hrecord⟩ := exists_renders h
  intro hnone
  have hfields : fields.wallet = [] := hrenders.wallet.trans hnone
  rw [decode_record hrecord, ofFields, hfields] at hdecode
  split at hdecode <;> cases hdecode

/-- What was written as a record is read or refused by a fault of the store. -/
theorem not_escapes_of_encode {invoice : Invoice} {data : Bytes} (h : invoice.encode = .ok data) :
    ¬ Escapes data := by
  intro hescapes
  obtain ⟨fields, hrenders, hrecord⟩ := exists_renders h
  obtain ⟨fault, hdecode, hother⟩ := decode_of_escapes hescapes
  rw [decode_record hrecord] at hdecode
  obtain ⟨hlist, hversion⟩ := ofFields_eq_error hdecode
  rcases RecordFault.toFault_ne_deserialize.1 hother with hfault | ⟨found, hfault, hdigits⟩
  · exact hlist hfault
  · have hone : found = recordVersion := (hversion found hfault).trans hrenders.version
    rw [hone] at hdigits
    exact absurd hdigits (Nat.not_le_of_gt (one_lt_pow_ten (by decide)))

/-! ## Invoices that have no record -/

/-- An invoice with fields of the declared types: its times are integers and its hash is a text or
none. -/
structure Typed (invoice : Invoice) : Prop where
  paidAt : ∃ seconds : Int, invoice.paidAt = .int seconds
  expires : ∃ seconds : Int, invoice.expires = .int seconds
  hash : invoice.hash = .null ∨ ∃ units, invoice.hash = .str units

theorem addressField_eq_error {address : String} {fault : Fault}
    (h : addressField address = .error fault) : fault = unserializable := by
  unfold addressField at h
  split at h <;> cases h
  rfl

theorem tokenField_eq_error {method : PaymentMethod} {fault : Fault}
    (h : tokenField method = .error fault) : fault = unserializable := by
  unfold tokenField at h
  split at h
  · cases h
  · split at h
    · cases h
    · exact addressField_eq_error h

theorem receiptField_eq_error {receipt : Json} {fault : Fault}
    (h : receiptField receipt = .error fault) : fault = unserializable := by
  unfold receiptField at h
  split at h
  · cases h
  · split at h <;> cases h
    rfl

theorem hashField_eq_error {hash : Json} {fault : Fault}
    (htext : hash = .null ∨ ∃ units, hash = .str units) (h : hashField hash = .error fault) :
    fault = unserializable := by
  rcases htext with rfl | ⟨units, rfl⟩
  · cases h
  · unfold hashField at h
    split at h
    · dsimp only at h
      split at h <;> cases h
      rfl
    · cases h

/-- An invoice with fields of the declared types that has no record is refused as
unserializable. -/
theorem encode_eq_error {invoice : Invoice} {fault : Fault} (typed : invoice.Typed)
    (h : invoice.encode = .error fault) : fault = unserializable := by
  obtain ⟨paidAt, hpaidAt⟩ := typed.paidAt
  obtain ⟨expires, hexpires⟩ := typed.expires
  unfold encode at h
  rcases error_of_bind h with h | ⟨address, -, h⟩
  · exact addressField_eq_error h
  rcases error_of_bind h with h | ⟨token, -, h⟩
  · exact tokenField_eq_error h
  rw [hpaidAt, hexpires, wholeSeconds_int, wholeSeconds_int] at h
  rcases error_of_bind h with h | ⟨_, -, h⟩
  · cases h
  rcases error_of_bind h with h | ⟨_, -, h⟩
  · cases h
  rcases error_of_bind h with h | ⟨receipt, -, h⟩
  · exact receiptField_eq_error h
  rcases error_of_bind h with h | ⟨hash, -, h⟩
  · exact hashField_eq_error typed.hash h
  split at h
  · cases h
    rfl
  · dsimp only at h
    split at h <;> cases h
    rfl

end Invoice

end DepositGateway
