import DepositGateway.Proofs.Json.Parsed
import DepositGateway.Proofs.Rlp.Canonical
import DepositGateway.Proofs.Store.Durable

/-!
# What is read from a record comes back from its own

More records are read than are written: a receipt may be spelled with other blanks and escapes or
with a key twice, a missing one as `null`, and an empty list stands for zero. What is read lies in
the domain of the writer all the same, and its own record is read as it is.

* `Invoice.encode_of_same`: invoices that are the same have one record.
* `Invoice.ReadFrom`: an invoice and the fields it was read from. `Invoice.ReadFrom.writes`: these
  are its fields, but for the receipt.
* `Invoice.ReadFrom.encode`: it has a record, which takes hardly more room than the receipt needs.
* `Invoice.Settled`, `Invoice.decode_settles`: what was read comes back the same from its own
  record.
-/

namespace DepositGateway

namespace Invoice

/-! ## Alike receipts -/

/-- Alike receipts have one field. -/
theorem receiptField_of_alike {receipt other : Json} (distinct : receipt.Distinct)
    (h : receipt.alike other = true) : receiptField receipt = receiptField other := by
  have hsorted := Json.sortKeys_eq_of_alike distinct h
  have hnull : receipt = .null ↔ other = .null := by
    cases receipt <;> cases other <;> simp_all [Json.alike]
  have hwritable : receipt.isWritable = other.isWritable := by
    rw [← Json.isWritable_sortKeys receipt, hsorted, Json.isWritable_sortKeys]
  simp only [receiptField, hnull, hwritable, Json.render, hsorted]

/-- Invoices that are the same have one record, or are refused alike. -/
theorem encode_of_same {stored invoice : Invoice} (h : stored.Same invoice)
    (distinct : stored.receipt.Distinct) : stored.encode = invoice.encode := by
  simp only [encode, h.address, h.method, h.paidAt, h.expires, h.hash, h.wallet, h.amount,
    h.message, receiptField_of_alike distinct h.receipt]

/-! ## Fields that were read -/

theorem length_encode_ofNat {item : Rlp.Item} {value : Nat} (h : natField item = .ok value) :
    (Rlp.Item.ofNat value).encode.length = item.encode.length := by
  unfold natField at h
  split at h
  · split at h
    · cases h
    · next hhead =>
      cases h
      rw [Rlp.Item.ofNat, Bytes.ofNat_toNat hhead]
  · cases h
    rw [Rlp.Item.ofNat, Bytes.ofNat_zero]
    rfl
  · cases h

theorem eq_of_bytesField {item : Rlp.Item} {payload : Bytes} (h : bytesField item = .ok payload) :
    item = .bytes payload := by
  cases item with
  | bytes found =>
    cases h
    rfl
  | list items => cases h

/-- The ten byte strings of a record. -/
def Fields.payloads (fields : Fields) : List Bytes :=
  [.ofNat fields.version, fields.address, fields.wallet, .ofNat fields.amount, fields.token,
    fields.message, .ofNat fields.paidAt, .ofNat fields.expires, fields.receipt, fields.hash]

/-- The length of the payload of a record. -/
def Fields.size (fields : Fields) : Nat :=
  (Rlp.encodeItems (fields.payloads.map .bytes)).length

/-- Fields take as much room in a record of their own as where they were read. -/
theorem size_of_ofItem {item : Rlp.Item} {fields : Fields} (h : Fields.ofItem item = .ok fields) :
    fields.size ≤ item.encode.length := by
  unfold Fields.ofItem at h
  split at h
  · simp only [bind_eq_ok] at h
    obtain ⟨version, hversion, address, haddress, wallet, hwallet, amount, hamount, token, htoken,
      message, hmessage, paidAt, hpaidAt, expires, hexpires, receipt, hreceipt, hash, hhash, h⟩ := h
    cases h
    cases eq_of_bytesField haddress
    cases eq_of_bytesField hwallet
    cases eq_of_bytesField htoken
    cases eq_of_bytesField hmessage
    cases eq_of_bytesField hreceipt
    cases eq_of_bytesField hhash
    have hversion := length_encode_ofNat hversion
    have hamount := length_encode_ofNat hamount
    have hpaidAt := length_encode_ofNat hpaidAt
    have hexpires := length_encode_ofNat hexpires
    simp only [Rlp.Item.ofNat] at hversion hamount hpaidAt hexpires
    simp only [Fields.size, Fields.payloads, List.map_cons, List.map_nil, Rlp.Item.encode,
      Rlp.encodeList, Rlp.encodeItems, List.length_append, List.length_nil] at *
    omega
  · cases h

theorem length_receipt_le (fields : Fields) : fields.receipt.length ≤ fields.size := by
  have hreceipt := Rlp.length_le_encodeBytes fields.receipt
  simp only [Fields.size, Fields.payloads, List.map_cons, List.map_nil, Rlp.encodeItems,
    Rlp.Item.encode, List.length_append, List.length_nil]
  omega

/-- Another receipt takes its own room at most. -/
theorem size_of_receipt (fields : Fields) (receipt : Bytes) :
    { fields with receipt }.size ≤ fields.size + (Rlp.encodeBytes receipt).length := by
  simp only [Fields.size, Fields.payloads, List.map_cons, List.map_nil, Rlp.encodeItems,
    Rlp.Item.encode, List.length_append, List.length_nil]
  omega

/-! ## Fields that are written again -/

theorem addressField_of_readAddress {field : Bytes} {address : String}
    (h : readAddress field = .ok address) :
    addressField address = .ok field ∧ Address.checksum? address = some address := by
  unfold readAddress at h
  split at h
  · next hlength =>
    cases h
    exact ⟨by rw [addressField, Address.ofText?_checksum hlength],
      Address.checksum?_checksum hlength⟩
  · cases h

theorem tokenField_of_readMethod {field : Bytes} {method : PaymentMethod}
    (h : readMethod field = .ok method) :
    tokenField method = .ok field ∧
      ∀ address, method = .token address → Address.checksum? address = some address := by
  unfold readMethod at h
  split at h
  · next hnone =>
    cases h
    exact ⟨by rw [List.isEmpty_iff.1 hnone]; rfl, fun address hnot => nomatch hnot⟩
  · obtain ⟨address, haddress, h⟩ := ok_of_bind h
    cases h
    obtain ⟨hfield, hsum⟩ := addressField_of_readAddress haddress
    have hempty : ¬ address.isEmpty := by
      intro hempty
      rw [String.isEmpty_iff.1 hempty] at hsum
      exact absurd hsum (by decide)
    refine ⟨by rw [tokenField, if_neg hempty, hfield], ?_⟩
    rintro _ ⟨⟩
    exact hsum

theorem hashField_of_readHash {field : Bytes} {hash : Json} (h : readHash field = .ok hash) :
    hashField hash = .ok field ∧ (hash = .null ∨ ∃ units, units ≠ [] ∧ hash = .str units) := by
  unfold readHash at h
  split at h
  · next hnone =>
    cases h
    exact ⟨by rw [List.isEmpty_iff.1 hnone]; rfl, .inl rfl⟩
  · next hsome =>
    split at h
    · next text htext =>
      cases h
      have hbytes := Utf8.toUTF8_of_read? htext
      have hunits : Utf16.ofString text ≠ [] := by
        intro hnone
        have hempty := Utf16.toText_ofString text
        rw [hnone] at hempty
        rw [← hbytes, ← hempty] at hsome
        exact hsome rfl
      have hgiven : (Json.str (Utf16.ofString text)).truthy = true := by
        rw [Json.truthy, Bool.not_eq_true', List.isEmpty_eq_false_iff]
        exact hunits
      refine ⟨?_, .inr ⟨_, hunits, rfl⟩⟩
      rw [Json.text, hashField, if_pos hgiven]
      simp only [Utf16.toString?_ofString, hbytes]
    · cases h

/-- A receipt that was read is written in twelve bytes at most for each of its own. -/
theorem receiptField_of_readReceipt {field : Bytes} {receipt : Json}
    (h : readReceipt field = .ok receipt) :
    receipt.Distinct ∧ (receipt.Integral → ∃ again, receiptField receipt = .ok again ∧
      again.length ≤ 12 * field.length) := by
  unfold readReceipt at h
  split at h
  · cases h
    exact ⟨.null, fun _ => ⟨[], rfl, Nat.zero_le _⟩⟩
  split at h
  · next found hfound =>
    cases h
    obtain ⟨text, htext, hparsed⟩ := Option.bind_eq_some_iff.1 hfound
    obtain ⟨hsound, hroom⟩ := Json.sound_parse? hparsed
    refine ⟨hsound.distinct, fun integral => ?_⟩
    have hlength := Utf8.length_le_of_read? htext
    have hrender := Json.length_render_le integral
    unfold receiptField
    split
    · exact ⟨[], rfl, Nat.zero_le _⟩
    · refine ⟨_, if_pos hsound.writable, ?_⟩
      rw [List.length_map]
      omega
  · cases h

/-! ## What was read -/

/-- What holds of the fields that an invoice was read from. -/
structure ReadFrom (invoice : Invoice) (fields : Fields) : Prop where
  version : fields.version = recordVersion
  address : readAddress fields.address = .ok invoice.address
  wallet : fields.wallet = invoice.wallet.bytes ∧ invoice.wallet.bytes ≠ []
  amount : fields.amount = invoice.amount.toNat
  method : readMethod fields.token = .ok invoice.method
  message : fields.message = invoice.message
  paidAt : invoice.paidAt = .int fields.paidAt
  expires : invoice.expires = .int fields.expires
  receipt : readReceipt fields.receipt = .ok invoice.receipt
  hash : readHash fields.hash = .ok invoice.hash

theorem readFrom_of_ofFields {invoice : Invoice} {fields : Fields}
    (h : ofFields fields = .ok invoice) : invoice.ReadFrom fields := by
  unfold ofFields at h
  split at h
  · cases h
  · next hversion =>
    split at h
    · cases h
    · next hwallet =>
      obtain ⟨receipt, hreceipt, h⟩ := ok_of_bind h
      obtain ⟨hash, hhash, h⟩ := ok_of_bind h
      obtain ⟨method, hmethod, h⟩ := ok_of_bind h
      obtain ⟨address, haddress, h⟩ := ok_of_bind h
      split at h
      · cases h
      · next amount hamount =>
        cases h
        unfold Amount.ofNat? at hamount
        split at hamount
        · cases hamount
          exact {
            version := not_not.1 hversion, address := haddress
            wallet := ⟨rfl, fun hnone => hwallet (List.isEmpty_iff.2 hnone)⟩, amount := rfl
            method := hmethod, message := rfl, paidAt := rfl, expires := rfl
            receipt := hreceipt, hash := hhash }
        · cases hamount

/-- What the fields of an invoice are that was read: its addresses are in checksum form, its key,
and its hash where there is one, are not empty, and its amount has at most 256 bits. -/
structure Settled (invoice : Invoice) : Prop where
  address : Address.checksum? invoice.address = some invoice.address
  wallet : invoice.wallet.bytes ≠ []
  amount : invoice.amount.toNat < Nat.pow 2 256
  token : ∀ address, invoice.method = .token address → Address.checksum? address = some address
  hash : invoice.hash = .null ∨ ∃ units, units ≠ [] ∧ invoice.hash = .str units

/-- What is read from bytes is read from the fields of the item that they are the written form
of. -/
theorem exists_readFrom {data : Bytes} {invoice : Invoice} (h : decode data = .ok invoice) :
    ∃ item fields, item.encode = data ∧ Fields.ofItem item = .ok fields ∧
      invoice.ReadFrom fields := by
  unfold decode at h
  split at h
  · next item hitem =>
    obtain ⟨fields, hfields, h⟩ := ok_of_bind h
    rw [Rlp.decode?_eq_some_iff, Rlp.Item.encode?] at hitem
    split at hitem
    · exact ⟨item, fields, Option.some.inj hitem, hfields, readFrom_of_ofFields h⟩
    · cases hitem
  · cases h

variable {invoice : Invoice} {fields : Fields}

theorem ReadFrom.settled (h : invoice.ReadFrom fields) : invoice.Settled where
  address := (addressField_of_readAddress h.address).2
  wallet := h.wallet.2
  amount := invoice.amount.isLt
  token := (tokenField_of_readMethod h.method).2
  hash := (hashField_of_readHash h.hash).2

/-- What was read has the fields it was read from, but for the receipt. -/
theorem ReadFrom.writes {again : Bytes} (h : invoice.ReadFrom fields)
    (hagain : receiptField invoice.receipt = .ok again) :
    invoice.Writes { fields with receipt := again } where
  version := h.version
  address := (addressField_of_readAddress h.address).1
  wallet := h.wallet.1
  amount := h.amount
  token := (tokenField_of_readMethod h.method).1
  message := h.message
  paidAt := h.paidAt
  expires := h.expires
  receipt := hagain
  hash := (hashField_of_readHash h.hash).1

/-- What was read comes back the same from its record if it has one. -/
theorem ReadFrom.canonical {again : Bytes} (h : invoice.ReadFrom fields)
    (integral : invoice.receipt.Integral) (hagain : invoice.encode = .ok again) :
    invoice.Canonical where
  wallet := h.wallet.2
  token address hmethod := Address.isText_of_checksum? (h.settled.token address hmethod)
  paidAt := ⟨_, h.paidAt⟩
  expires := ⟨_, h.expires⟩
  receipt := (receiptField_of_readReceipt h.receipt).1.plain integral
  hash := h.settled.hash.imp_right fun ⟨units, _, hunits⟩ => ⟨units, hunits⟩
  checksum := h.settled.address
  tokenChecksum := by
    cases hmethod : invoice.method with
    | native => rfl
    | token address => rw [checksumMethod?, h.settled.token address hmethod]; rfl
  hashGiven := by
    rcases h.settled.hash with hnone | ⟨units, hunits, hhash⟩
    · rw [hnone]
      intro hempty
      cases hempty
    · rw [hhash]
      rintro ⟨⟩
      exact hunits rfl
  encodable := ⟨again, hagain⟩

/-- What was read has a record, unless that were longer than a payload can be. -/
theorem ReadFrom.encode {item : Rlp.Item} (h : invoice.ReadFrom fields)
    (hfields : Fields.ofItem item = .ok fields) (integral : invoice.receipt.Integral) :
    (∃ again, invoice.encode = .ok again) ∨
      invoice.encode = .error unserializable ∧ Nat.pow 2 60 ≤ item.encode.length := by
  obtain ⟨receipt, hreceipt, hlength⟩ := (receiptField_of_readReceipt h.receipt).2 integral
  have hrenders := (h.writes hreceipt).renders
  rw [encode_eq_of_renders hrenders]
  cases hrecord : ({ fields with receipt }).record.encode? with
  | some again => exact .inl ⟨again, rfl⟩
  | none =>
    refine .inr ⟨rfl, Nat.le_of_not_lt fun hshort => ?_⟩
    -- The other fields take no more room than before, and the receipt twelve times as much.
    have hbound : Rlp.lengthBound = 16 * Nat.pow 2 60 := rfl
    have hsize := size_of_ofItem hfields
    have hfield := length_receipt_le fields
    have hagain := size_of_receipt fields receipt
    have hpayload : (Rlp.encodeBytes receipt).length ≤ receipt.length + 9 :=
      Rlp.length_encodeBytes_le (by omega)
    have hfits : ({ fields with receipt }).size < Rlp.lengthBound := by omega
    obtain ⟨again, hagain⟩ := Rlp.encode?_strings hfits
    exact absurd (hrecord.symm.trans hagain) nofun

/-- What is read from a record is settled, and if its receipt has no doubles it comes back the same
from its own record, which from then on stays as it is. A receipt may be spelled longer in that
record, and one that is longer than the format allows is refused; it takes 2^60 bytes at least to
get there. -/
theorem decode_settles {data : Bytes} (h : decode data = .ok invoice) :
    invoice.Settled ∧ (invoice.receipt.Integral →
      (∃ again stored, invoice.encode = .ok again ∧ decode again = .ok stored ∧
        stored.Same invoice ∧ stored.encode = .ok again) ∨
      invoice.encode = .error unserializable ∧ Nat.pow 2 60 ≤ data.length) := by
  obtain ⟨item, fields, rfl, hfields, hfrom⟩ := exists_readFrom h
  refine ⟨hfrom.settled, fun integral => ?_⟩
  rcases hfrom.encode hfields integral with ⟨again, hagain⟩ | hlong
  · obtain ⟨stored, hstored, hsame⟩ := (hfrom.canonical integral hagain).comes_back hagain
    obtain ⟨-, _, -, -, hagainFrom⟩ := exists_readFrom hstored
    have hencode := encode_of_same hsame (receiptField_of_readReceipt hagainFrom.receipt).1
    exact .inl ⟨again, stored, hagain, hstored, hsame, hencode.trans hagain⟩
  · exact .inr hlong

/-- A receipt that has other blanks than are written, a key twice and half a pair. -/
def looseReceipt : List Char :=
  ['\x7b', '"', 'b', '"', ':', '1', ' ', ',', '"', 'a', '"', ':', '"', '\\', 'u', 'D', '8', '0',
    '0', '"', ',', '"', 'b', '"', ':', '2', '\x7d']

/-- The fields of an unpaid invoice with such a receipt. -/
def looseFields : Fields where
  version := recordVersion
  address := List.replicate 19 0 ++ [0xab]
  wallet := [1, 2]
  amount := 2500
  token := List.replicate 19 0 ++ [0xcd]
  message := [0xff]
  paidAt := 0
  expires := 1700000000
  receipt := looseReceipt.map fun c => UInt8.ofNat c.toNat
  hash := []

/-- The record of these fields, but with an empty list for the time of payment. -/
def looseRecord : Rlp.Item :=
  .list [.ofNat recordVersion, .bytes looseFields.address, .bytes looseFields.wallet,
    .ofNat looseFields.amount, .bytes looseFields.token, .bytes looseFields.message, .list [],
    .ofNat looseFields.expires, .bytes looseFields.receipt, .bytes looseFields.hash]

theorem ofItem_looseRecord : Fields.ofItem looseRecord = .ok looseFields := by
  simp only [looseRecord, Fields.ofItem, natField_ofNat, bytesField]
  rfl

theorem parse_looseReceipt : Json.parse? looseReceipt =
    some (.obj [([0x62], .int 2), ([0x61], .str [0xd800])]) := by
  decide +kernel

theorem readReceipt_loose : readReceipt looseFields.receipt =
    .ok (.obj [([0x62], .int 2), ([0x61], .str [0xd800])]) := by
  have hascii : looseReceipt.all (fun c => c.toNat < 0x80) = true := by decide +kernel
  rw [List.all_eq_true] at hascii
  simp only [decide_eq_true_eq] at hascii
  rw [readReceipt, if_neg (by decide +kernel), looseFields, Utf8.read?_ascii hascii,
    Option.bind_some, String.toList_ofList, parse_looseReceipt]

/-- The record is read. -/
theorem exists_decode_looseRecord : ∃ invoice, decode looseRecord.encode = .ok invoice ∧
    invoice.receipt = .obj [([0x62], .int 2), ([0x61], .str [0xd800])] := by
  have hfits : looseRecord.fits = true := by decide +kernel
  have hmethod : readMethod looseFields.token =
      .ok (.token (Address.checksum looseFields.token)) := by
    rw [readMethod, if_neg (by decide +kernel), readAddress, if_pos (by decide +kernel)]
    rfl
  have haddress : readAddress looseFields.address =
      .ok (Address.checksum looseFields.address) := by
    rw [readAddress, if_pos (by decide +kernel)]
  have hhash : readHash looseFields.hash = .ok .null := rfl
  have hamount : Amount.ofNat? looseFields.amount = some 2500 :=
    Amount.ofNat?_of_lt (by decide)
  have hversion : ¬ looseFields.version ≠ recordVersion := by decide
  have hwallet : ¬ looseFields.wallet.isEmpty = true := by decide
  rw [decode, Rlp.decode?_encode hfits]
  simp only [ofItem_looseRecord, ofFields, if_neg hversion, if_neg hwallet, readReceipt_loose,
    hhash, hmethod, haddress, hamount, bind, Except.bind]
  exact ⟨_, rfl, rfl⟩

/-- A record that no invoice is written as. What is read from it comes back the same from its own
record. -/
theorem decode_settles_loose : (∀ other : Invoice, other.encode ≠ .ok looseRecord.encode) ∧
    ∃ invoice, decode looseRecord.encode = .ok invoice ∧ invoice.receipt ≠ .null ∧
      ∃ again stored, invoice.encode = .ok again ∧ decode again = .ok stored ∧
        stored.Same invoice ∧ stored.encode = .ok again := by
  refine ⟨fun other hother => ?_, ?_⟩
  · have hfits : looseRecord.fits = true := by decide +kernel
    obtain ⟨fields, -, hrecord⟩ := exists_renders hother
    have hsame := Rlp.decode?_of_encode? hrecord
    rw [Rlp.decode?_encode hfits] at hsame
    -- a number is written as a byte string, never as a list
    simp only [looseRecord, Fields.record, Rlp.Item.ofNat, Option.some.injEq,
      Rlp.Item.list.injEq, List.cons.injEq, reduceCtorEq, false_and, and_false] at hsame
  · obtain ⟨invoice, hdecode, hreceipt⟩ := exists_decode_looseRecord
    have integral : invoice.receipt.Integral := by
      rw [hreceipt]
      exact .obj (List.forall_mem_cons.2 ⟨.int 2, List.forall_mem_singleton.2 (.str _)⟩)
    have hshort : ¬ Nat.pow 2 60 ≤ looseRecord.encode.length := by decide +kernel
    rcases (decode_settles hdecode).2 integral with hagain | ⟨-, hlong⟩
    · exact ⟨invoice, hdecode, by simp [hreceipt], hagain⟩
    · exact absurd hlong hshort

end Invoice

end DepositGateway
