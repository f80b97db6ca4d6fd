import DepositGateway.Invoice.Record
import DepositGateway.Proofs.Address.Checksum
import DepositGateway.Proofs.Json.RoundTrip
import DepositGateway.Proofs.Rlp.RoundTrip

/-!
# A record holds the invoice it was written from

* `Invoice.Recordable`: an invoice that a record can hold without loss.
* `Invoice.Restores`: what an invoice has in common with the one that its record holds. Addresses
  come back in checksum form, the members of a receipt in the order of their keys, and an empty
  hash as none.
* `Invoice.exists_writes`, `Invoice.ofFields_of_writes`: writing gives fields, and they restore it.
* `Invoice.decode_encode`: the record of a recordable invoice is read, and restores it.
-/

namespace DepositGateway

namespace Invoice

/-- An invoice that a record can hold: it carries a key, its token has the text of an address, its
times are naturals, its receipt is plain and its hash a text or none. -/
structure Recordable (invoice : Invoice) : Prop where
  wallet : invoice.wallet.bytes ≠ []
  token : ∀ address, invoice.method = .token address → Address.isText address = true
  paidAt : ∃ seconds : Nat, invoice.paidAt = .int seconds
  expires : ∃ seconds : Nat, invoice.expires = .int seconds
  receipt : invoice.receipt.Plain
  hash : invoice.hash = .null ∨ ∃ units, invoice.hash = .str units

/-- The payment method with the address of its token in checksum form. -/
def checksumMethod? : PaymentMethod → Option PaymentMethod
  | .native => some .native
  | .token address => (Address.checksum? address).map .token

/-- What an invoice that was read from a record has in common with the one that was written. -/
structure Restores (invoice stored : Invoice) : Prop where
  address : Address.checksum? invoice.address = some stored.address
  wallet : stored.wallet = invoice.wallet
  amount : stored.amount = invoice.amount
  method : checksumMethod? invoice.method = some stored.method
  message : stored.message = invoice.message
  paidAt : stored.paidAt = invoice.paidAt
  expires : stored.expires = invoice.expires
  receipt : stored.receipt.alike invoice.receipt = true
  hash : stored.hash = if invoice.hash = .str [] then .null else invoice.hash

/-! ## Field by field -/

/-- An address that was written is read in checksum form. -/
theorem readAddress_addressField {address : String} {field : Bytes}
    (h : addressField address = .ok field) :
    readAddress field = .ok (Address.checksum field) ∧
      Address.checksum? address = some (Address.checksum field) := by
  unfold addressField at h
  split at h
  · next bytes hbytes =>
    cases h
    exact ⟨if_pos (Address.length_of_ofText? hbytes), by rw [Address.checksum?, hbytes]; rfl⟩
  · cases h

/-- A payment method that was written is read with its address in checksum form. -/
theorem readMethod_tokenField {method : PaymentMethod} {field : Bytes}
    (htoken : ∀ address, method = .token address → Address.isText address = true)
    (h : tokenField method = .ok field) :
    ∃ found, readMethod field = .ok found ∧ checksumMethod? method = some found := by
  cases method with
  | native =>
    cases h
    exact ⟨.native, rfl, rfl⟩
  | token address =>
    have hempty : ¬ address.isEmpty := by
      intro hempty
      rw [String.isEmpty_iff] at hempty
      exact absurd (hempty ▸ htoken address rfl) (by decide)
    rw [tokenField, if_neg hempty] at h
    obtain ⟨hread, hsum⟩ := readAddress_addressField h
    refine ⟨.token (Address.checksum field), ?_, ?_⟩
    · unfold readMethod
      split
      · next hnone =>
        rw [List.isEmpty_iff.mp hnone] at hread
        cases hread
      · rw [hread]
        rfl
    · rw [checksumMethod?, hsum]
      rfl

/-- A receipt that was written is read, a plain one as an alike one. -/
theorem readReceipt_receiptField {receipt : Json} {field : Bytes}
    (h : receiptField receipt = .ok field) :
    ∃ found, readReceipt field = .ok found ∧
      (receipt.Plain → found.alike receipt = true) := by
  unfold receiptField at h
  split at h
  · next hnull =>
    cases h
    subst hnull
    exact ⟨.null, rfl, fun _ => rfl⟩
  split at h
  · next hwritable =>
    cases h
    obtain ⟨found, hparse⟩ := Json.exists_parse?_render hwritable
    have hread : Utf8.read? (receipt.render.map fun c => UInt8.ofNat c.toNat) =
        some (String.ofList receipt.render) := Utf8.read?_ascii (Json.isAscii_print _)
    refine ⟨found, ?_, fun plain => ?_⟩
    · unfold readReceipt
      split
      · next hnone =>
        obtain ⟨first, tail, hprint, _⟩ := Json.print_opens receipt.sortKeys
        rw [Json.render, hprint] at hnone
        cases hnone
      · rw [hread, Option.bind_some, String.toList_ofList, hparse]
    · obtain rfl : receipt.sortKeys = found :=
        Option.some.inj ((Json.parse?_render plain hwritable).symm.trans hparse)
      exact Json.alike_sortKeys plain
  · cases h

/-- A hash that was written is read as it was, but an empty one as none. -/
theorem readHash_hashField {hash : Json} {field : Bytes}
    (htext : hash = .null ∨ ∃ units, hash = .str units) (h : hashField hash = .ok field) :
    readHash field = .ok (if hash = .str [] then .null else hash) := by
  rcases htext with rfl | ⟨units, rfl⟩
  · cases h
    rfl
  cases units with
  | nil =>
    cases h
    rfl
  | cons unit units =>
    unfold hashField at h
    rw [if_pos (show (Json.str (unit :: units)).truthy = true from rfl)] at h
    dsimp only at h
    split at h
    · next text htext =>
      cases h
      have hunits := Utf16.ofString_of_toString? htext
      have hread := Utf8.read?_toUTF8 text
      unfold readHash
      split
      · next hnone =>
        -- only the empty text has no bytes, and it has no units
        rw [List.isEmpty_iff.mp hnone] at hread
        obtain rfl : "" = text := Option.some.inj hread
        cases hunits
      · rw [hread, if_neg (by simp), ← hunits]
        rfl
    · cases h

/-! ## The whole record -/

theorem natField_ofNat (value : Nat) : natField (.ofNat value) = .ok value := by
  rw [Rlp.Item.ofNat, natField, if_neg (Bytes.head?_ofNat value), Bytes.toNat_ofNat]

/-- The record of ten fields. -/
def Fields.record (fields : Fields) : Rlp.Item :=
  .list [.ofNat fields.version, .bytes fields.address, .bytes fields.wallet,
    .ofNat fields.amount, .bytes fields.token, .bytes fields.message, .ofNat fields.paidAt,
    .ofNat fields.expires, .bytes fields.receipt, .bytes fields.hash]

/-- A record holds the fields it was made from. -/
theorem ofItem_record (fields : Fields) : Fields.ofItem fields.record = .ok fields := by
  simp only [Fields.record, Fields.ofItem, natField_ofNat, bytesField]
  rfl

/-- The fields of an invoice, its times cut off to whole seconds. -/
structure Renders (invoice : Invoice) (fields : Fields) : Prop where
  version : fields.version = recordVersion
  address : addressField invoice.address = .ok fields.address
  wallet : fields.wallet = invoice.wallet.bytes
  amount : fields.amount = invoice.amount.toNat
  token : tokenField invoice.method = .ok fields.token
  message : fields.message = invoice.message
  paidAt : wholeSeconds invoice.paidAt = .ok fields.paidAt
  expires : wholeSeconds invoice.expires = .ok fields.expires
  receipt : receiptField invoice.receipt = .ok fields.receipt
  hash : hashField invoice.hash = .ok fields.hash

/-- An invoice that has fields has the record of these, unless a payload is too long. -/
theorem encode_eq_of_renders {invoice : Invoice} {fields : Fields} (h : invoice.Renders fields) :
    invoice.encode = fields.record.encode?.elim (.error unserializable) .ok := by
  have htimes : ¬ ((fields.paidAt : Int) < 0 ∨ (fields.expires : Int) < 0) := by omega
  rw [Fields.record, h.version, h.wallet, h.amount, h.message]
  simp only [encode, h.address, h.token, h.receipt, h.hash, h.paidAt, h.expires, bind,
    Except.bind, if_neg htimes, Int.toNat_natCast]
  split
  · next hrecord => rw [hrecord, Option.elim_some]
  · next hrecord => rw [hrecord, Option.elim_none]

theorem encode_of_renders {invoice : Invoice} {fields : Fields} {bytes : Bytes}
    (h : invoice.Renders fields) (hrecord : fields.record.encode? = some bytes) :
    invoice.encode = .ok bytes := by
  rw [encode_eq_of_renders h, hrecord, Option.elim_some]

/-- An invoice that has a record has fields. -/
theorem exists_renders {invoice : Invoice} {bytes : Bytes} (h : invoice.encode = .ok bytes) :
    ∃ fields, invoice.Renders fields ∧ fields.record.encode? = some bytes := by
  unfold encode at h
  obtain ⟨address, haddress, h⟩ := ok_of_bind h
  obtain ⟨token, htoken, h⟩ := ok_of_bind h
  obtain ⟨paidAt, hpaidAt, h⟩ := ok_of_bind h
  obtain ⟨expires, hexpires, h⟩ := ok_of_bind h
  obtain ⟨receipt, hreceipt, h⟩ := ok_of_bind h
  obtain ⟨hash, hhash, h⟩ := ok_of_bind h
  split at h
  · cases h
  · next htimes =>
    rw [not_or, Int.not_lt, Int.not_lt] at htimes
    obtain ⟨paidAt, rfl⟩ := Int.eq_ofNat_of_zero_le htimes.1
    obtain ⟨expires, rfl⟩ := Int.eq_ofNat_of_zero_le htimes.2
    refine ⟨{ version := recordVersion, address, wallet := invoice.wallet.bytes,
              amount := invoice.amount.toNat, token, message := invoice.message, paidAt, expires,
              receipt, hash },
      ⟨rfl, haddress, rfl, rfl, htoken, rfl, hpaidAt, hexpires, hreceipt, hhash⟩, ?_⟩
    dsimp only [Int.toNat_natCast] at h
    split at h
    · next record hrecord =>
      cases h
      exact hrecord
    · cases h

/-- The fields of an invoice with times in whole seconds. -/
structure Writes (invoice : Invoice) (fields : Fields) : Prop where
  version : fields.version = recordVersion
  address : addressField invoice.address = .ok fields.address
  wallet : fields.wallet = invoice.wallet.bytes
  amount : fields.amount = invoice.amount.toNat
  token : tokenField invoice.method = .ok fields.token
  message : fields.message = invoice.message
  paidAt : invoice.paidAt = .int fields.paidAt
  expires : invoice.expires = .int fields.expires
  receipt : receiptField invoice.receipt = .ok fields.receipt
  hash : hashField invoice.hash = .ok fields.hash

theorem wholeSeconds_int (value : Int) : wholeSeconds (.int value) = .ok value := rfl

theorem Writes.renders {invoice : Invoice} {fields : Fields} (h : invoice.Writes fields) :
    invoice.Renders fields :=
  { h with
    paidAt := by rw [h.paidAt, wholeSeconds_int]
    expires := by rw [h.expires, wholeSeconds_int] }

/-- An invoice has the record of its fields, unless a payload is too long. -/
theorem encode_of_writes {invoice : Invoice} {fields : Fields} {bytes : Bytes}
    (h : invoice.Writes fields) (hrecord : fields.record.encode? = some bytes) :
    invoice.encode = .ok bytes := encode_of_renders h.renders hrecord

/-- An invoice with times in whole seconds that has a record has fields. -/
theorem exists_writes {invoice : Invoice} {bytes : Bytes} {paidAt expires : Nat}
    (hpaidAt : invoice.paidAt = .int paidAt) (hexpires : invoice.expires = .int expires)
    (h : invoice.encode = .ok bytes) :
    ∃ fields, invoice.Writes fields ∧ fields.record.encode? = some bytes := by
  obtain ⟨fields, hrenders, hrecord⟩ := exists_renders h
  have hpaid := hrenders.paidAt
  have hlast := hrenders.expires
  rw [hpaidAt, wholeSeconds_int, Except.ok.injEq, Int.natCast_inj] at hpaid
  rw [hexpires, wholeSeconds_int, Except.ok.injEq, Int.natCast_inj] at hlast
  exact ⟨fields, { hrenders with paidAt := hpaid ▸ hpaidAt, expires := hlast ▸ hexpires }, hrecord⟩

/-- The bytes of a record are read as its fields are. -/
theorem decode_record {fields : Fields} {bytes : Bytes}
    (h : fields.record.encode? = some bytes) : decode bytes = ofFields fields := by
  rw [decode, Rlp.decode?_of_encode? h]
  exact congrArg (· >>= ofFields) (ofItem_record fields)

/-- The fields of an invoice that can be held without loss restore it. -/
theorem ofFields_of_writes {invoice : Invoice} {fields : Fields} (hrecord : invoice.Recordable)
    (h : invoice.Writes fields) :
    ∃ stored, ofFields fields = .ok stored ∧ invoice.Restores stored := by
  obtain ⟨hto, hsum⟩ := readAddress_addressField h.address
  obtain ⟨method, hmethod, hsummed⟩ := readMethod_tokenField hrecord.token h.token
  obtain ⟨receipt, hreceipt, halike⟩ := readReceipt_receiptField h.receipt
  have hhash := readHash_hashField hrecord.hash h.hash
  have hwallet : ¬ invoice.wallet.bytes.isEmpty :=
    fun hempty => hrecord.wallet (List.isEmpty_iff.mp hempty)
  refine ⟨{ address := Address.checksum fields.address, wallet := invoice.wallet,
            amount := invoice.amount, method, message := invoice.message,
            paidAt := invoice.paidAt, expires := invoice.expires, receipt,
            hash := if invoice.hash = .str [] then .null else invoice.hash }, ?_, ?_⟩
  · simp only [ofFields, h.version, ne_eq, not_true_eq_false, if_false, h.wallet, if_neg hwallet,
      hreceipt, hhash, hmethod, hto, h.amount, Amount.ofNat?_of_lt invoice.amount.isLt, h.message,
      h.paidAt, h.expires]
    rfl
  · exact {
      address := hsum, wallet := rfl, amount := rfl, method := hsummed, message := rfl
      paidAt := rfl, expires := rfl, receipt := halike hrecord.receipt, hash := rfl }

/-- The record of an invoice that can be held without loss is read, and restores the invoice. -/
theorem decode_encode {invoice : Invoice} {bytes : Bytes} (hrecord : invoice.Recordable)
    (h : invoice.encode = .ok bytes) :
    ∃ stored, decode bytes = .ok stored ∧ invoice.Restores stored := by
  obtain ⟨paidAt, hpaidAt⟩ := hrecord.paidAt
  obtain ⟨expires, hexpires⟩ := hrecord.expires
  obtain ⟨fields, hwrites, hencoded⟩ := exists_writes hpaidAt hexpires h
  rw [decode_record hencoded]
  exact ofFields_of_writes hrecord hwrites

/-- An address neither marked nor in checksum form. -/
def sweptToken : String := "00000000000000000000000000000000000000CD"

/-- An invoice that was paid in a token and swept. -/
def swept : Invoice where
  address := "0x00000000000000000000000000000000000000ab"
  wallet := ⟨[1, 2]⟩
  amount := 2500
  method := .token sweptToken
  message := [0xff]
  paidAt := .int 7
  expires := .int 1700000000
  receipt := .object [("status", .int 1), ("logs", .arr [.null, .bool true, .text "é"])]
  hash := .text ""

theorem swept_receipt : receiptField swept.receipt =
    .ok "\x7b\"logs\": [null, true, \"\\u00e9\"], \"status\": 1\x7d".toUTF8.data.toList := by
  have hsorted : swept.receipt.sortKeys =
      .object [("logs", .arr [.null, .bool true, .text "é"]), ("status", .int 1)] := by
    have hlate : (Utf16.ofString "status").precedes (Utf16.ofString "logs") = false := by
      decide +kernel
    simp [swept, Json.object, Json.text, Json.sortKeys, Json.sortMembers, Json.sortItems,
      List.mergeSort, hlate]
  rw [receiptField, if_neg (by decide), if_pos (by decide +kernel), Json.render, hsorted]
  exact congrArg Except.ok (by decide +kernel)

theorem swept_recordable : swept.Recordable where
  wallet := by decide
  token address h := by
    cases h
    decide
  paidAt := ⟨7, rfl⟩
  expires := ⟨1700000000, rfl⟩
  receipt := by
    refine .obj (by decide) (List.forall_mem_cons.mpr ⟨.int 1, List.forall_mem_singleton.mpr ?_⟩)
    exact .arr (List.forall_mem_cons.mpr ⟨.null,
      List.forall_mem_cons.mpr ⟨.bool true, List.forall_mem_singleton.mpr (.str _)⟩⟩)
  hash := .inr ⟨_, rfl⟩

/-- The fields of `swept`. -/
def sweptFields : Fields where
  version := 1
  address := List.replicate 19 0 ++ [0xab]
  wallet := [1, 2]
  amount := 2500
  token := List.replicate 19 0 ++ [0xcd]
  message := [0xff]
  paidAt := 7
  expires := 1700000000
  receipt := "\x7b\"logs\": [null, true, \"\\u00e9\"], \"status\": 1\x7d".toUTF8.data.toList
  hash := []

theorem swept_writes : swept.Writes sweptFields where
  version := rfl
  address := by
    have h : Address.ofText? swept.address = some sweptFields.address := by decide
    rw [addressField, h]
  wallet := rfl
  amount := rfl
  token := by
    have h : Address.ofText? sweptToken = some sweptFields.token := by decide
    change tokenField (.token sweptToken) = _
    rw [tokenField, if_neg (by decide), addressField, h]
  message := rfl
  paidAt := rfl
  expires := rfl
  receipt := swept_receipt
  hash := rfl

/-- The address of the token and the deposit address of `swept` come back in checksum form, and its
empty hash as none. -/
theorem decode_encode_swept : ∃ bytes, swept.encode = .ok bytes ∧
    ∃ stored, decode bytes = .ok stored ∧ swept.Restores stored ∧ stored.hash = .null := by
  obtain ⟨bytes, hrecord⟩ : ∃ bytes, sweptFields.record.encode? = some bytes :=
    ⟨_, if_pos (by decide +kernel)⟩
  have hencode := encode_of_writes swept_writes hrecord
  obtain ⟨stored, hdecode, hrestores⟩ := decode_encode swept_recordable hencode
  exact ⟨bytes, hencode, stored, hdecode, hrestores, hrestores.hash⟩

end Invoice

end DepositGateway
