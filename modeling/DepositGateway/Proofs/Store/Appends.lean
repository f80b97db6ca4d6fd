import DepositGateway.Proofs.Invoice.Refusal
import DepositGateway.Proofs.Store.Volatile

/-!
# Stores that append what is new

* `Invoice.New`: an invoice as it is created.
* `Store.Appends`: a new invoice that a store takes under a key which it does not have becomes its
  last entry. `Store.ofMemory_appends`, `Store.ofTable_appends`: both stores do that.
-/

namespace DepositGateway

namespace Invoice

/-- An invoice as it is created: pending, with its addresses in checksum form. -/
structure New (invoice : Invoice) : Prop where
  checksum : Address.checksum? invoice.address = some invoice.address
  tokenChecksum : checksumMethod? invoice.method = some invoice.method
  wallet : invoice.wallet.bytes ≠ []
  paidAt : invoice.paidAt = .int 0
  expires : ∃ seconds : Nat, invoice.expires = .int seconds
  receipt : invoice.receipt = .null
  hash : invoice.hash = .null

variable {invoice : Invoice}

/-- A new invoice that has a record comes back the same from it. -/
theorem New.canonical (h : invoice.New) {data : Bytes} (hdata : invoice.encode = .ok data) :
    invoice.Canonical where
  wallet := h.wallet
  token address haddress := by
    have htoken := h.tokenChecksum
    rw [haddress, checksumMethod?, Option.map_eq_some_iff] at htoken
    obtain ⟨text, htext, -⟩ := htoken
    exact Address.isText_of_checksum? htext
  paidAt := ⟨0, h.paidAt⟩
  expires := h.expires
  receipt := by
    rw [h.receipt]
    exact .null
  hash := .inl h.hash
  checksum := h.checksum
  tokenChecksum := h.tokenChecksum
  hashGiven := by simp [h.hash]
  encodable := ⟨data, hdata⟩

/-- What is the same as a new invoice is that invoice. -/
theorem New.eq_of_same (h : invoice.New) {stored : Invoice} (hsame : stored.Same invoice) :
    stored = invoice := by
  have hreceipt : stored.receipt = invoice.receipt := by
    have halike := hsame.receipt
    rw [h.receipt] at halike ⊢
    generalize stored.receipt = receipt at halike
    cases receipt <;> simp_all [Json.alike]
  obtain ⟨haddress, hwallet, hamount, hmethod, hmessage, hpaidAt, hexpires, -, hhash⟩ := hsame
  obtain ⟨address, wallet, amount, method, message, paidAt, expires, receipt, hash⟩ := stored
  cases invoice
  simp_all

/-- It comes back as it is. -/
theorem New.decode_eq (h : invoice.New) {data : Bytes} (hdata : invoice.encode = .ok data) :
    decode data = .ok invoice := by
  obtain ⟨stored, hstored, hsame⟩ := (h.canonical hdata).comes_back hdata
  rw [hstored, h.eq_of_same hsame]

end Invoice

/-- A refused record is none that was not found. -/
theorem RecordFault.toFault_ne_notFound (fault : RecordFault) (key : String) :
    fault.toFault ≠ .store (.notFound key) := by
  cases fault with
  | version found =>
    rw [toFault]
    split <;> simp [Fault.badValue]
  | listForNumber => simp [toFault, Fault.badType]
  | _ => simp [toFault]

namespace Store

variable {ω : Type}

/-- `entries` lists what is stored: a new invoice that is taken under a key which is not there
becomes the last entry. -/
def Appends (store : Store ω) (entries : ω → List (InvoiceKey × Invoice)) : Prop :=
  ∀ {w w' : ω} {key : String} {invoice : Invoice}, invoice.New →
    ((store.get (.text key)).apply w).1 = .error (.store (.notFound key)) →
    (store.set (.text key) invoice).apply w = (.ok (), w') →
    entries w' = entries w ++ [(.text key, invoice)]

theorem ofMemory_appends {cell : Cell ω (Keyed InvoiceKey Invoice)} (hc : cell.Lawful) :
    (ofMemory cell).Appends fun w => (cell.look w).entries := by
  intro w w' key invoice _ habsent hset
  have hfresh : .text key ∉ (cell.look w).keys := by
    rw [← Keyed.find?_isSome]
    intro hsome
    simp only [ofMemory, Action.apply_bind, apply_found] at habsent
    obtain ⟨found, hfound⟩ := Option.isSome_iff_exists.1 hsome
    rw [hfound] at habsent
    cases habsent
  rw [apply_ofMemory_set] at hset
  cases hset
  dsimp only
  rw [hc.look_put]
  exact (Keyed.putIn_eq _ _ (cell.look w).distinct).trans (if_neg hfresh)

/-- The entries of a table: its rows that hold invoices, in the order of insertion. -/
def readable (table : Table) : List (InvoiceKey × Invoice) :=
  table.rows.entries.filterMap Row.readable?

theorem isGone_of_putRow {cell : Cell ω Table} {journal : Journal ω} {key : InvoiceKey}
    {data : Bytes} {w w' : ω} (h : (putRow cell journal key data).apply w = (.ok (), w')) :
    (cell.look w).isGone = false := by
  rw [putRow, withTable, Action.apply_bind, Cell.apply_read] at h
  cases hgone : (cell.look w).isGone with
  | false => rfl
  | true =>
    rw [hgone] at h
    cases h

theorem ofTable_appends {cell : Cell ω Table} (hc : cell.Lawful) (journal : Journal ω) :
    (ofTable cell journal).Appends fun w => readable (cell.look w) := by
  intro w w' key invoice hnew habsent hset
  obtain ⟨data, w₁, hdata, hset⟩ := Action.ok_of_apply_bind hset
  obtain ⟨hencode, rfl⟩ := Action.ok_of_apply_ofExcept hdata
  have hpresent := isGone_of_putRow hset
  have hfresh : key ∉ (cell.look w).rows.keys := by
    rw [← Rows.find?_isSome]
    intro hsome
    simp only [ofTable, Action.apply_bind, apply_findRow key hpresent] at habsent
    obtain ⟨row, hrow⟩ := Option.isSome_iff_exists.1 hsome
    simp only [hrow, readRow] at habsent
    cases hdecode : Invoice.decode row.data with
    | ok found =>
      rw [hdecode] at habsent
      cases habsent
    | error fault =>
      rw [hdecode] at habsent
      exact fault.toFault_ne_notFound key (Except.error.inj habsent)
  rw [apply_putRow key data hpresent] at hset
  cases hset
  dsimp only
  rw [hc.look_put, readable, Rows.put, dif_neg hfresh]
  have hreadable : Row.readable? ⟨(cell.look w).rows.nextNumber, key, data⟩ =
      some (.text key, invoice) := by
    rw [Row.readable?, hnew.decode_eq hencode]
    rfl
  dsimp only
  rw [List.filterMap_append, List.filterMap_cons_some hreadable]
  rfl

end Store

end DepositGateway
