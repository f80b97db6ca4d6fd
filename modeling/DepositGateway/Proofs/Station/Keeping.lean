import DepositGateway.Proofs.Station.Premises
import DepositGateway.Proofs.Store.Appends
import DepositGateway.Proofs.Store.Unreadable

/-!
# What a station keeps

What the two stores keep looks the same from outside: invoices under keys. Setting adds the invoice
that was set, as far as the store can give it back, and nothing else does.

* `Backend.entries`: the invoices that are kept.
* `Backend.Gives`: what a store gives back of an invoice that was put into it.
  `Backend.Restores`: what it does not change of a payment method.
  `Backend.Gives.sameTerms`: that has all that the invoice was created with.
* `Station.mem_of_listed`, `Station.mem_entries_set`, `Station.mem_entries_delete`: what is kept
  after each operation was kept before it or is what was set.
-/

namespace DepositGateway

variable {σ ω α : Type}

/-- Nothing was paid for the invoice yet, and no sweep was made for it. -/
structure Invoice.Outstanding (invoice : Invoice) : Prop where
  pending : invoice.isPending = true
  receipt : invoice.receipt = .null
  hash : invoice.hash = .null

namespace Backend

/-- The invoices that are kept and can be read. -/
def entries : Backend σ → σ → List (InvoiceKey × Invoice)
  | memory, invoices => invoices.entries
  | table, content => Store.readable content

/-- What a store gives back of an invoice that was put into it: the invoice, or what its record
holds. -/
def Gives : Backend σ → Invoice → Invoice → Prop
  | memory, made, given => given = made
  | table, made, given => ∃ data, made.encode = .ok data ∧ Invoice.decode data = .ok given

/-- The store gives a payment method back as it is. A record holds the address of a token in bytes,
so it is given back in checksum form, as `PaymentMethod.ofToken` makes it. -/
def Restores : Backend σ → PaymentMethod → Prop
  | memory, _ => True
  | table, method => Invoice.checksumMethod? method = some method

theorem restores_native (backend : Backend σ) : backend.Restores .native := by
  cases backend with
  | memory => trivial
  | table => rfl

/-- Whatever is made the method of a token is given back as it is. -/
theorem restores_of_ofToken (backend : Backend σ) {rule : Address.CaseRule} {address : String}
    {method : PaymentMethod} (h : PaymentMethod.ofToken rule address = .ok method) :
    backend.Restores method := by
  cases backend with
  | memory => trivial
  | table =>
    rw [PaymentMethod.ofToken] at h
    split at h
    · next text htext =>
      cases h
      show (Address.checksum? text).map PaymentMethod.token = some (.token text)
      rw [Address.checksum?_checksum? (Address.accepted?_eq_some_iff.1 htext).1]
      rfl
    · cases h

/-- An invoice has all that another one was created with. -/
structure SameTerms (backend : Backend σ) (made given : Invoice) : Prop where
  address : given.address = made.address
  wallet : given.wallet = made.wallet
  amount : given.amount = made.amount
  method : backend.Restores made.method → given.method = made.method
  message : given.message = made.message
  expires : given.expires = made.expires

variable {backend : Backend σ} {made given : Invoice}

theorem wholeSeconds_eq {time : Json} {value : Int} {seconds : Nat} (htime : time = .int value)
    (h : Invoice.wholeSeconds time = .ok seconds) : Json.int seconds = time := by
  rw [htime, Invoice.wholeSeconds_int, Except.ok.injEq] at h
  rw [htime, h]

/-- What is given back of an invoice as it was created is outstanding, on the same terms. -/
theorem Gives.sameTerms (h : backend.Gives made given)
    (checksum : Address.checksum? made.address = some made.address)
    (paidAt : made.paidAt = .int 0) (expires : ∃ moment : Int, made.expires = .int moment)
    (receipt : made.receipt = .null) (hash : made.hash = .null) :
    backend.SameTerms made given ∧ given.Outstanding := by
  cases backend with
  | memory =>
    cases h
    refine ⟨⟨rfl, rfl, rfl, fun _ => rfl, rfl, rfl⟩, ?_, receipt, hash⟩
    rw [Invoice.isPending, paidAt]
    rfl
  | table =>
    obtain ⟨data, hencode, hdecode⟩ := h
    have hwallet := Invoice.wallet_of_decode hencode hdecode
    obtain ⟨stored, hstored, hrecalls⟩ := Invoice.exists_decode_of_encode hwallet hencode
    obtain rfl : given = stored := Except.ok.inj (hdecode.symm.trans hstored)
    obtain ⟨paid, hpaid, hpaidAt⟩ := hrecalls.paidAt
    obtain ⟨last, hlast, hexpires⟩ := hrecalls.expires
    obtain ⟨moment, hmoment⟩ := expires
    refine ⟨{
      address := Option.some.inj (hrecalls.address.symm.trans checksum)
      wallet := hrecalls.wallet, amount := hrecalls.amount
      method := fun hmethod => hrecalls.method _ hmethod
      message := hrecalls.message
      expires := hexpires.trans (wholeSeconds_eq hmoment hlast) }, ?_, hrecalls.receipt receipt,
      hrecalls.hash hash⟩
    rw [Invoice.isPending, hpaidAt, wholeSeconds_eq paidAt hpaid, paidAt]
    rfl

theorem entries_empty (backend : Backend σ) : backend.entries backend.empty = [] := by
  cases backend <;> rfl

end Backend

/-! ## Operations -/

namespace Keyed

variable {κ : Type} [DecidableEq κ]

theorem mem_of_mem_putIn {key : κ} {value : α} {entries : List (κ × α)} {entry : κ × α}
    (h : entry ∈ putIn key value entries) : entry ∈ entries ∨ entry = (key, value) := by
  induction entries with
  | nil => exact .inr (List.mem_singleton.mp h)
  | cons first rest ih =>
    rw [putIn] at h
    split at h
    · next hkey =>
      rcases List.mem_cons.mp h with rfl | h
      · exact .inr (by rw [hkey])
      · exact .inl (List.mem_cons_of_mem _ h)
    · rcases List.mem_cons.mp h with rfl | h
      · exact .inl List.mem_cons_self
      · exact (ih h).imp_left (List.mem_cons_of_mem _)

end Keyed

namespace Store

variable {cell : Cell ω Table} {journal : Journal ω} {w : ω}

/-- A table that is gone reports so and refuses. -/
theorem apply_withTable_gone (operation : Action ω α) (h : (cell.look w).isGone = true) :
    (withTable cell journal operation).apply w =
      (.error (.store (.communicate "Could not communicate with database")),
        journal { level := .error, source := .store, text := "Db interaction error" } w) := by
  simp only [withTable, Action.apply_bind, Cell.apply_read, h]
  rfl

/-- Rows that are listed hold what is listed. -/
theorem mem_of_readRows {rows : List Row} {w' : ω} {entries : List (InvoiceKey × Invoice)}
    (h : (readRows journal rows).apply w = (.ok entries, w')) :
    ∀ entry ∈ entries, ∃ row ∈ rows, row.readable? = some entry := by
  induction rows generalizing w entries with
  | nil =>
    cases h
    simp
  | cons row rest ih =>
    rw [readRows, Action.apply_attempt_bind, readRow] at h
    cases hdecode : Invoice.decode row.data with
    | ok invoice =>
      rw [hdecode] at h
      obtain ⟨others, after, hrest, hlist⟩ := Action.ok_of_apply_bind h
      cases hlist
      rintro entry (_ | ⟨_, hentry⟩)
      · exact ⟨row, List.mem_cons_self, by rw [Row.readable?, hdecode]; rfl⟩
      · obtain ⟨other, hother, hread⟩ := ih hrest entry hentry
        exact ⟨other, List.mem_cons_of_mem _ hother, hread⟩
    | error fault =>
      rw [hdecode] at h
      dsimp only [Action.fail, Action.apply_ofExcept] at h
      intro entry hentry
      split at h
      · next hread => cases hread
      · obtain ⟨_, after, -, hrest⟩ := Action.ok_of_apply_bind h
        obtain ⟨other, hother, hread⟩ := ih hrest entry hentry
        exact ⟨other, List.mem_cons_of_mem _ hother, hread⟩
      · cases h

end Store

namespace Station

variable {station : Station ω} {backend : Backend σ} {w w' : Premises σ ω}

/-- Where the store keeps the same, the same invoices are kept. -/
theorem Undisturbed.entries (h : Undisturbed w w') :
    backend.entries w'.shelf = backend.entries w.shelf := congrArg backend.entries h

/-- Listing leaves everything where it is. -/
theorem shelf_getAll (station : Station ω) (backend : Backend σ) (w : Premises σ ω) :
    ((station.store backend).getAll.apply w).2.shelf = w.shelf := by
  cases backend with
  | memory => rfl
  | table =>
    show (((Store.ofTable _ _).getAll).apply w).2.shelf = _
    rw [Store.ofTable, Action.apply_bind]
    cases hgone : w.shelf.isGone with
    | true => rw [Store.apply_withTable_gone _ hgone]; rfl
    | false =>
      rw [Store.apply_withTable _ hgone, Cell.apply_read]
      exact @Store.look_readRows _ Premises.shelved (Premises.journal station.journal)
        (fun _ _ => rfl) _ w

/-- What is listed is kept. -/
theorem mem_of_listed {entries : List (InvoiceKey × Invoice)}
    (h : (station.store backend).getAll.apply w = (.ok entries, w')) :
    ∀ entry ∈ entries, entry ∈ backend.entries w.shelf := by
  cases backend with
  | memory =>
    cases h
    exact fun _ hentry => hentry
  | table =>
    obtain ⟨rows, after, hrows, hread⟩ := Action.ok_of_apply_bind h
    cases hgone : w.shelf.isGone with
    | true =>
      rw [Store.apply_withTable_gone _ hgone] at hrows
      cases hrows
    | false =>
      rw [Store.apply_withTable _ hgone, Cell.apply_read] at hrows
      cases hrows
      intro entry hentry
      obtain ⟨row, hrow, hreadable⟩ := Store.mem_of_readRows hread entry hentry
      exact List.mem_filterMap.mpr ⟨row, List.mem_mergeSort.mp hrow, hreadable⟩

/-- What is kept after something was set was kept before, or is what was set. -/
theorem mem_entries_set {key : String} {made : Invoice} {answer : Except Fault Unit}
    (h : ((station.store backend).set (.text key) made).apply w = (answer, w'))
    {entry : InvoiceKey × Invoice} (hentry : entry ∈ backend.entries w'.shelf) :
    entry ∈ backend.entries w.shelf ∨
      answer = .ok () ∧ entry.1 = .text key ∧ backend.Gives made entry.2 := by
  cases backend with
  | memory =>
    rw [store, Backend.store, Store.apply_ofMemory_set] at h
    cases h
    rcases Keyed.mem_of_mem_putIn hentry with hentry | rfl
    · exact .inl hentry
    · exact .inr ⟨rfl, rfl, rfl⟩
  | table =>
    rw [store, Backend.store, Store.ofTable, Action.apply_bind, Action.apply_ofExcept] at h
    cases hencode : made.encode with
    | error fault =>
      rw [hencode] at h
      cases h
      exact .inl hentry
    | ok data =>
      rw [hencode] at h
      dsimp only at h
      cases hgone : w.shelf.isGone with
      | true =>
        rw [Store.putRow, Store.apply_withTable_gone _ hgone] at h
        cases h
        exact .inl hentry
      | false =>
        rw [Store.apply_putRow key data hgone] at h
        cases h
        obtain ⟨row, hrow, hreadable⟩ := List.mem_filterMap.mp hentry
        obtain ⟨hkey, hdecode⟩ := Row.eq_of_readable? hreadable
        rcases Rows.mem_of_mem_put hrow with hold | ⟨rfl, rfl⟩
        · exact .inl (List.mem_filterMap.mpr ⟨row, hold, hreadable⟩)
        · exact .inr ⟨rfl, hkey, row.data, hencode, hdecode⟩

/-- What is kept after something was deleted was kept before. -/
theorem mem_entries_delete {key : String} {answer : Except Fault Unit}
    (h : ((station.store backend).delete (.text key)).apply w = (answer, w'))
    {entry : InvoiceKey × Invoice} (hentry : entry ∈ backend.entries w'.shelf) :
    entry ∈ backend.entries w.shelf := by
  cases backend with
  | memory =>
    rw [store, Backend.store, Store.apply_ofMemory_delete] at h
    split at h <;> cases h
    · change entry ∈ Keyed.eraseIn (.text key) w.shelf.entries at hentry
      rw [Keyed.eraseIn_eq] at hentry
      exact (List.mem_filter.mp hentry).1
    · exact hentry
  | table =>
    rw [store, Backend.store, Store.ofTable, Action.apply_bind] at h
    cases hgone : w.shelf.isGone with
    | true =>
      rw [Store.eraseRow, Store.apply_withTable_gone _ hgone] at h
      cases h
      exact hentry
    | false =>
      rw [Store.apply_eraseRow key hgone] at h
      obtain ⟨row, hrow, hreadable⟩ : ∃ row ∈ (w.shelf.rows.erase key).entries,
          row.readable? = some entry := by
        dsimp only at h
        split at h <;> cases h <;> exact List.mem_filterMap.mp hentry
      exact List.mem_filterMap.mpr ⟨row, (List.mem_filter.mp hrow).1, hreadable⟩

end Station

end DepositGateway
