import DepositGateway.Proofs.Store.Durable
import DepositGateway.Proofs.Store.Volatile

/-!
# The two stores are the same ordered map

Keys are texts of whole characters, and receipts may nest to any depth. A key with half of a
surrogate pair and the stack limit of the interpreter are outside the model.

* `Store.replies_agree`: begun empty, the volatile store and the durable store reply alike to any
  requests, and as the list of their entries does.
-/

namespace DepositGateway

namespace Store

/-- Begun empty, both stores reply to canonical requests as a list of entries does, the volatile one
to the letter. In that list keys are distinct, a key has the invoice that it was last set to unless
it was deleted since, and a request that fails changes nothing. -/
theorem replies_agree {ω ψ : Type} {memory : Cell ω (Keyed InvoiceKey Invoice)}
    {table : Cell ψ Table} (journal : Journal ψ) (hm : memory.Lawful) (ht : table.Lawful)
    {w : ω} {v : ψ} (hw : memory.look w = {}) (hv : table.look v = {})
    {requests : List StoreRequest} (hr : ∀ request ∈ requests, request.Canonical) :
    List.Forall₂ Agree ((ofTable table journal).replies requests v)
        ((ofMemory memory).replies requests w) ∧
      (ofMemory memory).replies requests w = Listing.replies requests [] ∧
      ((Listing.afterAll requests).map Prod.fst).Nodup ∧
      (∀ key, Listing.find? key (Listing.afterAll requests) = Listing.lastSet key requests) ∧
      ∀ request fault, Listing.reply (Listing.afterAll requests) request = .error fault →
        Listing.after (Listing.afterAll requests) request = Listing.afterAll requests := by
  have hempty : (memory.look w).entries = List.map Listing.keyed [] := by rw [hw]; rfl
  have hholds : (table.look v).Holds [] := by
    rw [hv]
    exact ⟨rfl, Rows.ascending_empty, .nil⟩
  have hmemory := replies_ofMemory hm hempty requests
  exact ⟨hmemory ▸ replies_ofTable ht hholds hr, hmemory, Listing.nodup_afterAll requests,
    fun key => Listing.find?_afterAll key requests, fun _ _ => Listing.after_of_error⟩

/-- An unpaid invoice over a small amount. -/
def unpaid (amount : Fin 3) : Invoice where
  address := Address.checksum (List.replicate 20 0xab)
  wallet := ⟨[1, 2]⟩
  amount := ⟨amount, Nat.lt_trans amount.isLt (by decide)⟩
  expires := .int 60

/-- The fields of `unpaid`. -/
def unpaidFields (amount : Fin 3) : Invoice.Fields where
  version := 1
  address := List.replicate 20 0xab
  wallet := [1, 2]
  amount
  token := []
  message := []
  paidAt := 0
  expires := 60
  receipt := []
  hash := []

theorem unpaid_canonical (amount : Fin 3) : (unpaid amount).Canonical := by
  have htext : Address.ofText? (unpaid amount).address = some (unpaidFields amount).address :=
    Address.ofText?_checksum rfl
  have hwrites : (unpaid amount).Writes (unpaidFields amount) :=
    ⟨rfl, by rw [Invoice.addressField, htext], rfl, rfl, rfl, rfl, rfl, rfl, rfl, rfl⟩
  have hfits : ∀ amount : Fin 3, (unpaidFields amount).record.fits = true := by decide +kernel
  exact {
    wallet := List.cons_ne_nil 1 [2], token := fun _ h => by cases h
    paidAt := ⟨0, rfl⟩, expires := ⟨60, rfl⟩, receipt := .null, hash := .inl rfl
    checksum := by rw [Address.checksum?, htext]; rfl
    tokenChecksum := rfl, hashGiven := fun h => by cases h
    encodable := ⟨_, Invoice.encode_of_writes hwrites (if_pos (hfits amount))⟩ }

/-- Two keys are set, the first one is replaced in its place and deleted, and comes back last. -/
theorem replies_agree_reinserted :
    let requests : List StoreRequest := [.latest, .set "a" (unpaid 0), .set "b" (unpaid 1),
      .set "a" (unpaid 2), .latest, .delete "a", .get "a", .set "a" (unpaid 0), .getAll]
    List.Forall₂ Agree ((ofTable .whole fun _ table => table).replies requests {})
      [.error (.store (.notFound "")), .ok .done, .ok .done, .ok .done,
        .ok (.entry (.text "b", unpaid 1)), .ok .done, .error (.store (.notFound "a")),
        .ok .done, .ok (.entries [(.text "b", unpaid 1), (.text "a", unpaid 0)])] := by
  intro requests
  have hr : ∀ request ∈ requests, request.Canonical := by
    simp [requests, StoreRequest.Canonical, unpaid_canonical]
  obtain ⟨hsame, hmemory, _⟩ :=
    replies_agree (fun _ table => table) Cell.lawful_whole Cell.lawful_whole rfl rfl hr
  rw [hmemory] at hsame
  exact hsame

end Store

end DepositGateway
