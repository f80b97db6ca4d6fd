import DepositGateway.Proofs.Address.Checksum
import DepositGateway.Proofs.Rlp.Length
import DepositGateway.Sweep.Transaction

/-!
# Signed transactions are read back

* `SignedTransaction.ofBytes?`: the transaction that signed bytes are, of either kind. Numbers must
  be in shortest form, and the chain id of the first kind is taken out of the parity.
* `Draft.sign_reads`: what a draft is signed to is read as a transaction with the numbers of the
  draft, its recipient and no data.
* `Draft.signLegacy_ok`, `Draft.signFeeMarket_ok`: short numbers can be signed.
-/

namespace DepositGateway

/-- What is offered for a unit of gas. -/
inductive OfferedFees where
  | legacy (gasPrice : Nat)
  | feeMarket (maxFee priorityFee : Nat)
  deriving DecidableEq

/-- The most that is paid for a unit of gas. -/
def OfferedFees.perGas : OfferedFees → Nat
  | legacy gasPrice => gasPrice
  | feeMarket maxFee _ => maxFee

/-- A transaction as signed bytes show it. -/
structure SignedTransaction where
  chainId : Nat
  nonce : Nat
  fees : OfferedFees
  gas : Nat
  recipient : Bytes
  value : Nat
  data : Bytes
  signature : Signature
  deriving DecidableEq

namespace SignedTransaction

/-- The number of an item, which must be in shortest form. -/
def numberOf? : Rlp.Item → Option Nat
  | .bytes payload => if payload.head? = some 0 then none else some (Bytes.toNat payload)
  | .list _ => none

/-- The bytes of an item. -/
def bytesOf? : Rlp.Item → Option Bytes
  | .bytes payload => some payload
  | .list _ => none

/-- A transaction of the first kind: `v` is 35 and twice the chain id, and one for an odd parity. -/
def ofLegacy? : Rlp.Item → Option SignedTransaction
  | .list [nonce, gasPrice, gas, recipient, value, data, v, r, s] => do
    let v ← numberOf? v
    if v < 35 then none
    else some {
      chainId := (v - 35) / 2
      nonce := ← numberOf? nonce
      fees := .legacy (← numberOf? gasPrice)
      gas := ← numberOf? gas
      recipient := ← bytesOf? recipient
      value := ← numberOf? value
      data := ← bytesOf? data
      signature := ⟨← numberOf? r, ← numberOf? s, (v - 35) % 2⟩ }
  | _ => none

/-- A fee-market transaction without an access list. -/
def ofFeeMarket? : Rlp.Item → Option SignedTransaction
  | .list [chainId, nonce, priorityFee, maxFee, gas, recipient, value, data, .list [], parity, r,
      s] => do
    some {
      chainId := ← numberOf? chainId
      nonce := ← numberOf? nonce
      fees := .feeMarket (← numberOf? maxFee) (← numberOf? priorityFee)
      gas := ← numberOf? gas
      recipient := ← bytesOf? recipient
      value := ← numberOf? value
      data := ← bytesOf? data
      signature := ⟨← numberOf? r, ← numberOf? s, ← numberOf? parity⟩ }
  | _ => none

/-- The transaction of signed bytes; those of a fee-market transaction begin with 2. -/
def ofBytes? : Bytes → Option SignedTransaction
  | [] => none
  | first :: rest =>
    if first = 2 then (Rlp.decode? rest).bind ofFeeMarket?
    else (Rlp.decode? (first :: rest)).bind ofLegacy?

@[simp] theorem numberOf?_ofNat (value : Nat) : numberOf? (.ofNat value) = some value := by
  simp [numberOf?, Rlp.Item.ofNat, Bytes.head?_ofNat, Bytes.toNat_ofNat]

@[simp] theorem bytesOf?_bytes (payload : Bytes) : bytesOf? (.bytes payload) = some payload := rfl

/-- Bytes that are read as a list do not begin with 2, which stands for itself. -/
theorem ofBytes?_of_list {raw : Bytes} {items : List Rlp.Item}
    (h : Rlp.decode? raw = some (.list items)) : ofBytes? raw = ofLegacy? (.list items) := by
  cases raw with
  | nil => simp [Rlp.decode?, Rlp.item?, Rlp.announced?] at h
  | cons first rest =>
    have hfirst : first ≠ 2 := by
      rintro rfl
      have htwo : (2 : UInt8).toNat < 0x80 := by decide
      simp only [Rlp.decode?, Rlp.item?, Rlp.announced?, if_pos htwo, Option.bind_eq_bind,
        Option.bind_some] at h
      split at h <;> cases h
    simp [ofBytes?, hfirst, h]

theorem fees_of_ofLegacy? {item : Rlp.Item} {tx : SignedTransaction}
    (h : ofLegacy? item = some tx) : ∃ gasPrice, tx.fees = .legacy gasPrice := by
  unfold ofLegacy? at h
  split at h
  · simp only [Option.bind_eq_bind, Option.bind_eq_some_iff, Option.ite_none_left_eq_some,
      Option.some.injEq] at h
    obtain ⟨_, _, _, _, _, gasPrice, _, _, _, _, _, _, _, _, _, _, _, _, _, rfl⟩ := h
    exact ⟨gasPrice, rfl⟩
  · cases h

theorem fees_of_ofFeeMarket? {item : Rlp.Item} {tx : SignedTransaction}
    (h : ofFeeMarket? item = some tx) : ∃ maxFee tip, tx.fees = .feeMarket maxFee tip := by
  unfold ofFeeMarket? at h
  split at h
  · simp only [Option.bind_eq_bind, Option.bind_eq_some_iff, Option.some.injEq] at h
    obtain ⟨_, _, _, _, maxFee, _, tip, _, _, _, _, _, _, _, _, _, _, _, _, _, _, _, rfl⟩ := h
    exact ⟨maxFee, tip, rfl⟩
  · cases h

/-- The first byte tells the kind of a transaction. -/
theorem head?_eq_two_iff {raw : Bytes} {tx : SignedTransaction} (h : ofBytes? raw = some tx) :
    raw.head? = some 2 ↔ ∃ maxFee tip, tx.fees = .feeMarket maxFee tip := by
  cases raw with
  | nil => cases h
  | cons first rest =>
    rw [List.head?_cons, Option.some.injEq]
    simp only [ofBytes?] at h
    by_cases hfirst : first = 2
    · rw [if_pos hfirst] at h
      obtain ⟨item, -, hitem⟩ := Option.bind_eq_some_iff.mp h
      exact iff_of_true hfirst (fees_of_ofFeeMarket? hitem)
    · rw [if_neg hfirst] at h
      obtain ⟨item, -, hitem⟩ := Option.bind_eq_some_iff.mp h
      obtain ⟨gasPrice, hfees⟩ := fees_of_ofLegacy? hitem
      refine iff_of_false hfirst ?_
      rintro ⟨maxFee, tip, hmarket⟩
      rw [hmarket] at hfees
      cases hfees

end SignedTransaction

namespace Draft

theorem written_ok {item : Rlp.Item} {bytes : Bytes} (h : written item = .ok bytes) :
    Rlp.decode? bytes = some item := by
  unfold written at h
  split at h
  · next hw =>
    cases h
    exact Rlp.decode?_of_encode? hw
  · cases h

theorem parity_lt (scalar : Nat) (digest : Bytes) : (Signature.sign scalar digest).parity < 2 := by
  unfold Signature.sign
  dsimp only
  split <;> exact Nat.mod_lt _ (by decide)

theorem signLegacy_reads {scalar nonce gasPrice gas value chainId : Nat} {recipient raw : Bytes}
    (h : signLegacy scalar nonce gasPrice gas value recipient (some chainId) = .ok raw) :
    ∃ signature, SignedTransaction.ofBytes? raw = some
      { chainId, nonce, fees := .legacy gasPrice, gas, recipient, value, data := [],
        signature } := by
  obtain ⟨unsigned, -, hsigned⟩ := ok_of_bind h
  have hparity := parity_lt scalar (keccak256 unsigned)
  generalize Signature.sign scalar (keccak256 unsigned) = signature at hsigned hparity
  have hread := SignedTransaction.ofBytes?_of_list (written_ok hsigned)
  refine ⟨signature, hread.trans ?_⟩
  have hchain : (35 + 2 * chainId + signature.parity - 35) / 2 = chainId := by omega
  have hodd : (35 + 2 * chainId + signature.parity - 35) % 2 = signature.parity := by omega
  have hlarge : ¬ 35 + 2 * chainId + signature.parity < 35 := by omega
  simp [SignedTransaction.ofLegacy?, numberItem, hchain, hodd, hlarge]

theorem signFeeMarket_reads {scalar chainId nonce priorityFee maxFee gas value : Nat}
    {recipient raw : Bytes}
    (h : signFeeMarket scalar chainId nonce priorityFee maxFee gas value recipient = .ok raw) :
    ∃ signature, SignedTransaction.ofBytes? raw = some
      { chainId, nonce, fees := .feeMarket maxFee priorityFee, gas, recipient, value, data := [],
        signature } := by
  obtain ⟨unsigned, -, hrest⟩ := ok_of_bind h
  obtain ⟨signed, hsigned, hraw⟩ := ok_of_bind hrest
  cases hraw
  refine ⟨Signature.sign scalar (keccak256 (2 :: unsigned)), ?_⟩
  simp [SignedTransaction.ofBytes?, written_ok hsigned, SignedTransaction.ofFeeMarket?, numberItem]

theorem quantity_ok {field : Json} {value : Int} (h : quantity field = .ok value) :
    quantity? field = some value := by
  unfold quantity at h
  split at h <;> cases h
  assumption

theorem natural_ok {value : Int} {number : Nat} (h : natural value = .ok number) :
    value = number := by
  unfold natural at h
  split at h <;> cases h
  omega

theorem quantity?_num {number : Number} {value : Int} (h : quantity? (.num number) = some value) :
    number = .int value := by
  cases number with
  | int other =>
    cases h
    rfl
  | double x => cases h

/-- The fees of a signed transaction are those of the draft. -/
def FeesRead : FeeFields → OfferedFees → Prop
  | .legacy gasPrice, .legacy offered => quantity? gasPrice = some (offered : Int)
  | .feeMarket maxFee priorityFee, .feeMarket offered tip =>
    maxFee = .int offered ∧ priorityFee = .int tip
  | _, _ => False

/-- What a draft for a known chain is signed to is a transaction with the numbers of the draft. -/
theorem sign_reads {draft : Draft} {scalar : Nat} {raw : Bytes} (h : draft.sign scalar = .ok raw)
    (hc : draft.chainId ≠ .null) :
    ∃ tx, SignedTransaction.ofBytes? raw = some tx ∧
      quantity? draft.chainId = some (tx.chainId : Int) ∧
      quantity? draft.nonce = some (tx.nonce : Int) ∧
      quantity? draft.gas = some (tx.gas : Int) ∧ draft.value = (tx.value : Int) ∧
      tx.recipient = (Address.ofText? draft.recipient).getD [] ∧ tx.data = [] ∧
      FeesRead draft.fees tx.fees := by
  obtain ⟨nonce, hnonce, h⟩ := ok_of_bind h
  obtain ⟨gas, hgas, h⟩ := ok_of_bind h
  have hnonce := quantity_ok hnonce
  have hgas := quantity_ok hgas
  cases hfees : draft.fees with
  | legacy gasPrice =>
    simp only [hfees, if_neg hc] at h
    obtain ⟨price, hprice, h⟩ := ok_of_bind h
    obtain ⟨chainId?, hchain, h⟩ := ok_of_bind h
    obtain ⟨nonce', hnonce', h⟩ := ok_of_bind h
    obtain ⟨price', hprice', h⟩ := ok_of_bind h
    obtain ⟨gas', hgas', h⟩ := ok_of_bind h
    obtain ⟨value', hvalue', h⟩ := ok_of_bind h
    obtain ⟨chainId'?, hchain', h⟩ := ok_of_bind h
    obtain ⟨chainId, hid, rfl⟩ := ok_of_map hchain
    obtain ⟨chainId', hid', rfl⟩ := ok_of_map hchain'
    obtain ⟨signature, hread⟩ := signLegacy_reads h
    refine ⟨_, hread, ?_, ?_, ?_, natural_ok hvalue', rfl, rfl, ?_⟩
    · rw [quantity_ok hid, natural_ok hid']
    · rw [hnonce, natural_ok hnonce']
    · rw [hgas, natural_ok hgas']
    · rw [FeesRead, quantity_ok hprice, natural_ok hprice']
  | feeMarket maxFee priorityFee =>
    simp only [hfees] at h
    obtain ⟨chainId, hchain, h⟩ := ok_of_bind h
    obtain ⟨most, hmost, h⟩ := ok_of_bind h
    obtain ⟨tip, htip, h⟩ := ok_of_bind h
    obtain ⟨chainId', hchain', h⟩ := ok_of_bind h
    obtain ⟨nonce', hnonce', h⟩ := ok_of_bind h
    obtain ⟨tip', htip', h⟩ := ok_of_bind h
    obtain ⟨most', hmost', h⟩ := ok_of_bind h
    obtain ⟨gas', hgas', h⟩ := ok_of_bind h
    obtain ⟨value', hvalue', h⟩ := ok_of_bind h
    obtain ⟨signature, hread⟩ := signFeeMarket_reads h
    refine ⟨_, hread, ?_, ?_, ?_, natural_ok hvalue', rfl, rfl, ?_, ?_⟩
    · rw [quantity_ok hchain, natural_ok hchain']
    · rw [hnonce, natural_ok hnonce']
    · rw [hgas, natural_ok hgas']
    · rw [quantity?_num (quantity_ok hmost), natural_ok hmost']
    · rw [quantity?_num (quantity_ok htip), natural_ok htip']

/-! ## Short numbers -/

theorem numberItem_slight {value : Nat} (h : Bytes.Short value) : (numberItem value).Slight := by
  show 128 * (Bytes.ofNat value).length ≤ Rlp.lengthBound
  have : 256 * (Bytes.ofNat value).length < Rlp.lengthBound := h
  omega

theorem short_of_lt {value : Nat} (h : value < Nat.pow 256 32) : Bytes.Short value := by
  have := Bytes.length_ofNat_le h
  have hbound := Rlp.lengthBound_eq
  show 256 * (Bytes.ofNat value).length < Rlp.lengthBound
  omega

theorem sign_short (scalar : Nat) (digest : Bytes) :
    Bytes.Short (Signature.sign scalar digest).r ∧ Bytes.Short (Signature.sign scalar digest).s ∧
      Bytes.Short (Signature.sign scalar digest).parity := by
  have horder : Secp256k1.order < Nat.pow 256 32 := by decide
  have hpos : 0 < Secp256k1.order := by decide
  have hparity := parity_lt scalar digest
  refine ⟨short_of_lt ?_, short_of_lt ?_, short_of_lt (by omega)⟩
  · refine Nat.lt_trans ?_ horder
    unfold Signature.sign
    dsimp only
    split <;> exact Nat.mod_lt _ hpos
  · refine Nat.lt_of_le_of_lt ?_ horder
    unfold Signature.sign
    dsimp only
    split
    · exact Nat.le_of_lt (Nat.mod_lt _ hpos)
    · exact Nat.sub_le _ _

/-- A short chain id hidden in a parity is one byte longer at most. -/
theorem hidden_slight {chainId parity : Nat} (h : Bytes.Short chainId) (hp : parity < 2) :
    (numberItem (35 + 2 * chainId + parity)).Slight := by
  have hlt := Bytes.lt_pow_length chainId
  have hnext : 35 + 2 * chainId + parity < Nat.pow 256 ((Bytes.ofNat chainId).length + 1) := by
    have hpow : Nat.pow 256 ((Bytes.ofNat chainId).length + 1) =
        Nat.pow 256 (Bytes.ofNat chainId).length * 256 := rfl
    omega
  have hlength := Bytes.length_ofNat_le hnext
  have hbound := Rlp.lengthBound_eq
  have hshort : 256 * (Bytes.ofNat chainId).length < Rlp.lengthBound := h
  show 128 * (Bytes.ofNat _).length ≤ Rlp.lengthBound
  omega

theorem written_slight {items : List Rlp.Item} (h : ∀ item ∈ items, item.Slight)
    (hl : items.length ≤ 16) : ∃ bytes, written (.list items) = .ok bytes := by
  obtain ⟨bytes, hb⟩ := Rlp.encode?_list h hl
  exact ⟨bytes, by rw [written, hb]⟩

/-- A recipient that is no address is left empty. -/
theorem length_recipient_le (recipient : String) :
    ((Address.ofText? recipient).getD []).length ≤ 20 := by
  cases ha : Address.ofText? recipient with
  | none => simp
  | some address => exact Nat.le_of_eq (Address.length_of_ofText? ha)

theorem signLegacy_ok {scalar nonce gasPrice gas value : Nat} {recipient : Bytes}
    {chainId? : Option Nat} (hn : Bytes.Short nonce) (hp : Bytes.Short gasPrice)
    (hg : Bytes.Short gas) (hv : Bytes.Short value) (hc : ∀ chainId ∈ chainId?, Bytes.Short chainId)
    (hr : recipient.length ≤ 20) :
    ∃ raw, signLegacy scalar nonce gasPrice gas value recipient chainId? = .ok raw := by
  have hzero : Bytes.Short 0 := short_of_lt (by decide)
  have hrecipient : (Rlp.Item.bytes recipient).Slight :=
    Nat.le_trans (Nat.mul_le_mul_left 128 hr) (by decide)
  have hempty : (Rlp.Item.bytes []).Slight := by simp [Rlp.Item.Slight]
  have hfields : ∀ item ∈ [numberItem nonce, numberItem gasPrice, numberItem gas,
      .bytes recipient, numberItem value, .bytes []], item.Slight := by
    simp [numberItem_slight, hn, hp, hg, hv, hrecipient, hempty]
  -- What is signed and what is hidden in the parity depend on the chain, the rest does not.
  have hsigned {extra : List Rlp.Item} (base : Nat) (hextra : ∀ item ∈ extra, item.Slight)
      (hlength : extra.length ≤ 3) (hbase : ∀ parity < 2, (numberItem (base + parity)).Slight) :
      ∃ raw, (do
        let fields := [numberItem nonce, numberItem gasPrice, numberItem gas, .bytes recipient,
          numberItem value, .bytes []]
        let unsigned ← written (.list (fields ++ extra))
        let signature := Signature.sign scalar (keccak256 unsigned)
        written (.list (fields ++
          [numberItem (base + signature.parity), numberItem signature.r,
            numberItem signature.s]))) = .ok raw := by
    obtain ⟨unsigned, hu⟩ : ∃ unsigned, written (.list ([numberItem nonce, numberItem gasPrice,
        numberItem gas, .bytes recipient, numberItem value, .bytes []] ++ extra)) =
        .ok unsigned := by
      refine written_slight (fun item hitem => ?_) (by simp; omega)
      exact (List.mem_append.mp hitem).elim (hfields item) (hextra item)
    obtain ⟨hsr, hss, -⟩ := sign_short scalar (keccak256 unsigned)
    obtain ⟨raw, hraw⟩ : ∃ raw, written (.list ([numberItem nonce, numberItem gasPrice,
        numberItem gas, .bytes recipient, numberItem value, .bytes []] ++
        [numberItem (base + (Signature.sign scalar (keccak256 unsigned)).parity),
        numberItem (Signature.sign scalar (keccak256 unsigned)).r,
        numberItem (Signature.sign scalar (keccak256 unsigned)).s])) = .ok raw := by
      refine written_slight (fun item hitem => ?_) (by simp)
      refine (List.mem_append.mp hitem).elim (hfields item) fun hitem => ?_
      have hparity := hbase _ (parity_lt scalar (keccak256 unsigned))
      simp only [List.mem_cons, List.not_mem_nil, or_false] at hitem
      rcases hitem with rfl | rfl | rfl
      · exact hparity
      · exact numberItem_slight hsr
      · exact numberItem_slight hss
    refine ⟨raw, ?_⟩
    simp only [hu]
    exact hraw
  cases chainId? with
  | none =>
    have hnone : ∀ item ∈ ([] : List Rlp.Item), item.Slight := by simp
    refine hsigned 27 hnone (by simp) fun parity hparity => ?_
    have hlt : 27 + parity < 29 := by omega
    exact numberItem_slight (short_of_lt (Nat.lt_trans hlt (by decide)))
  | some chainId =>
    have hshort := hc chainId rfl
    exact hsigned (35 + 2 * chainId) (by simp [numberItem_slight, hshort, hzero]) (by simp)
      fun parity hparity => hidden_slight hshort hparity

theorem signFeeMarket_ok {scalar chainId nonce priorityFee maxFee gas value : Nat}
    {recipient : Bytes} (hc : Bytes.Short chainId) (hn : Bytes.Short nonce)
    (ht : Bytes.Short priorityFee) (hm : Bytes.Short maxFee) (hg : Bytes.Short gas)
    (hv : Bytes.Short value) (hr : recipient.length ≤ 20) :
    ∃ raw, signFeeMarket scalar chainId nonce priorityFee maxFee gas value recipient = .ok raw := by
  have hrecipient : (Rlp.Item.bytes recipient).Slight :=
    Nat.le_trans (Nat.mul_le_mul_left 128 hr) (by decide)
  have hempty : (Rlp.Item.bytes []).Slight := by simp [Rlp.Item.Slight]
  have hlist : (Rlp.Item.list []).Slight := rfl
  obtain ⟨unsigned, hu⟩ : ∃ unsigned, written (.list [numberItem chainId, numberItem nonce,
      numberItem priorityFee, numberItem maxFee, numberItem gas, .bytes recipient, numberItem value,
      .bytes [], .list []]) = .ok unsigned := by
    refine written_slight ?_ (by simp)
    simp [numberItem_slight, hc, hn, ht, hm, hg, hv, hrecipient, hempty, hlist]
  obtain ⟨hsr, hss, hsp⟩ := sign_short scalar (keccak256 (2 :: unsigned))
  obtain ⟨signed, hsigned⟩ : ∃ signed, written (.list [numberItem chainId, numberItem nonce,
      numberItem priorityFee, numberItem maxFee, numberItem gas, .bytes recipient, numberItem value,
      .bytes [], .list [],
      numberItem (Signature.sign scalar (keccak256 (2 :: unsigned))).parity,
      numberItem (Signature.sign scalar (keccak256 (2 :: unsigned))).r,
      numberItem (Signature.sign scalar (keccak256 (2 :: unsigned))).s]) = .ok signed := by
    refine written_slight ?_ (by simp)
    simp [numberItem_slight, hc, hn, ht, hm, hg, hv, hsr, hss, hsp, hrecipient, hempty, hlist]
  refine ⟨2 :: signed, ?_⟩
  unfold signFeeMarket
  simp only [List.cons_append, List.nil_append, hu]
  show (written _ >>= _) = _
  rw [hsigned]
  rfl

end Draft

end DepositGateway
