import DepositGateway.Proofs.Ledger.Flaws

/-!
# Readings of a ledger and what the node replied

A reading gives an answer of its kind where the reply has no flaw, and ends in the fault of the flaw
where it has one.

* `BaseFeeFlaw`, `TransactionFlaw`, `SamplesFlaw`: which block has which flaw.
* `Ledger.Reading`: the eight readings. `Ledger.reading_ends`: how a reading ends.
-/

namespace DepositGateway

/-! ## Blocks -/

/-- The flaw of a block that the base fee is asked of. -/
inductive BaseFeeFlaw (block : NodeValue) : Flaw → Prop
  | block {flaw : Flaw} (flawed : KeyFlaw block flaw) : BaseFeeFlaw block flaw
  | fee {fee : NodeValue} {flaw : Flaw} (shown : block.Shows "baseFeePerGas" fee)
      (flawed : NumberFlaw fee flaw) : BaseFeeFlaw block flaw

/-- The flaw of a transaction that its two fees are asked of. A fee is not looked at where the other
one is not shown. -/
inductive TransactionFlaw (transaction : NodeValue) : Flaw → Prop
  | transaction {flaw : Flaw} (flawed : KeyFlaw transaction flaw) :
      TransactionFlaw transaction flaw
  | maxFee {maxFee priorityFee : NodeValue} {flaw : Flaw}
      (shown : transaction.Shows "maxFeePerGas" maxFee)
      (both : transaction.Shows "maxPriorityFeePerGas" priorityFee)
      (flawed : NumberFlaw maxFee flaw) : TransactionFlaw transaction flaw
  | priorityFee {maxFee priorityFee : NodeValue} {flaw : Flaw}
      (shown : transaction.Shows "maxFeePerGas" maxFee)
      (both : transaction.Shows "maxPriorityFeePerGas" priorityFee)
      (sound : ∀ flaw, ¬ NumberFlaw maxFee flaw) (flawed : NumberFlaw priorityFee flaw) :
      TransactionFlaw transaction flaw

/-- The flaw of transactions is that of the first one that has any. -/
inductive TransactionsFlaw : List NodeValue → Flaw → Prop
  | here {transaction : NodeValue} {rest : List NodeValue} {flaw : Flaw}
      (flawed : TransactionFlaw transaction flaw) : TransactionsFlaw (transaction :: rest) flaw
  | later {transaction : NodeValue} {rest : List NodeValue} {flaw : Flaw}
      (sound : ∀ flaw, ¬ TransactionFlaw transaction flaw) (flawed : TransactionsFlaw rest flaw) :
      TransactionsFlaw (transaction :: rest) flaw

/-- The flaw of a block that the fees of its transactions are asked of. -/
inductive SamplesFlaw (block : NodeValue) : Flaw → Prop
  | shape (none : ∀ list, block.member? "transactions" = some list → ¬ list.IsSequence) :
      SamplesFlaw block .wrongShape
  | transactions {list : NodeValue} {transactions : List NodeValue} {flaw : Flaw}
      (shown : block.member? "transactions" = some list)
      (runs : list.elements = .ok transactions) (flawed : TransactionsFlaw transactions flaw) :
      SamplesFlaw block flaw

namespace Ledger

open NodeValue

/-- The base fee is read from a block unless the block has a flaw. -/
theorem baseFeeOf_ends (block : NodeValue) : EndsBy (BaseFeeFlaw block) (baseFeeOf block) := by
  refine (get_ends "baseFeePerGas" block).bind
    (fun found flaw => found ≠ .null ∧ NumberFlaw found flaw) ?_ ?_
  · intro found hfound
    split
    · rintro flaw ⟨hgiven, -⟩
      exact hgiven rfl
    · next hgiven =>
      have hflawed : (fun flaw => found ≠ .null ∧ NumberFlaw found flaw) = NumberFlaw found := by
        funext flaw
        exact propext (and_iff_right hgiven)
      rw [hflawed]
      exact (toInteger_ends found).map Json.int
  · intro flaw
    constructor
    · rintro (hblock | ⟨hshown, hflaw⟩)
      · exact .inl hblock
      · obtain ⟨hget, hgiven⟩ := shows_iff.1 hshown
        exact .inr ⟨_, hget, hgiven, hflaw⟩
    · rintro (hblock | ⟨found, hget, hgiven, hflaw⟩)
      · exact .block hblock
      · exact .fee (shows_iff.2 ⟨hget, hgiven⟩) hflaw

/-- The flaw of two fees that are both shown is that of the first one that has any. -/
def PairFlaw (maxFee priorityFee : NodeValue) (flaw : Flaw) : Prop :=
  NumberFlaw maxFee flaw ∨ (∀ flaw, ¬ NumberFlaw maxFee flaw) ∧ NumberFlaw priorityFee flaw

theorem pair_ends (maxFee priorityFee : NodeValue) :
    EndsBy (PairFlaw maxFee priorityFee)
      (do return some (← maxFee.toInteger, ← priorityFee.toInteger)) := by
  refine (toInteger_ends maxFee).bind (fun _ => NumberFlaw priorityFee)
    (fun _ _ => (toInteger_ends priorityFee).map _) fun flaw => ?_
  rw [PairFlaw, ← (toInteger_ends maxFee).ok_iff, exists_and_right]

theorem transactionFlaw_iff {transaction : NodeValue} {flaw : Flaw} :
    TransactionFlaw transaction flaw ↔ KeyFlaw transaction flaw ∨
      ∃ maxFee, transaction.get "maxFeePerGas" = .ok maxFee ∧
        ∃ priorityFee, transaction.get "maxPriorityFeePerGas" = .ok priorityFee ∧
          maxFee ≠ .null ∧ priorityFee ≠ .null ∧ PairFlaw maxFee priorityFee flaw := by
  constructor
  · rintro (hkey | ⟨hshown, hboth, hflaw⟩ | ⟨hshown, hboth, hsound, hflaw⟩)
    · exact .inl hkey
    all_goals
      obtain ⟨hmax, hgiven⟩ := shows_iff.1 hshown
      obtain ⟨hpriority, hother⟩ := shows_iff.1 hboth
    · exact .inr ⟨_, hmax, _, hpriority, hgiven, hother, .inl hflaw⟩
    · exact .inr ⟨_, hmax, _, hpriority, hgiven, hother, .inr ⟨hsound, hflaw⟩⟩
  · rintro (hkey | ⟨maxFee, hmax, priorityFee, hpriority, hgiven, hother, hflaw⟩)
    · exact .transaction hkey
    · have hshown := shows_iff.2 ⟨hmax, hgiven⟩
      have hboth := shows_iff.2 ⟨hpriority, hother⟩
      rcases hflaw with hflaw | ⟨hsound, hflaw⟩
      · exact .maxFee hshown hboth hflaw
      · exact .priorityFee hshown hboth hsound hflaw

/-- The fees of a transaction are read unless the transaction has a flaw. -/
theorem feesOf_ends (transaction : NodeValue) :
    EndsBy (TransactionFlaw transaction) (feesOf transaction) := by
  refine (get_ends "maxFeePerGas" transaction).bind _ (fun maxFee hmax => ?_)
    fun flaw => transactionFlaw_iff
  -- The second key is asked of the same object, so it has no flaw that the first had not.
  refine (get_ends "maxPriorityFeePerGas" transaction).bind (fun priorityFee flaw =>
    maxFee ≠ .null ∧ priorityFee ≠ .null ∧ PairFlaw maxFee priorityFee flaw) ?_ ?_
  · intro priorityFee hpriority
    split
    · rintro flaw ⟨hgiven, -⟩
      exact hgiven rfl
    · rintro flaw ⟨-, hgiven, -⟩
      exact hgiven rfl
    · next hgiven hother =>
      have hflawed : (fun flaw => maxFee ≠ .null ∧ priorityFee ≠ .null ∧
          PairFlaw maxFee priorityFee flaw) = PairFlaw maxFee priorityFee := by
        funext flaw
        exact propext ((and_iff_right hgiven).trans (and_iff_right hother))
      rw [hflawed]
      exact pair_ends maxFee priorityFee
  · intro flaw
    have hnone : ¬ KeyFlaw transaction flaw :=
      (get_ends "maxFeePerGas" transaction).ok_iff.1 ⟨maxFee, hmax⟩ flaw
    exact (or_iff_right hnone).symm

/-- The fees of transactions are read unless one of them has a flaw. -/
theorem samplesOf_ends (transactions : List NodeValue) :
    EndsBy (TransactionsFlaw transactions) (samplesOf transactions) := by
  induction transactions with
  | nil => rintro flaw ⟨⟩
  | cons transaction rest ih =>
    have hfees := feesOf_ends transaction
    refine hfees.bind (fun _ => TransactionsFlaw rest) (fun _ _ => ih.map _) fun flaw => ?_
    rw [exists_and_right, hfees.ok_iff]
    constructor
    · rintro (hflaw | ⟨hsound, hflaw⟩)
      · exact .inl hflaw
      · exact .inr ⟨hsound, hflaw⟩
    · rintro (hflaw | ⟨hsound, hflaw⟩)
      · exact .here hflaw
      · exact .later hsound hflaw

/-- The samples are read from a block unless the block has a flaw. -/
theorem samples_ends (block : NodeValue) :
    EndsBy (SamplesFlaw block) (block.index "transactions" >>= elements >>= sampleList) := by
  have hruns : EndsBy (fun flaw => flaw = .wrongShape ∧
      ∀ list, block.member? "transactions" = some list → ¬ list.IsSequence)
      (block.index "transactions" >>= elements) := by
    refine (index_ends "transactions" block).bind _ (fun list _ => elements_ends list)
      fun flaw => ?_
    simp only [index_eq_ok]
    cases block.member? "transactions" <;> simp
  refine hruns.bind TransactionsFlaw (fun transactions _ =>
    (samplesOf_ends transactions).map _) fun flaw => ?_
  constructor
  · rintro (hnone | ⟨hshown, helements, hflaw⟩)
    · exact .inl ⟨rfl, hnone⟩
    · exact .inr ⟨_, bind_eq_ok.2 ⟨_, index_eq_ok.2 hshown, helements⟩, hflaw⟩
  · rintro (⟨rfl, hnone⟩ | ⟨transactions, hread, hflaw⟩)
    · exact .shape hnone
    · obtain ⟨list, hlist, helements⟩ := ok_of_bind hread
      exact .transactions (index_eq_ok.1 hlist) helements hflaw

/-! ## The eight readings -/

/-- What can be read of a ledger. -/
inductive Reading where
  | nativeBalance (address : String)
  | tokenBalance (token holder : String)
  | chainId
  | gasPrice
  | latestBaseFee
  | recentFeeSamples
  | transactionCount (address : String)
  | estimateGas (draft : Json)

namespace Reading

/-- The operation that a reading is. -/
def method : Reading → LedgerMethod
  | nativeBalance _ => .nativeBalance
  | tokenBalance _ _ => .tokenBalance
  | chainId => .chainId
  | gasPrice => .gasPrice
  | latestBaseFee => .latestBaseFee
  | recentFeeSamples => .recentFeeSamples
  | transactionCount _ => .transactionCount
  | estimateGas _ => .estimateGas

variable {ω : Type}

/-- Reads a ledger. -/
def on (ledger : Ledger ω) : Reading → Action ω Json
  | nativeBalance address => ledger.nativeBalance address
  | tokenBalance token holder => ledger.tokenBalance token holder
  | chainId => ledger.chainId
  | gasPrice => ledger.gasPrice
  | latestBaseFee => ledger.latestBaseFee
  | recentFeeSamples => ledger.recentFeeSamples
  | transactionCount address => ledger.transactionCount address
  | estimateGas draft => ledger.estimateGas draft

/-- What a reading asks of the node, with its addresses in checksum form. A text that is no address
asks for nothing. -/
inductive Asks (node : Node ω) : Reading → Action ω NodeValue → Prop
  | nativeBalance {address text : String} (valid : Address.checksum? address = some text) :
      Asks node (nativeBalance address) (node.balance text)
  | tokenBalance {token holder text other : String} (valid : Address.checksum? token = some text)
      (known : Address.checksum? holder = some other) :
      Asks node (tokenBalance token holder) (node.tokenBalance text other)
  | chainId : Asks node chainId node.chainId
  | gasPrice : Asks node gasPrice node.gasPrice
  | latestBaseFee : Asks node latestBaseFee (node.latestBlock false)
  | recentFeeSamples : Asks node recentFeeSamples (node.latestBlock true)
  | transactionCount {address text : String} (valid : Address.checksum? address = some text) :
      Asks node (transactionCount address) (node.transactionCount text)
  | estimateGas (draft : Json) : Asks node (estimateGas draft) (node.estimateGas draft)

/-- The flaw of a reply to a reading. -/
def Flawed : Reading → NodeValue → Flaw → Prop
  | latestBaseFee => BaseFeeFlaw
  | recentFeeSamples => SamplesFlaw
  | _ => NumberFlaw

/-- The answers of a reading: an integer, for the base fee null as well, for the samples a list of
pairs of integers. -/
inductive Declares : Reading → Json → Prop
  | integer (reading : Reading) (value : Int) (plain : reading ≠ recentFeeSamples) :
      Declares reading (.int value)
  | noBaseFee : Declares latestBaseFee .null
  | samples (fees : List (Int × Int)) :
      Declares recentFeeSamples
        (.arr (fees.map fun (maxFee, priorityFee) => .arr [.int maxFee, .int priorityFee]))

/-- What a reading makes of the reply. -/
def interpret : Reading → NodeValue → Except Fault Json
  | latestBaseFee, block => baseFeeOf block
  | recentFeeSamples, block => block.index "transactions" >>= elements >>= sampleList
  | _, value => Json.int <$> value.toInteger

theorem interpret_ends (reading : Reading) (value : NodeValue) :
    EndsBy (reading.Flawed value) (reading.interpret value) := by
  cases reading with
  | latestBaseFee => exact baseFeeOf_ends value
  | recentFeeSamples => exact samples_ends value
  | _ => exact (toInteger_ends value).map _

theorem interpret_declares {reading : Reading} {value : NodeValue} {answer : Json}
    (h : reading.interpret value = .ok answer) : reading.Declares answer := by
  cases reading with
  | latestBaseFee =>
    obtain ⟨fee, -, h⟩ := ok_of_bind h
    split at h
    · cases h
      exact .noBaseFee
    · obtain ⟨number, -, h⟩ := ok_of_bind h
      cases h
      exact .integer _ number nofun
  | recentFeeSamples =>
    obtain ⟨transactions, -, h⟩ := ok_of_bind h
    obtain ⟨fees, -, h⟩ := ok_of_bind h
    cases h
    exact .samples fees
  | _ =>
    obtain ⟨number, -, rfl⟩ := ok_of_map h
    exact .integer _ number nofun

end Reading

variable {ω : Type} {node : Node ω} {timer : Timer ω} {journal : Journal ω} {looks : Nat}

theorem nodeAddress_text {address text : String} (h : Address.checksum? address = some text) :
    nodeAddress (.text address) = .ok text := by
  have hread : addressText (.text address) = .ok address :=
    congrArg Except.ok (Utf16.toText_ofString address)
  rw [nodeAddress, hread]
  simp [bind, Except.bind, h]

theorem apply_guarded {α : Type} (method : LedgerMethod) (action : Action ω α) (w : ω) :
    (guarded method action).apply w =
      ((action.apply w).1.mapError method.translate, (action.apply w).2) := by
  rw [guarded, Action.apply_attempt_bind]
  cases (action.apply w).1 <;> rfl

section Reply

variable {ask : Action ω NodeValue} {value : NodeValue} {w after : ω}

theorem apply_readInteger (replied : ask.apply w = (.ok value, after)) :
    (readInteger ask).apply w = (Json.int <$> value.toInteger, after) := by
  rw [readInteger, Action.apply_bind, replied]
  dsimp only
  rw [Action.apply_bind, Action.apply_ofExcept]
  cases value.toInteger <;> rfl

/-- A reading makes one call and interprets its reply, and the operation is blamed for what goes
wrong. -/
theorem apply_reading {reading : Reading} (asks : reading.Asks node ask)
    (replied : ask.apply w = (.ok value, after)) :
    (reading.on (ofNode node timer journal looks)).apply w =
      ((reading.interpret value).mapError reading.method.translate, after) := by
  cases asks with
  | nativeBalance valid =>
    simp only [Reading.on, ofNode, apply_guarded, readBalance, nodeAddress_text valid,
      Action.apply_bind, Action.apply_ofExcept, apply_readInteger replied]
    rfl
  | tokenBalance valid known =>
    simp only [Reading.on, ofNode, apply_guarded, readTokenBalance, nodeAddress_text valid,
      nodeAddress_text known, Action.apply_bind, Action.apply_ofExcept,
      apply_readInteger replied]
    rfl
  | transactionCount valid =>
    simp only [Reading.on, ofNode, apply_guarded, readCount, nodeAddress_text valid,
      Action.apply_bind, Action.apply_ofExcept, apply_readInteger replied]
    rfl
  | chainId | gasPrice | estimateGas =>
    simp only [Reading.on, ofNode, apply_guarded, apply_readInteger replied]
    rfl
  | latestBaseFee =>
    simp only [Reading.on, ofNode, apply_guarded, readBaseFee, Action.apply_bind, replied,
      Action.apply_ofExcept]
    rfl
  | recentFeeSamples =>
    simp only [Reading.on, ofNode, apply_guarded, readSamples, Action.apply_bind, replied,
      Action.apply_ofExcept]
    rfl

/-- Whatever the node replies to a reading, the reading gives an answer of its kind where the reply
has no flaw, and ends in the fault of the flaw where it has one. That fault is none of the ledger
exactly where what is no object is asked for a key, or an infinite double for an integer. -/
theorem reading_ends {reading : Reading} (asks : reading.Asks node ask)
    (replied : ask.apply w = (.ok value, after)) :
    let ended := (reading.on (ofNode node timer journal looks)).apply w
    ((∀ flaw, ¬ reading.Flawed value flaw) →
        ∃ answer, ended = (.ok answer, after) ∧ reading.Declares answer) ∧
      (∀ flaw, reading.Flawed value flaw ↔ ended = (.error (reading.method.fault flaw), after)) ∧
      ((∃ failure, ended.1 = .error (.other failure)) ↔
        reading.Flawed value .noObject ∨ reading.Flawed value .infinite) := by
  intro ended
  have hended : ended = _ := apply_reading asks replied
  have hends := reading.interpret_ends value
  cases hread : reading.interpret value with
  | ok answer =>
    rw [hread] at hended hends
    have hnone : ∀ flaw, ¬ reading.Flawed value flaw := hends
    rw [hended]
    exact ⟨fun _ => ⟨answer, rfl, Reading.interpret_declares hread⟩,
      fun flaw => iff_of_false (hnone flaw) nofun,
      iff_of_false nofun fun h => h.elim (hnone _) (hnone _)⟩
  | error fault =>
    rw [hread] at hended hends
    obtain ⟨flaw, raises, only⟩ := hends
    have hfault : ended = (.error (reading.method.fault flaw), after) := by
      rw [hended, ← raises.translate]
      rfl
    rw [hfault]
    refine ⟨fun hnone => absurd ((only flaw).2 rfl) (hnone flaw), fun other => ?_, ?_⟩
    · rw [only other]
      refine ⟨fun h => h ▸ rfl, fun h => ?_⟩
      exact (reading.method.fault_injective (Except.error.inj (congrArg Prod.fst h))).symm
    · rw [only, only]
      cases flaw <;> simp [LedgerMethod.fault, Fault.missingAttribute, Fault.overflow]

end Reply

/-- A node that gives one reply to whatever it is asked. -/
def replying (reply : NodeValue) : Node Unit where
  balance _ := return reply
  tokenBalance _ _ := return reply
  chainId := return reply
  gasPrice := return reply
  blockNumber := return reply
  latestBlock _ := return reply
  transactionCount _ := return reply
  estimateGas _ := return reply
  sendRaw _ := return reply
  waitForReceipt _ _ _ := return reply
  receipt _ := return reply

/-- A transaction that shows both of its fees. -/
def feeMarketTransaction : NodeValue :=
  .obj [(Utf16.ofString "maxFeePerGas", .text "300"),
    (Utf16.ofString "maxPriorityFeePerGas", .num (.int 20))]

/-- A block with that transaction and with null in the place of another one. -/
def halfBlock : NodeValue :=
  .obj [(Utf16.ofString "transactions", .arr [feeMarketTransaction, .null])]

theorem halfBlock_flawed : Reading.recentFeeSamples.Flawed halfBlock .noObject := by
  have hsound : ∀ flaw, ¬ TransactionFlaw feeMarketTransaction flaw :=
    (feesOf_ends feeMarketTransaction).ok_iff.1 ⟨some (300, 20), rfl⟩
  have hlist : halfBlock.member? "transactions" = some (.arr [feeMarketTransaction, .null]) := rfl
  exact .transactions hlist rfl (.later hsound (.here (.transaction (.noObject nofun))))

/-- A timer that stands still. -/
def still : Timer Unit := ⟨fun world => (.int 0, world), fun _ => return⟩

/-- The base fee of that block is read as null, but its samples are asked of the null transaction,
and the fault is none of the ledger. -/
theorem reading_ends_halfBlock :
    let ledger := ofNode (replying halfBlock) still (fun _ world => world)
    (∃ answer, ledger.latestBaseFee.apply () = (.ok answer, ()) ∧
      Reading.latestBaseFee.Declares answer) ∧
    ledger.recentFeeSamples.apply () = (.error .missingAttribute, ()) := by
  obtain ⟨hfee, -, -⟩ := @reading_ends Unit (replying halfBlock) still (fun _ world => world)
    maxLooks _ halfBlock () () _ .latestBaseFee rfl
  obtain ⟨-, hsamples, -⟩ := @reading_ends Unit (replying halfBlock) still
    (fun _ world => world) maxLooks _ halfBlock () () _ .recentFeeSamples rfl
  exact ⟨hfee ((baseFeeOf_ends halfBlock).ok_iff.1 ⟨.null, rfl⟩),
    (hsamples .noObject).1 halfBlock_flawed⟩

end Ledger

end DepositGateway
