import DepositGateway.Ledger.Node

/-!
# How deep a confirmed receipt lies

The wait for depth measures against the block of the first receipt. Where more than one block is
asked for the receipt is read once more after the wait, and that one is returned; after a
reorganisation of the chain it may lie in another block.

* `Looks`: a wait for depth as the heads that were looked at. `awaitDepth_looks`: each wait that
  ends before its looks are used up is one, and `Looks.last` says how deep the last look found it.
* `Ledger.Confirmation`: how a receipt is confirmed. `Ledger.confirmedReceipt_confirmation`: every
  receipt that is returned was confirmed so.
* `Ledger.shallow_iff`: a returned receipt lies less deep than asked for exactly where it was read
  once more and had moved by more blocks than the first one had to spare.
-/

namespace DepositGateway

variable {ω τ : Type}

/-! ## Waiting for depth -/

section Wait

variable (head : Action ω Int) (clock : Action ω τ) (isPast : τ → Bool) (pause : Action ω Unit)
  (minedIn : Int) (isDeep : Int → Except Fault Bool)

/-- A wait for depth from a world to a world, by the heads that were looked at, the first one first:
each but the last found the transaction not deep enough, with the deadline still to come. -/
inductive Looks : ω → List Int → DepthOutcome → ω → Prop
  | reached {w w₁ : ω} {seen : Int} (look : head.apply w = (.ok seen, w₁))
      (deep : isDeep (depthUnder seen minedIn) = .ok true) : Looks w [seen] .reached w₁
  | late {w w₁ w₂ : ω} {seen : Int} {now : τ} (look : head.apply w = (.ok seen, w₁))
      (shallow : isDeep (depthUnder seen minedIn) = .ok false)
      (read : clock.apply w₁ = (.ok now, w₂)) (past : isPast now = true) :
      Looks w [seen] (.late (depthUnder seen minedIn)) w₂
  | again {w w₁ w₂ w₃ w₄ : ω} {seen : Int} {now : τ} {heads : List Int} {outcome : DepthOutcome}
      (look : head.apply w = (.ok seen, w₁))
      (shallow : isDeep (depthUnder seen minedIn) = .ok false)
      (read : clock.apply w₁ = (.ok now, w₂)) (early : isPast now = false)
      (paused : pause.apply w₂ = (.ok (), w₃)) (rest : Looks w₃ heads outcome w₄) :
      Looks w (seen :: heads) outcome w₄

variable {head clock isPast pause minedIn isDeep}

/-- A wait that ends before its looks are used up went through that many heads at most. -/
theorem awaitDepth_looks {looks : Nat} {w w' : ω} {outcome : DepthOutcome}
    (h : (awaitDepth head clock isPast pause minedIn isDeep looks).apply w = (.ok outcome, w'))
    (hends : outcome ≠ .exhausted) :
    ∃ heads, heads.length ≤ looks ∧
      Looks head clock isPast pause minedIn isDeep w heads outcome w' := by
  induction looks generalizing w with
  | zero =>
    cases h
    exact absurd rfl hends
  | succ looks ih =>
    unfold awaitDepth at h
    obtain ⟨seen, w₁, hlook, h⟩ := Action.ok_of_apply_bind h
    obtain ⟨deep, w₂, hdeep, h⟩ := Action.ok_of_apply_bind h
    obtain ⟨hdepth, rfl⟩ := Action.ok_of_apply_ofExcept hdeep
    cases deep with
    | true =>
      cases h
      exact ⟨[seen], by simp, .reached hlook hdepth⟩
    | false =>
      obtain ⟨now, w₂, hread, h⟩ := Action.ok_of_apply_bind h
      cases hpast : isPast now with
      | true =>
        rw [hpast] at h
        cases h
        exact ⟨[seen], by simp, .late hlook hdepth hread hpast⟩
      | false =>
        rw [hpast] at h
        obtain ⟨_, w₃, hpaused, h⟩ := Action.ok_of_apply_bind h
        obtain ⟨heads, hlength, hrest⟩ := ih h
        exact ⟨seen :: heads, by simpa using hlength,
          .again hlook hdepth hread hpast hpaused hrest⟩

/-- A wait that reached its depth did so at its last look. -/
theorem Looks.last {w w' : ω} {heads : List Int}
    (h : Looks head clock isPast pause minedIn isDeep w heads .reached w') :
    ∃ last, heads.getLast? = some last ∧ isDeep (depthUnder last minedIn) = .ok true := by
  generalize ho : DepthOutcome.reached = outcome at h
  induction h with
  | @reached _ _ seen look deep => exact ⟨seen, rfl, deep⟩
  | late => cases ho
  | @again _ _ _ _ _ seen _ heads _ look shallow read early paused rest ih =>
    obtain ⟨last, hlast, hdeep⟩ := ih ho
    refine ⟨last, ?_, hdeep⟩
    rw [List.getLast?_cons, hlast]
    rfl

end Wait

/-! ## Confirming a receipt -/

namespace Ledger

variable {node : Node ω} {timer : Timer ω} {journal : Journal ω} {hash : NodeValue}
  {patience : Patience} {looks : Nat}

/-- A wait for a transaction from a world to a world: the first receipt tells its block, and the
heads are looked at until that block is deep enough. -/
inductive Waited (node : Node ω) (timer : Timer ω) (hash : NodeValue) (patience : Patience)
    (first : NodeValue) (minedIn : Int) (heads : List Int) (w w' : ω) : Prop
  | mk {w₁ w₂ : ω} {start timeout deadline : Number} (started : timer.now w = (start, w₁))
      (due : settingNumber patience.timeout = .ok timeout)
      (ends : start.add? timeout = some deadline)
      (found : (node.waitForReceipt hash patience.timeout patience.latency).apply w₁ =
        (.ok first, w₂))
      (mined : (first.index "blockNumber" >>= NodeValue.toInteger) = .ok minedIn)
      (looked : Looks (readHead node) (Action.step timer.now) (isPast deadline)
        (timer.sleep patience.latency) minedIn (isDeepEnough patience) w₂ heads .reached w')

/-- How a receipt is confirmed from a world on. Where at most one block was asked for, it is the one
that was waited for; otherwise it is read once more after the wait. -/
inductive Confirmation (node : Node ω) (timer : Timer ω) (hash : NodeValue) (patience : Patience)
    (w : ω) (first : NodeValue) (minedIn : Int) (heads : List Int) : NodeValue → Prop
  | first {w' : ω} {required : Number}
      (waited : Waited node timer hash patience first minedIn heads w w')
      (asked : settingNumber patience.minConfirmations = .ok required)
      (single : Number.lt 1 required = false) :
      Confirmation node timer hash patience w first minedIn heads first
  | second {w' w'' : ω} {required : Number} {receipt : NodeValue}
      (waited : Waited node timer hash patience first minedIn heads w w')
      (asked : settingNumber patience.minConfirmations = .ok required)
      (several : Number.lt 1 required = true)
      (read : (node.receipt hash).apply w' = (.ok receipt, w'')) :
      Confirmation node timer hash patience w first minedIn heads receipt

/-- The last head that was looked at was far enough from the block that was measured. -/
theorem Confirmation.looked_last {w : ω} {first receipt : NodeValue} {minedIn : Int}
    {heads : List Int} (h : Confirmation node timer hash patience w first minedIn heads receipt) :
    ∃ last, heads.getLast? = some last ∧
      isDeepEnough patience (depthUnder last minedIn) = .ok true := by
  cases h with
  | first waited =>
    obtain ⟨_, _, _, _, _, looked⟩ := waited
    exact looked.last
  | second waited =>
    obtain ⟨_, _, _, _, _, looked⟩ := waited
    exact looked.last

theorem ok_of_firstReceipt {first : NodeValue} {w w' : ω}
    (h : (firstReceipt node hash patience).apply w = (.ok first, w')) :
    (node.waitForReceipt hash patience.timeout patience.latency).apply w = (.ok first, w') := by
  rw [firstReceipt, Action.apply_attempt_bind] at h
  split at h
  · next receipt hreceipt =>
    cases h
    exact Prod.ext hreceipt rfl
  · cases h
  · cases h

theorem ok_of_secondReceipt {receipt : NodeValue} {w w' : ω}
    (h : (secondReceipt node hash).apply w = (.ok receipt, w')) :
    (node.receipt hash).apply w = (.ok receipt, w') := by
  rw [secondReceipt, Action.apply_attempt_bind] at h
  split at h
  · next receipt hreceipt =>
    cases h
    exact Prod.ext hreceipt rfl
  · cases h
  · cases h

/-- What the wait is followed by makes a confirmation of it. -/
theorem confirmation_of_lastReceipt {first receipt : NodeValue} {minedIn : Int} {heads : List Int}
    {w w' w'' : ω} (hwaited : Waited node timer hash patience first minedIn heads w w')
    (h : (lastReceipt node hash patience first).apply w' = (.ok receipt, w'')) :
    Confirmation node timer hash patience w first minedIn heads receipt := by
  unfold lastReceipt at h
  obtain ⟨required, w₁, hrequired, h⟩ := Action.ok_of_apply_bind h
  obtain ⟨hasked, rfl⟩ := Action.ok_of_apply_ofExcept hrequired
  split at h
  · next hseveral => exact .second hwaited hasked hseveral (ok_of_secondReceipt h)
  · next hsingle =>
    cases h
    exact .first hwaited hasked (by simpa using hsingle)

theorem ok_of_guarded {α : Type} {method : LedgerMethod} {action : Action ω α} {answer : α}
    {w w' : ω} (h : (guarded method action).apply w = (.ok answer, w')) :
    action.apply w = (.ok answer, w') := by
  rw [guarded, Action.apply_attempt_bind] at h
  split at h
  · next value hvalue =>
    cases h
    exact Prod.ext hvalue rfl
  · cases h

theorem looks_of_confirmDepth {deadline : Number} {minedIn : Int} {w w' : ω}
    (h : (confirmDepth node timer hash patience deadline minedIn looks).apply w = (.ok (), w')) :
    ∃ heads, heads.length ≤ looks ∧ Looks (readHead node) (Action.step timer.now) (isPast deadline)
      (timer.sleep patience.latency) minedIn (isDeepEnough patience) w heads .reached w' := by
  unfold confirmDepth at h
  obtain ⟨outcome, w₁, hwait, h⟩ := Action.ok_of_apply_bind h
  cases outcome with
  | reached =>
    cases h
    exact awaitDepth_looks hwait (by simp)
  | late | exhausted => cases h

theorem ok_of_deadlineFrom {deadline : Number} {w w' : ω}
    (h : (deadlineFrom timer patience).apply w = (.ok deadline, w')) :
    ∃ start timeout, timer.now w = (start, w') ∧ settingNumber patience.timeout = .ok timeout ∧
      start.add? timeout = some deadline := by
  unfold deadlineFrom at h
  obtain ⟨start, w₁, hstart, h⟩ := Action.ok_of_apply_bind h
  obtain ⟨timeout, w₂, htimeout, h⟩ := Action.ok_of_apply_bind h
  obtain ⟨hdue, rfl⟩ := Action.ok_of_apply_ofExcept htimeout
  split at h
  · next hends =>
    cases h
    cases hstart
    exact ⟨_, timeout, rfl, hdue, hends⟩
  · cases h

/-- Every receipt that is returned was confirmed. -/
theorem confirmedReceipt_confirmation {receipt : Json} {w w' : ω}
    (h : (confirmedReceipt node timer journal hash patience looks).apply w = (.ok receipt, w')) :
    ∃ first minedIn heads returned, heads.length ≤ looks ∧
      Confirmation node timer hash patience w first minedIn heads returned ∧
      returned.toJson? = some receipt := by
  unfold confirmedReceipt at h
  obtain ⟨deadline, w₁, hdeadline, h⟩ := Action.ok_of_apply_bind h
  obtain ⟨start, timeout, hstart, hdue, hends⟩ := ok_of_deadlineFrom hdeadline
  obtain ⟨first, w₂, hfirst, h⟩ := Action.ok_of_apply_bind h
  obtain ⟨minedIn, w₃, hmined, h⟩ := Action.ok_of_apply_bind h
  obtain ⟨hblock, rfl⟩ := Action.ok_of_apply_ofExcept hmined
  obtain ⟨_, w₄, hwait, h⟩ := Action.ok_of_apply_bind h
  obtain ⟨heads, hlength, hlooks⟩ := looks_of_confirmDepth hwait
  have hwaited : Waited node timer hash patience first minedIn heads w w₄ :=
    .mk hstart hdue hends (ok_of_firstReceipt hfirst) hblock hlooks
  unfold settledReceipt at h
  obtain ⟨returned, w₅, hlast, h⟩ := Action.ok_of_apply_bind h
  obtain ⟨block, w₆, _, h⟩ := Action.ok_of_apply_bind h
  obtain ⟨_, w₇, _, h⟩ := Action.ok_of_apply_bind h
  refine ⟨first, minedIn, heads, returned, hlength, confirmation_of_lastReceipt hwaited hlast, ?_⟩
  split at h
  · next hjson =>
    cases h
    exact hjson
  · cases h

/-! ## The depth of the receipt that is returned -/

/-- A member of an object in its written form comes from one of the object. -/
theorem lookup_of_membersToJson? {key : Utf16} {json : Json} :
    ∀ {members : List (Utf16 × NodeValue)} {written : List (Utf16 × Json)},
      NodeValue.membersToJson? members = some written → Json.lookup key written = some json →
      ∃ value, NodeValue.lookup key members = some value ∧ value.toJson? = some json
  | [], written, h, hlookup => by
    cases h
    cases hlookup
  | (other, value) :: rest, written, h, hlookup => by
    simp only [NodeValue.membersToJson?, Option.bind_eq_bind, Option.bind_eq_some_iff,
      Option.some.injEq] at h
    obtain ⟨first, hvalue, others, hrest, rfl⟩ := h
    simp only [Json.lookup] at hlookup
    simp only [NodeValue.lookup]
    split at hlookup
    · next hother =>
      cases hlookup
      exact ⟨value, by simp [hother], hvalue⟩
    · next hother =>
      obtain ⟨found, hfound, hjson⟩ := lookup_of_membersToJson? hrest hlookup
      exact ⟨found, by simpa [hother] using hfound, hjson⟩

/-- What is written as an integer is one. -/
theorem eq_of_toJson?_int {value : NodeValue} {number : Int}
    (h : value.toJson? = some (.int number)) : value = .num (.int number) := by
  cases value with
  | num => simpa [NodeValue.toJson?] using h
  | arr | obj => simp [NodeValue.toJson?, Option.map_eq_some_iff] at h
  | null | bool | str | bytes | opaqueValue => simp [NodeValue.toJson?, Json.text] at h

/-- A block number that is written as an integer is read as that integer. -/
theorem index_of_toJson? {value : NodeValue} {json : Json} {block : Int}
    (hjson : value.toJson? = some json) (hblock : json.member? "blockNumber" = some (.int block)) :
    (value.index "blockNumber" >>= NodeValue.toInteger) = .ok block := by
  cases value with
  | obj members =>
    obtain ⟨written, hwritten, rfl⟩ := Option.map_eq_some_iff.mp hjson
    obtain ⟨found, hfound, hint⟩ := lookup_of_membersToJson? hwritten hblock
    rw [eq_of_toJson?_int hint] at hfound
    simp only [NodeValue.index, hfound]
    rfl
  | arr =>
    obtain ⟨written, _, rfl⟩ := Option.map_eq_some_iff.mp hjson
    cases hblock
  | opaqueValue => cases hjson
  | null | bool | num | str | bytes =>
    cases hjson
    cases hblock

/-- A receipt that is returned lies less deep under the last head than was asked for exactly where
it was read again and had moved, since it was first found, by more blocks than its first block had
to spare. -/
theorem shallow_iff {hash : String} {least block : Int} {receipt : Json} {w w' : ω}
    (hleast : patience.minConfirmations = .int least)
    (h : ((ofNode node timer journal looks).awaitConfirmation hash patience).apply w =
      (.ok receipt, w'))
    (hblock : receipt.member? "blockNumber" = some (.int block)) :
    ∃ first minedIn heads last returned, heads.length ≤ looks ∧
      Confirmation node timer (.text hash) patience w first minedIn heads returned ∧
      returned.toJson? = some receipt ∧ heads.getLast? = some last ∧
      least ≤ depthUnder last minedIn ∧
      (depthUnder last block < least ↔
        1 < least ∧ depthUnder last minedIn - least < block - minedIn) := by
  obtain ⟨first, minedIn, heads, returned, hlength, hconfirmed, hjson⟩ :=
    confirmedReceipt_confirmation (ok_of_guarded h)
  have hasked : settingNumber patience.minConfirmations = .ok (.int least) := by
    rw [hleast]
    rfl
  obtain ⟨last, hlast, hdeep⟩ := hconfirmed.looked_last
  have hdepth : least ≤ depthUnder last minedIn := by
    simpa [isDeepEnough, hasked, Functor.map, Except.map] using hdeep
  refine ⟨first, minedIn, heads, last, returned, hlength, hconfirmed, hjson, hlast, hdepth, ?_⟩
  have hmoved := index_of_toJson? hjson hblock
  cases hconfirmed with
  | first waited asked single =>
    -- the receipt is the one that was waited for, so its block is the one that was measured
    obtain rfl : block = minedIn := by
      obtain ⟨_, _, _, _, mined, _⟩ := waited
      rw [hmoved] at mined
      cases mined
      rfl
    rw [hasked] at asked
    cases asked
    simp only [depthUnder] at hdepth ⊢
    have hone : ¬ 1 < least := by
      simpa [show (1 : Number) = .int 1 from rfl] using single
    omega
  | second waited asked several read =>
    rw [hasked] at asked
    cases asked
    have hmany : 1 < least := by
      simpa [show (1 : Number) = .int 1 from rfl] using several
    simp only [depthUnder] at hdepth ⊢
    omega

/-! ## A reorganised chain -/

/-- A receipt in a block. -/
def receiptIn (block : Int) : NodeValue :=
  .obj [(Utf16.ofString "blockNumber", .num (.int block))]

/-- A node whose heads are given, the next one first, on a chain that moves the transaction of block
10 to block 12 while it is waited for. -/
def reorganised : Node (List Int) where
  balance _ := Action.fail .badValue
  tokenBalance _ _ := Action.fail .badValue
  chainId := Action.fail .badValue
  gasPrice := Action.fail .badValue
  blockNumber := Action.step fun heads => (.num (.int (heads.headD 0)), heads.tail)
  latestBlock _ := Action.fail .badValue
  transactionCount _ := Action.fail .badValue
  estimateGas _ := Action.fail .badValue
  sendRaw _ := Action.fail .badValue
  waitForReceipt _ _ _ := return receiptIn 10
  receipt _ := return receiptIn 12

/-- A timer that stands still. -/
def standing : Timer (List Int) where
  now heads := (.int 0, heads)
  sleep _ := return

/-- Two blocks were asked for, both heads were looked at, and under the last one, block 11, the
receipt that is returned is not even mined. -/
theorem reorganised_returns :
    ((ofNode reorganised standing (fun _ heads => heads) 2).awaitConfirmation "0x44"
      { minConfirmations := .int 2 }).apply [10, 11] =
      (.ok (.object [("blockNumber", .int 12)]), []) := by
  have hdue : (deadlineFrom standing { minConfirmations := .int 2 }).apply [10, 11] =
      (.ok (.int 300), [10, 11]) := rfl
  have hfirst : (firstReceipt reorganised (.text "0x44") { minConfirmations := .int 2 }).apply
      [10, 11] = (.ok (receiptIn 10), [10, 11]) := rfl
  have hwaited : (confirmDepth reorganised standing (.text "0x44") { minConfirmations := .int 2 }
      (.int 300) 10 2).apply [10, 11] = (.ok (), []) := rfl
  have hlast : (lastReceipt reorganised (.text "0x44") { minConfirmations := .int 2 }
      (receiptIn 10)).apply [] = (.ok (receiptIn 12), []) := rfl
  have hmined : ((receiptIn 10).index "blockNumber" >>= NodeValue.toInteger) = .ok 10 := rfl
  have hblock : (receiptIn 12).index "blockNumber" = .ok (.num (.int 12)) := rfl
  have hwritable : (NodeValue.num (.int 12)).isWritable = true := by decide +kernel
  have hconfirmed : (confirmedReceipt reorganised standing (fun _ heads => heads) (.text "0x44")
      { minConfirmations := .int 2 } 2).apply [10, 11] =
        (.ok (.object [("blockNumber", .int 12)]), []) := by
    simp only [confirmedReceipt, settledReceipt, Action.apply_bind, hdue, hfirst, hmined, hwaited,
      hlast, hblock, Action.apply_ofExcept, Journal.infoWritten, hwritable, if_true]
    rfl
  show (guarded .awaitConfirmation _).apply _ = _
  rw [guarded, Action.apply_attempt_bind, hconfirmed]
  rfl

theorem shallow_iff_reorganised : ∃ first minedIn heads last returned, heads.length ≤ 2 ∧
    Confirmation reorganised standing (.text "0x44") { minConfirmations := .int 2 } [10, 11]
      first minedIn heads returned ∧
    returned.toJson? = some (.object [("blockNumber", .int 12)]) ∧ heads.getLast? = some last ∧
    2 ≤ depthUnder last minedIn ∧
    (depthUnder last 12 < 2 ↔ (1 : Int) < 2 ∧ depthUnder last minedIn - 2 < 12 - minedIn) :=
  shallow_iff rfl reorganised_returns rfl

end Ledger

end DepositGateway
