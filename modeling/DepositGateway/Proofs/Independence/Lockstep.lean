import DepositGateway.Proofs.Independence.Account

/-!
# Two runs in lockstep

An action is begun in two worlds in which the account of one address is alike and all else but the
other accounts, the invoices, the notices and the records are the same. It is in step if it gives
the same answer or fault in both, leaves such worlds again and touches no other account.

* `Comparison.Beside`: two worlds to which such runs have come. It is told whether the address is
  the one whose nonce was read last, because that is whom the next submission is taken for.
* `Comparison.InStep`: an action in step, with what its answers and its faults are.
* `InStep.bind`, `InStep.attempt_bind`: how actions in step make up others.
* `InStep.nativeBalance` and so on: the calls to the ledger are in step.
-/

namespace DepositGateway

/-- The fault is one of the ledger. -/
def Fault.IsLedger (fault : Fault) : Prop := ∃ reason, fault = .ledger reason

/-- The fault is one of sweeps. -/
def Fault.IsTransfer (fault : Fault) : Prop := ∃ reason, fault = .transfer reason

/-- An address, the moment, and the two worlds in which runs are begun. -/
structure Comparison where
  now : Int
  address : String
  left : World
  right : World

namespace Comparison

/-- Two worlds to which the runs have come; with `known` the nonce that was read last is that of the
address. -/
structure Beside (c : Comparison) (known : Bool) (w v : World) : Prop where
  left : World.Touches c.address c.left w
  right : World.Touches c.address c.right v
  quietLeft : w.Quiet c.now
  quietRight : v.Quiet c.now
  still : v.still = w.still
  account : v.chain.account (lowerCase c.address) = w.chain.account (lowerCase c.address)
  sender : known = true → w.chain.sender = c.address ∧ v.chain.sender = c.address

/-- Both runs gave the same answer or the same fault. -/
inductive Both (c : Comparison) (known : Bool) {α : Type} (P : α → Prop) (E : Fault → Prop) :
    Except Fault α × World → Except Fault α × World → Prop
  | ok {answer : α} {w v : World} (value : P answer) (beside : c.Beside known w v) :
      Both c known P E (.ok answer, w) (.ok answer, v)
  | error {fault : Fault} {w v : World} (value : E fault) (beside : c.Beside false w v) :
      Both c known P E (.error fault, w) (.error fault, v)

/-- The action does the same in both runs: its answers satisfy `P`, its faults `E`. -/
def InStep (c : Comparison) {α : Type} (before : Bool) (action : Action World α) (after : Bool)
    (P : α → Prop) (E : Fault → Prop) : Prop :=
  ∀ w v, c.Beside before w v → c.Both after P E (action.apply w) (action.apply v)

variable {c : Comparison} {α β : Type} {before middle after : Bool} {P : α → Prop} {Q : β → Prop}
  {E F : Fault → Prop}

theorem Beside.forget {w v : World} {known : Bool} (h : c.Beside known w v) :
    c.Beside false w v :=
  { h with sender := nofun }

/-! ## Rules -/

namespace InStep

protected theorem pure {answer : α} (h : P answer) : c.InStep before (pure answer) before P E :=
  fun _ _ beside => .ok h beside

theorem fail {fault : Fault} (h : E fault) :
    c.InStep before (Action.fail fault : Action World α) after P E :=
  fun _ _ beside => .error h beside.forget

theorem ofExcept {known : Except Fault α} (hok : ∀ answer, known = .ok answer → P answer)
    (herror : ∀ fault, known = .error fault → E fault) :
    c.InStep before (Action.ofExcept known) before P E := by
  intro w v beside
  cases known with
  | ok answer => exact .ok (hok answer rfl) beside
  | error fault => exact .error (herror fault rfl) beside.forget

/-- An answer that is known. -/
theorem known {result : Except Fault α} {answer : α} (h : result = .ok answer) :
    c.InStep before (Action.ofExcept result) before (· = answer) E := by
  rw [h]
  exact fun _ _ beside => .ok rfl beside

theorem bind {first : Action World α} {next : α → Action World β}
    (hfirst : c.InStep before first middle P E)
    (hnext : ∀ answer, P answer → c.InStep middle (next answer) after Q E) :
    c.InStep before (first >>= next) after Q E := by
  intro w v beside
  rw [Action.apply_bind, Action.apply_bind]
  have hboth := hfirst w v beside
  generalize first.apply w = left at hboth
  generalize first.apply v = right at hboth
  cases hboth with
  | ok value beside => exact hnext _ value _ _ beside
  | error value beside => exact .error value beside

/-- What follows an attempt goes on from its answer or from its fault. -/
theorem attempt_bind {first : Action World α} {next : Except Fault α → Action World β}
    (hfirst : c.InStep before first middle P E)
    (hok : ∀ answer, P answer → c.InStep middle (next (.ok answer)) after Q F)
    (herror : ∀ fault, E fault → c.InStep false (next (.error fault)) after Q F) :
    c.InStep before (Action.attempt first >>= next) after Q F := by
  intro w v beside
  rw [Action.apply_attempt_bind, Action.apply_attempt_bind]
  have hboth := hfirst w v beside
  generalize first.apply w = left at hboth
  generalize first.apply v = right at hboth
  cases hboth with
  | ok value beside => exact hok _ value _ _ beside
  | error value beside => exact herror _ value _ _ beside

theorem forget {action : Action World α} (h : c.InStep before action after P E) :
    c.InStep before action false P E := by
  intro w v beside
  have hboth := h w v beside
  generalize action.apply w = left at hboth
  generalize action.apply v = right at hboth
  cases hboth with
  | ok value beside => exact .ok value beside.forget
  | error value beside => exact .error value beside

/-- Less may be said of the answers. -/
theorem imp {action : Action World α} {R : α → Prop} (h : c.InStep before action after P E)
    (hless : ∀ answer, P answer → R answer) : c.InStep before action after R E := by
  intro w v beside
  have hboth := h w v beside
  generalize action.apply w = left at hboth
  generalize action.apply v = right at hboth
  cases hboth with
  | ok value beside => exact .ok (hless _ value) beside
  | error value beside => exact .error value beside

/-- A look at what is the same in both worlds. -/
theorem read {look : World → α}
    (h : ∀ w v, c.Beside before w v → look v = look w ∧ P (look w)) :
    c.InStep before (Action.read look) before P E := by
  intro w v beside
  obtain ⟨hsame, hlook⟩ := h w v beside
  show c.Both before P E (.ok (look w), w) (.ok (look v), v)
  rw [hsame]
  exact .ok hlook beside

/-- A change of both worlds. -/
theorem update {change : World → World}
    (h : ∀ w v, c.Beside before w v → c.Beside after (change w) (change v)) :
    c.InStep before (Action.update change) after (fun _ => True) E :=
  fun w v beside => .ok trivial (h w v beside)

end InStep

/-! ## Records -/

theorem Beside.record {w w' v v' : World} {known : Bool} (h : c.Beside known w v)
    (hw : World.Records w w') (hv : World.Records v v') : c.Beside known w' v' where
  left := h.left.trans (hw.touches _)
  right := h.right.trans (hv.touches _)
  quietLeft := hw.quiet h.quietLeft
  quietRight := hv.quiet h.quietRight
  still := hv.still.trans (h.still.trans hw.still.symm)
  account := by rw [hv.chain, hw.chain, h.account]
  sender := by rw [hv.chain, hw.chain]; exact h.sender

namespace InStep

/-- A report. -/
theorem report (source : LogSource) (level : LogLevel) (text : String) :
    c.InStep before (World.journal.report source level text) before (fun _ => True) E :=
  update fun _ _ beside => beside.record ⟨rfl, rfl, rfl, rfl⟩ ⟨rfl, rfl, rfl, rfl⟩

/-- A report of a number that can be written. -/
theorem infoWritten {writable : Bool} (h : writable = true) (source : LogSource) (text : String) :
    c.InStep before (World.journal.infoWritten source writable text) before (fun _ => True) E := by
  rw [Journal.infoWritten, if_pos h]
  exact report _ _ _

/-- A pause. -/
theorem sleep (seconds : Json) :
    c.InStep before (Action.update (World.sleep seconds)) before (fun _ => True) E :=
  update fun _ _ beside =>
    beside.record (beside.quietLeft.records_sleep _) (beside.quietRight.records_sleep _)

/-! ## Calls to the ledger -/

/-- A call is recorded before it may fail. -/
theorem call (method : LedgerMethod) (arguments : List Json) :
    c.InStep before (World.call method arguments) before (fun _ => True) Fault.IsLedger := by
  refine bind (update fun _ _ beside =>
    beside.record ⟨rfl, rfl, rfl, rfl⟩ ⟨rfl, rfl, rfl, rfl⟩) fun _ _ => ?_
  refine bind (P := fun failure => ∀ fault, failure = some fault → fault.IsLedger)
    (read fun w v beside => ⟨?_, ?_⟩) fun failure hfailure => ?_
  · exact congrArg (·.chain.failureOf? method) beside.still
  · intro fault hfault
    obtain ⟨first, rest, hentries, -⟩ := List.lookup_eq_some_iff.1 hfault
    have hmem : (method, fault) ∈ w.chain.failures := by
      rw [hentries]
      exact List.mem_append_right _ List.mem_cons_self
    exact beside.quietLeft.chain.failures _ hmem
  · cases failure with
    | none => exact InStep.pure trivial
    | some fault => exact fail (hfailure fault rfl)

theorem nativeBalance : c.InStep before (World.ledger.nativeBalance c.address) before
    (fun answer => ∃ balance : Nat, (Number.int balance).isWritable = true ∧ answer = .int balance)
    Fault.IsLedger := by
  refine bind (call _ _) fun _ _ => read fun w v beside => ⟨?_, ?_⟩
  · rw [Chain.amountOf_balances, Chain.amountOf_balances, beside.account]
  · exact beside.quietLeft.balances.amountOf _

theorem tokenBalance (token holder : String) :
    c.InStep before (World.ledger.tokenBalance token holder) before
      (fun answer => ∃ balance : Nat, answer = .int balance) Fault.IsLedger := by
  refine bind (call _ _) fun _ _ => read fun w v beside => ⟨?_, ?_⟩
  · have htokens : v.chain.tokenBalances = w.chain.tokenBalances :=
      congrArg (·.chain.tokenBalances) beside.still
    rw [htokens]
  · exact beside.quietLeft.chain.tokenBalances.amountOf _

theorem chainId : c.InStep before World.ledger.chainId before
    (fun answer => ∃ id : Nat, answer = .int id) Fault.IsLedger :=
  bind (call _ _) fun _ _ => read fun _ _ beside =>
    ⟨congrArg (·.chain.chainId) beside.still, beside.quietLeft.chain.chainId⟩

theorem gasPrice : c.InStep before World.ledger.gasPrice before
    (fun answer => ∃ price : Nat, answer = .int price) Fault.IsLedger :=
  bind (call _ _) fun _ _ => read fun _ _ beside =>
    ⟨congrArg (·.chain.gasPrice) beside.still, beside.quietLeft.chain.gasPrice⟩

theorem estimateGas (draft : Json) : c.InStep before (World.ledger.estimateGas draft) before
    (fun answer => ∃ gas : Nat, answer = .int gas) Fault.IsLedger :=
  bind (call _ _) fun _ _ => read fun _ _ beside =>
    ⟨congrArg (·.chain.gas) beside.still, beside.quietLeft.chain.gas⟩

theorem awaitConfirmation (hash : String) (patience : Patience) :
    c.InStep before (World.ledger.awaitConfirmation hash patience) before
      (fun answer => ∃ members, answer = .obj members) Fault.IsLedger := by
  refine bind (call _ _) fun _ _ => read fun w v beside => ⟨?_, ?_⟩
  · exact congrArg (·.chain.receiptOf hash) beside.still
  · rw [Chain.receiptOf]
    split
    · exact ⟨_, rfl⟩
    · next hreceipt => exact beside.quietLeft.chain.receipt.resolve_left hreceipt

/-- No fees wait in a queue, so every look gives the same. -/
theorem takeFrom {P : Json → Prop} {take : Chain → Scripted Json × Chain}
    {scripted : Chain → Scripted Json}
    (htake : ∀ w : World, w.Quiet c.now → take w.chain = (scripted w.chain, w.chain))
    (hsame : ∀ w v, c.Beside before w v → scripted v.chain = scripted w.chain)
    (hmeets : ∀ w : World, w.Quiet c.now → (scripted w.chain).Meets P) :
    c.InStep before (World.takeFrom take) before P Fault.IsLedger := by
  intro w v beside
  have hleft : (World.takeFrom take).apply w = ((scripted w.chain).toExcept, w) := by
    simp [World.takeFrom, Action.apply_bind, htake w beside.quietLeft]
  have hright : (World.takeFrom take).apply v = ((scripted w.chain).toExcept, v) := by
    simp [World.takeFrom, Action.apply_bind, htake v beside.quietRight, hsame w v beside]
  rw [hleft, hright]
  have hgiven := hmeets w beside.quietLeft
  cases hscripted : scripted w.chain with
  | answer value =>
    rw [hscripted] at hgiven
    exact .ok hgiven beside
  | raise fault =>
    rw [hscripted] at hgiven
    exact .error hgiven beside.forget

theorem latestBaseFee : c.InStep before World.ledger.latestBaseFee before
    (fun answer => answer = .null ∨ ∃ fee : Nat, answer = .int fee) Fault.IsLedger := by
  refine bind (call _ _) fun _ _ => takeFrom (fun w quiet => ?_)
    (fun w v beside => congrArg (·.chain.baseFee) beside.still) fun w quiet => quiet.chain.baseFee
  rw [Chain.nextBaseFee, quiet.chain.baseFeeQueue]

theorem recentFeeSamples : c.InStep before World.ledger.recentFeeSamples before
    (fun answer => ∃ samples, answer = samplesOf samples) Fault.IsLedger := by
  refine bind (call _ _) fun _ _ => takeFrom (fun w quiet => ?_)
    (fun w v beside => congrArg (·.chain.feeSamples) beside.still)
    fun w quiet => quiet.chain.feeSamples
  rw [Chain.nextFeeSamples, quiet.chain.feeSamplesQueue]

/-- Who asks for a nonce is taken for the sender. -/
theorem transactionCount : c.InStep before (World.ledger.transactionCount c.address) true
    (fun answer => ∃ nonce : Nat, answer = .int nonce) Fault.IsLedger := by
  refine bind (call _ _) fun _ _ => bind (update fun w v beside => ?_) fun _ _ =>
    read fun w v beside => ⟨?_, ?_⟩
  · exact {
      left := beside.left.trans ⟨rfl, rfl, rfl, fun _ _ => rfl⟩
      right := beside.right.trans ⟨rfl, rfl, rfl, fun _ _ => rfl⟩
      quietLeft := beside.quietLeft.of_still rfl beside.quietLeft.balances beside.quietLeft.nonces
      quietRight :=
        beside.quietRight.of_still rfl beside.quietRight.balances beside.quietRight.nonces
      still := beside.still
      account := beside.account
      sender := fun _ => ⟨rfl, rfl⟩ }
  · rw [Chain.amountOf_nonces, Chain.amountOf_nonces, beside.account]
  · exact beside.quietLeft.nonces.amountOf _

end InStep

/-- A submission of the address is accepted. -/
theorem Beside.accept {w v : World} (h : c.Beside true w v) :
    w.chain.accept.1 = .ok () ∧ v.chain.accept.1 = .ok () ∧
      c.Beside true { w with chain := w.chain.accept.2 } { v with chain := v.chain.accept.2 } := by
  obtain ⟨hleft, hright⟩ := h.sender rfl
  obtain ⟨nonce, -, hw⟩ := Chain.accept_natural h.quietLeft.nonces
  obtain ⟨nonce', -, hv⟩ := Chain.accept_natural h.quietRight.nonces
  refine ⟨by rw [hw], by rw [hv], ?_⟩
  have hquiet {world : World} (quiet : world.Quiet c.now) (count : Nat) :
      World.Quiet c.now { world with chain := { world.chain with
        balances := Chain.setAmount world.chain.sender (.int 0) world.chain.balances,
        nonces := Chain.setAmount world.chain.sender (.int (count + 1)) world.chain.nonces } } :=
    quiet.of_still rfl (quiet.balances.emptied _) (quiet.nonces.setAmount _ (count + 1))
  have htouches {world : World} (quiet : world.Quiet c.now)
      (hsender : world.chain.sender = c.address) :
      World.Touches c.address world { world with chain := world.chain.accept.2 } := by
    obtain ⟨count, -, haccept⟩ := Chain.accept_natural quiet.nonces
    refine ⟨?_, rfl, rfl, fun name hname => ?_⟩
    · rw [haccept]
      rfl
    · exact Chain.account_accept quiet.nonces (by rwa [hsender])
  exact {
    left := h.left.trans (htouches h.quietLeft hleft)
    right := h.right.trans (htouches h.quietRight hright)
    quietLeft := by
      rw [hw]
      exact hquiet h.quietLeft nonce
    quietRight := by
      rw [hv]
      exact hquiet h.quietRight nonce'
    still := by
      rw [(htouches h.quietLeft hleft).still, (htouches h.quietRight hright).still, h.still]
    -- Both submissions are taken for the same sender, and it has the same account in both worlds.
    account := by
      have hcongr := Chain.account_accept_congr h.quietLeft.nonces h.quietRight.nonces
        (hright.trans hleft.symm) (by rw [hleft]; exact h.account)
      rwa [hleft] at hcongr
    sender := by
      rw [hw, hv]
      exact fun _ => ⟨hleft, hright⟩ }

theorem InStep.submitRaw (raw : Bytes) : c.InStep true (World.ledger.submitRaw raw) true
    (fun _ => True) Fault.IsLedger := by
  refine bind (call _ _) fun _ _ => ?_
  intro w v beside
  obtain ⟨hleft, hright, hbeside⟩ := beside.accept
  simp only [Action.apply_bind, Action.apply_step, Action.apply_ofExcept, Action.apply_pure, hleft,
    hright]
  exact .ok trivial hbeside

end Comparison

end DepositGateway
