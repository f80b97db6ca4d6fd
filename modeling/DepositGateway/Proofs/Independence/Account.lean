import DepositGateway.Proofs.Sweep.Quantities
import DepositGateway.Simulation.World

/-!
# Accounts of the simulated chain

A submission changes the account of its sender and nothing else on the chain.

* `Chain.account`: balance and nonce under a name. `Chain.script`: all that the chain answers apart
  from accounts.
* `Chain.Regular`: what is scripted are numbers that are not below zero and faults of the ledger.
* `World.Quiet`: a regular chain, a clock that shows a moment, and nothing that stops a pass.
* `World.Touches`: from one world to another only one account changed, and what is recorded.
-/

namespace DepositGateway

/-- An answer that is as it should be, or a fault of the ledger. -/
def Scripted.Meets {α : Type} (P : α → Prop) : Scripted α → Prop
  | .answer value => P value
  | .raise fault => ∃ reason, fault = .ledger reason

namespace Chain

variable {amounts : List (String × Json)} {chain other : Chain}

/-- The amounts are integers that are not below zero. -/
def Natural (amounts : List (String × Json)) : Prop :=
  ∀ entry ∈ amounts, ∃ amount : Nat, entry.2 = .int amount

/-- The amounts are such integers, and they can be written. -/
def Legible (amounts : List (String × Json)) : Prop :=
  ∀ entry ∈ amounts, ∃ amount : Nat, (Number.int amount).isWritable = true ∧ entry.2 = .int amount

/-- Balance and nonce under a lower-case name. -/
def account (chain : Chain) (name : String) : Option Json × Option Json :=
  (chain.balances.lookup name, chain.nonces.lookup name)

/-- The chain without its accounts and without the memory of the last sender. -/
def script (chain : Chain) : Chain := { chain with balances := [], nonces := [], sender := "" }

/-- The script of the chain is made of numbers that are not below zero and of faults of the ledger;
no fees wait in a queue. -/
structure Regular (chain : Chain) : Prop where
  chainId : ∃ id : Nat, chain.chainId = .int id
  gasPrice : ∃ price : Nat, chain.gasPrice = .int price
  baseFee : chain.baseFee.Meets fun answer => answer = .null ∨ ∃ fee : Nat, answer = .int fee
  feeSamples : chain.feeSamples.Meets fun answer => ∃ samples, answer = samplesOf samples
  baseFeeQueue : chain.baseFeeQueue = []
  feeSamplesQueue : chain.feeSamplesQueue = []
  gas : ∃ gas : Nat, chain.gas = .int gas
  receipt : chain.receipt = .null ∨ ∃ members, chain.receipt = .obj members
  tokenBalances : Natural chain.tokenBalances
  failures : ∀ entry ∈ chain.failures, ∃ reason, entry.2 = .ledger reason

/-- A chain with the script of a regular one is regular. -/
theorem Regular.of_script (h : chain.Regular) (hs : other.script = chain.script) :
    other.Regular := by
  -- No condition speaks of accounts, so the script meets all that the chain does.
  have hscript : other.script.Regular := by
    rw [hs]
    exact ⟨h.chainId, h.gasPrice, h.baseFee, h.feeSamples, h.baseFeeQueue, h.feeSamplesQueue,
      h.gas, h.receipt, h.tokenBalances, h.failures⟩
  exact ⟨hscript.chainId, hscript.gasPrice, hscript.baseFee, hscript.feeSamples,
    hscript.baseFeeQueue, hscript.feeSamplesQueue, hscript.gas, hscript.receipt,
    hscript.tokenBalances, hscript.failures⟩

theorem lookup_cons_eq (name other : String) (value : Json) (amounts : List (String × Json)) :
    List.lookup name ((other, value) :: amounts) =
      if name = other then some value else amounts.lookup name := by
  rw [List.lookup_cons]
  by_cases h : name = other
  · simp [h]
  · simp [h, beq_eq_false_iff_ne.mpr h]

theorem lookup_setAmount (key name : String) (value : Json) (amounts : List (String × Json)) :
    (setAmount key value amounts).lookup name =
      if name = lowerCase key then some value else amounts.lookup name := by
  induction amounts with
  | nil => rw [setAmount, lookup_cons_eq]
  | cons entry rest ih =>
    obtain ⟨other, old⟩ := entry
    rw [setAmount]
    split
    · next hkey =>
      rw [lookup_cons_eq, lookup_cons_eq, hkey]
      split <;> rfl
    · next hkey =>
      rw [lookup_cons_eq, lookup_cons_eq, ih]
      split
      · next hname => rw [if_neg (hname ▸ hkey)]
      · rfl

section

variable {P : Json → Prop}

theorem forall_setAmount (h : ∀ entry ∈ amounts, P entry.2) (key : String) {value : Json}
    (hvalue : P value) : ∀ entry ∈ setAmount key value amounts, P entry.2 := by
  induction amounts with
  | nil => exact List.forall_mem_singleton.2 hvalue
  | cons entry rest ih =>
    obtain ⟨other, old⟩ := entry
    rw [List.forall_mem_cons] at h
    rw [setAmount]
    split
    · exact List.forall_mem_cons.2 ⟨hvalue, h.2⟩
    · exact List.forall_mem_cons.2 ⟨h.1, ih h.2⟩

/-- An amount is one of those that are kept, or zero. -/
theorem amountOf_of_forall (h : ∀ entry ∈ amounts, P entry.2) (hzero : P (.int 0))
    (key : String) : P (amountOf key amounts) := by
  unfold amountOf
  cases hfound : amounts.lookup (lowerCase key) with
  | none => exact hzero
  | some value =>
    obtain ⟨before, behind, rfl, -⟩ := List.lookup_eq_some_iff.1 hfound
    exact h _ (List.mem_append_right _ List.mem_cons_self)

end

theorem Natural.setAmount (h : Natural amounts) (key : String) (value : Nat) :
    Natural (setAmount key (.int value) amounts) :=
  forall_setAmount (P := fun value => ∃ amount : Nat, value = .int amount) h key ⟨value, rfl⟩

theorem Natural.amountOf (h : Natural amounts) (key : String) :
    ∃ amount : Nat, amountOf key amounts = .int amount :=
  amountOf_of_forall (P := fun value => ∃ amount : Nat, value = .int amount) h ⟨0, rfl⟩ key

theorem Legible.emptied (h : Legible amounts) (key : String) :
    Legible (setAmount key (.int 0) amounts) :=
  forall_setAmount (P := fun value => ∃ amount : Nat,
    (Number.int amount).isWritable = true ∧ value = .int amount) h key
    ⟨0, Number.isWritable_zero, rfl⟩

theorem Legible.amountOf (h : Legible amounts) (key : String) : ∃ amount : Nat,
    (Number.int amount).isWritable = true ∧ amountOf key amounts = .int amount :=
  amountOf_of_forall (P := fun value => ∃ amount : Nat,
    (Number.int amount).isWritable = true ∧ value = .int amount) h
    ⟨0, Number.isWritable_zero, rfl⟩ key

theorem amountOf_balances (chain : Chain) (key : String) :
    amountOf key chain.balances = (chain.account (lowerCase key)).1.getD (.int 0) := rfl

theorem amountOf_nonces (chain : Chain) (key : String) :
    amountOf key chain.nonces = (chain.account (lowerCase key)).2.getD (.int 0) := rfl

/-- A submission empties the account of the sender, raises its nonce, and does no more. -/
theorem accept_natural (h : Natural chain.nonces) : ∃ nonce : Nat,
    amountOf chain.sender chain.nonces = .int nonce ∧
    chain.accept = (.ok (), { chain with
      balances := setAmount chain.sender (.int 0) chain.balances,
      nonces := setAmount chain.sender (.int (nonce + 1)) chain.nonces }) := by
  obtain ⟨nonce, hnonce⟩ := h.amountOf chain.sender
  refine ⟨nonce, hnonce, ?_⟩
  unfold accept
  rw [hnonce, raised]
  simp [Json.asNumber?, emptied]
  rfl

/-- The account of the sender is the only one that a submission changes. -/
theorem account_accept (h : Natural chain.nonces) {name : String}
    (hname : name ≠ lowerCase chain.sender) : chain.accept.2.account name = chain.account name := by
  obtain ⟨nonce, -, haccept⟩ := accept_natural h
  rw [haccept]
  simp only [account, lookup_setAmount, if_neg hname]

/-- What a submission makes of the account of the sender depends on that account alone. -/
theorem account_accept_congr (h : Natural chain.nonces) (ho : Natural other.nonces)
    (hs : other.sender = chain.sender)
    (ha : other.account (lowerCase chain.sender) = chain.account (lowerCase chain.sender)) :
    other.accept.2.account (lowerCase chain.sender) =
      chain.accept.2.account (lowerCase chain.sender) := by
  obtain ⟨nonce, hnonce, haccept⟩ := accept_natural h
  obtain ⟨nonce', hnonce', haccept'⟩ := accept_natural ho
  have hsame : amountOf other.sender other.nonces = amountOf chain.sender chain.nonces := by
    rw [amountOf_nonces, amountOf_nonces, hs, ha]
  rw [hnonce, hnonce'] at hsame
  cases hsame
  rw [haccept, haccept']
  simp only [account, lookup_setAmount, hs, if_true]

end Chain

/-! ## Worlds -/

namespace World

variable {now : Int} {address : String} {w w' w'' : World}

/-- The world without accounts, invoices, notices and records of calls and reports. -/
def still (w : World) : World :=
  { w with
    chain := w.chain.script, shelf := .memory {}, queue := { w.queue with waiting := [] },
    calls := [], sleeps := [], logs := [] }

/-- Nothing in the world stops or fails a pass that the ledger does not fail. Balances can be
written, as the reports of sweeps name them. -/
structure Quiet (now : Int) (w : World) : Prop where
  clock : w.clock.toInteger = .ok now
  stopped : w.stopped = false
  pausesLeft : w.pausesLeft = none
  rest : w.rest = .recorded
  storeFailures : w.storeFailures = []
  unbounded : w.queue.limit = none
  chain : w.chain.Regular
  balances : Chain.Legible w.chain.balances
  nonces : Chain.Natural w.chain.nonces

theorem Quiet.of_still (h : w.Quiet now) (hs : w'.still = w.still)
    (balances : Chain.Legible w'.chain.balances) (nonces : Chain.Natural w'.chain.nonces) :
    w'.Quiet now where
  clock := (congrArg (·.clock.toInteger) hs).trans h.clock
  stopped := (congrArg (·.stopped) hs).trans h.stopped
  pausesLeft := (congrArg (·.pausesLeft) hs).trans h.pausesLeft
  rest := (congrArg (·.rest) hs).trans h.rest
  storeFailures := (congrArg (·.storeFailures) hs).trans h.storeFailures
  unbounded := (congrArg (·.queue.limit) hs).trans h.unbounded
  chain := h.chain.of_script (congrArg (·.chain) hs)
  balances := balances
  nonces := nonces

/-- From one world to another the account of an address may have changed, and more was recorded;
that is all. -/
structure Touches (address : String) (w w' : World) : Prop where
  still : w'.still = w.still
  shelf : w'.shelf = w.shelf
  queue : w'.queue = w.queue
  account : ∀ name, name ≠ lowerCase address → w'.chain.account name = w.chain.account name

theorem Touches.refl (address : String) (w : World) : Touches address w w :=
  ⟨rfl, rfl, rfl, fun _ _ => rfl⟩

theorem Touches.trans (h : Touches address w w') (h' : Touches address w' w'') :
    Touches address w w'' :=
  ⟨h'.still.trans h.still, h'.shelf.trans h.shelf, h'.queue.trans h.queue,
    fun name hname => (h'.account name hname).trans (h.account name hname)⟩

/-- From one world to another no more happened than that more was recorded. -/
structure Records (w w' : World) : Prop where
  still : w'.still = w.still
  shelf : w'.shelf = w.shelf
  queue : w'.queue = w.queue
  chain : w'.chain = w.chain

theorem Records.refl (w : World) : Records w w := ⟨rfl, rfl, rfl, rfl⟩

theorem Records.trans (h : Records w w') (h' : Records w' w'') : Records w w'' :=
  ⟨h'.still.trans h.still, h'.shelf.trans h.shelf, h'.queue.trans h.queue,
    h'.chain.trans h.chain⟩

theorem Records.touches (h : Records w w') (address : String) : Touches address w w' :=
  ⟨h.still, h.shelf, h.queue, fun _ _ => by rw [h.chain]⟩

theorem Records.quiet (h : Records w w') (hw : w.Quiet now) : w'.Quiet now :=
  hw.of_still h.still (h.chain ▸ hw.balances) (h.chain ▸ hw.nonces)

theorem Quiet.records_sleep (h : w.Quiet now) (seconds : Json) : Records w (w.sleep seconds) := by
  have hsleep : w.sleep seconds = { w with sleeps := seconds :: w.sleeps } := by
    simp only [World.sleep, h.rest, Scene.sleep, h.pausesLeft]
  rw [hsleep]
  exact ⟨rfl, rfl, rfl, rfl⟩

theorem records_journal (entry : LogEntry) (w : World) : Records w (World.journal entry w) :=
  ⟨rfl, rfl, rfl, rfl⟩

end World

end DepositGateway
