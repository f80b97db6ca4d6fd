import DepositGateway.Proofs.Independence.Shelf
import DepositGateway.Proofs.Independence.Sweep
import DepositGateway.Proofs.Poller.Orderly

/-!
# Turns that find out before they act

To treat an invoice is to find out about it, in lockstep with any world that looks alike to it, and
then to remove it and hand it over, which changes nothing but what is kept and what waits.

* `Poller.assess`, `Poller.enact`: the two halves. `Poller.process_eq`: they make up a treatment.
* `InStep.assess`: the first half is in step and never fails.
* `Deployment.apply_enact`: what the second half does to a quiet world.
-/

namespace DepositGateway

namespace Poller

/-- What is found out about an invoice before it is removed or handed over. -/
inductive Verdict where
  /-- It is not overdue, and not known to be paid. -/
  | left
  | overdue
  /-- It is paid and was swept, whatever became of that; `notice` is what is handed over. -/
  | paid (status : InvoiceStatus) (notice : Invoice)

variable {ω : Type} (poller : Poller ω)

/-- Finds out about an invoice, and sweeps it if it is paid. -/
def assess (key : InvoiceKey) (invoice : Invoice) : Action ω Verdict := do
  let now ← poller.now
  if ← Action.ofExcept (invoice.isExpired (.int now)) then
    poller.info ("Invoice " ++ key.display ++ " expired")
    return .overdue
  else
    match ← Action.attempt (poller.isPaid invoice) with
    | .ok true => do
      let detectedAt ← poller.now
      poller.info
        ("Payment detected for invoice " ++ key.display ++ ", starting transfer to treasury")
      let (status, swept) ← poller.settle key invoice
      return .paid status { swept with paidAt := .int detectedAt }
    | .ok false => return .left
    | .error (.ledger fault) => do
      poller.journal.error .poller
        ("Failed to check balance of " ++ invoice.address ++ ": " ++ fault.text)
      return .left
    | .error fault => Action.fail fault

/-- Removes and hands over an invoice as its verdict has it. -/
def enact (key : InvoiceKey) : Verdict → Action ω InvoiceStatus
  | .left => return .pending
  | .overdue => do
    poller.remove key
    return .expired
  | .paid status notice => do
    poller.warnOfTokens key notice
    poller.remove key
    let _ ← deliver poller.notifier poller.journal key notice
    return status

/-- A treatment finds out first, and then removes and hands over. -/
theorem process_eq (key : InvoiceKey) (invoice : Invoice) :
    poller.process key invoice = (do poller.enact key (← poller.assess key invoice)) := by
  -- Both sides make the same calls until the verdict; they are taken off one by one.
  unfold process assess
  rw [bind_assoc]
  congr 1
  funext now
  rw [bind_assoc]
  congr 1
  funext past
  cases past with
  | true =>
    simp only [if_true, bind_assoc, pure_bind]
    rfl
  | false =>
    simp only [Bool.false_eq_true, if_false, bind_assoc]
    congr 1
    funext answer
    cases answer with
    | ok paid =>
      cases paid with
      | true =>
        simp only [handlePaid, bind_assoc, pure_bind]
        rfl
      | false => rfl
    | error fault =>
      cases fault with
      | ledger reason =>
        simp only [bind_assoc, pure_bind]
        rfl
      | _ => rfl

end Poller

/-! ## Finding out in lockstep -/

/-- The last moment of an unpaid invoice is a number. -/
def Invoice.Dated (invoice : Invoice) : Prop :=
  invoice.isPending = true → ∃ last, invoice.expires.asNumber? = some last

namespace Comparison.InStep

variable {c : Comparison} {deployment : Deployment} {before : Bool} {E : Fault → Prop}

theorem now : c.InStep before deployment.poller.now before (· = c.now) E := by
  have hread : c.InStep before (Action.step World.readClock) before
      (fun reading => reading.toInteger = .ok c.now) E :=
    read fun w v beside => ⟨congrArg (·.clock) beside.still, beside.quietLeft.clock⟩
  exact bind hread fun reading hreading => known hreading

theorem isPaid {invoice : Invoice} (haddress : invoice.address = c.address) :
    c.InStep before (deployment.poller.isPaid invoice) before (fun _ => True) Fault.IsLedger := by
  have hread : c.InStep before (deployment.poller.balanceOf invoice) before
      (fun answer => ∃ balance : Nat, answer = .int balance) Fault.IsLedger := by
    unfold Poller.balanceOf
    rw [haddress]
    split
    · exact nativeBalance.imp fun answer ⟨balance, _, hbalance⟩ => ⟨balance, hbalance⟩
    · exact tokenBalance _ _
  refine bind hread fun balance hbalance => ?_
  obtain ⟨balance, rfl⟩ := hbalance
  exact ofExcept (fun _ _ => trivial) nofun

theorem settle (hs : deployment.settings.Usable) (key : InvoiceKey) {invoice : Invoice}
    (haddress : invoice.address = c.address) :
    c.InStep before (deployment.poller.settle key invoice) false (fun _ => True) E := by
  refine attempt_bind (sweep hs haddress) (fun found _ => (InStep.pure trivial).forget)
    fun fault hfault => ?_
  obtain ⟨reason, rfl⟩ := hfault
  exact bind (report _ _ _) fun _ _ => InStep.pure trivial

/-- To find out about an invoice is in step and never fails. -/
theorem assess (hs : deployment.settings.Usable) (key : InvoiceKey) {invoice : Invoice}
    (haddress : invoice.address = c.address) (hdated : invoice.Dated) :
    c.InStep before (deployment.poller.assess key invoice) false (fun _ => True)
      fun _ => False := by
  refine bind now fun moment hmoment => ?_
  subst hmoment
  refine bind (ofExcept (P := fun _ => True) (fun _ _ => trivial)
    fun fault hfault => isExpired_ne_error hdated hfault) fun past _ => ?_
  split
  · exact bind (report _ _ _) fun _ _ => (InStep.pure trivial).forget
  · refine attempt_bind (isPaid haddress) (fun paid _ => ?_) fun fault hfault => ?_
    · cases paid with
      | true =>
        refine bind now fun _ _ => bind (report _ _ _) fun _ _ => ?_
        exact bind (settle hs key haddress) fun _ _ => (InStep.pure trivial).forget
      | false => exact (InStep.pure trivial).forget
    · obtain ⟨reason, rfl⟩ := hfault
      exact bind (report _ _ _) fun _ _ => (InStep.pure trivial).forget

end Comparison.InStep

/-! ## Acting on a verdict -/

namespace Poller.Verdict

/-- The status that is reported. -/
def status : Verdict → InvoiceStatus
  | left => .pending
  | overdue => .expired
  | paid status _ => status

/-- Whether the invoice stays where it is. -/
def isLeft : Verdict → Bool
  | left => true
  | _ => false

/-- What is handed over under a key. -/
def notices (key : InvoiceKey) : Verdict → List (InvoiceKey × Invoice)
  | paid _ notice => [(key, notice)]
  | _ => []

end Poller.Verdict

/-- An invoice is removed and handed over as its verdict has it, and no more happens. -/
structure World.Enacts (key : InvoiceKey) (verdict : Poller.Verdict) (w w' : World) : Prop where
  still : w'.still = w.still
  chain : w'.chain = w.chain
  sound : w'.shelf.Sound
  shelf : w'.shelf.entries =
    if verdict.isLeft then w.shelf.entries
    else w.shelf.entries.filter fun entry => entry.1 ≠ key
  queue : w'.queue.waiting = w.queue.waiting ++ verdict.notices key

namespace Deployment

variable {deployment : Deployment} {now : Int} {w : World} {key : InvoiceKey}

theorem apply_remove (deployment : Deployment) (hf : w.storeFailures = []) (hs : w.shelf.Sound)
    (hk : key ∈ w.shelf.entries.map Prod.fst) :
    ∃ shelf, (deployment.poller.remove key).apply w = (.ok (), { w with shelf }) ∧ shelf.Sound ∧
      shelf.entries = w.shelf.entries.filter fun entry => entry.1 ≠ key := by
  obtain ⟨shelf, hdelete, hsound, hentries⟩ := World.apply_delete hf hs hk
  refine ⟨shelf, ?_, hsound, hentries⟩
  have hpoller : (deployment.poller.store.delete key).apply w = (.ok (), { w with shelf }) :=
    hdelete
  rw [Poller.remove, Action.apply_attempt_bind, hpoller]
  rfl

theorem apply_deliver (houtlet : deployment.outlet = .queue) (hlimit : w.queue.limit = none)
    (key : InvoiceKey) (notice : Invoice) :
    (deliver deployment.poller.notifier deployment.poller.journal key notice).apply w =
      (.ok true, { w with queue := w.queue.push key notice }) := by
  have hsend : (deployment.poller.notifier.send key notice).apply w =
      (.ok (), { w with queue := w.queue.push key notice }) := by
    have hnotifier : deployment.poller.notifier = .ofQueue World.waiting := by
      rw [poller, houtlet]
      rfl
    have hfull : (World.waiting.look w).isFull = false := by
      rw [NoticeQueue.isFull, show (World.waiting.look w).limit = none from hlimit]
    rw [hnotifier, Notifier.ofQueue, Action.apply_bind, Cell.apply_read, hfull]
    rfl
  rw [deliver, Action.apply_attempt_bind, hsend]
  rfl

theorem apply_enact (houtlet : deployment.outlet = .queue) (hw : w.Quiet now)
    (hs : w.shelf.Sound) (hk : key ∈ w.shelf.entries.map Prod.fst) (verdict : Poller.Verdict) :
    ∃ w', (deployment.poller.enact key verdict).apply w = (.ok verdict.status, w') ∧
      World.Enacts key verdict w w' := by
  cases verdict with
  | left => exact ⟨w, rfl, rfl, rfl, hs, rfl, (List.append_nil _).symm⟩
  | overdue =>
    obtain ⟨shelf, hremove, hsound, hentries⟩ :=
      deployment.apply_remove hw.storeFailures hs hk
    refine ⟨{ w with shelf }, ?_, rfl, rfl, hsound, hentries, (List.append_nil _).symm⟩
    rw [Poller.enact, Action.apply_bind, hremove]
    rfl
  | paid status notice =>
    obtain ⟨warned, hwarn, hrecords⟩ : ∃ warned,
        (deployment.poller.warnOfTokens key notice).apply w = (.ok (), warned) ∧
          World.Records w warned := by
      unfold Poller.warnOfTokens
      split
      · exact ⟨w, rfl, .refl w⟩
      · exact ⟨_, rfl, World.records_journal _ w⟩
    have hquiet := hrecords.quiet hw
    obtain ⟨shelf, hremove, hsound, hentries⟩ := deployment.apply_remove
      hquiet.storeFailures (hrecords.shelf ▸ hs) (hrecords.shelf ▸ hk)
    have hdeliver :=
      apply_deliver houtlet (show { warned with shelf }.queue.limit = none from hquiet.unbounded)
        key notice
    refine ⟨{ warned with shelf, queue := warned.queue.push key notice }, ?_, ?_, ?_, hsound, ?_,
      ?_⟩
    · rw [Poller.enact, Action.apply_bind, hwarn]
      dsimp only
      rw [Action.apply_bind, hremove]
      dsimp only
      rw [Action.apply_bind, hdeliver]
      rfl
    · exact hrecords.still
    · exact hrecords.chain
    · rw [← hrecords.shelf]
      exact hentries
    · rw [← hrecords.queue]
      rfl

/-! ## Turns -/

/-- What is found out about an entry in a world, whatever else would be treated before it. -/
def verdict (deployment : Deployment) (w : World) (entry : InvoiceKey × Invoice) :
    Poller.Verdict :=
  match ((deployment.poller.assess entry.1 entry.2).apply w).1 with
  | .ok verdict => verdict
  | .error _ => .left

/-- The account of the deposit address of an entry after that. -/
def settledAccount (deployment : Deployment) (w : World) (entry : InvoiceKey × Invoice) :
    Option Json × Option Json :=
  ((deployment.poller.assess entry.1 entry.2).apply w).2.chain.account
    (lowerCase entry.2.address)

theorem settles_of_apply {w' : World} {entry : InvoiceKey × Invoice} {found : Poller.Verdict}
    (h : (deployment.poller.assess entry.1 entry.2).apply w = (.ok found, w')) :
    deployment.verdict w entry = found ∧
      deployment.settledAccount w entry = w'.chain.account (lowerCase entry.2.address) := by
  rw [verdict, settledAccount, h]
  exact ⟨rfl, rfl⟩

end Deployment

end DepositGateway
