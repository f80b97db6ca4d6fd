import DepositGateway.Proofs.Independence.Turn

/-!
# Passes in any order

In a pass over a quiet world each entry is treated as it would be if it were alone, as long as no
two entries have the same deposit address. So a pass comes to the same whatever the order is in
which the entries were inserted.

* `Deployment.TreatsAlone`: entries were treated as each would be in a given world.
* `Deployment.runPass_alone`: a pass treats all that is kept so.
* `Deployment.runPass_perm`: two passes over the same entries come to the same.
-/

namespace DepositGateway

namespace Deployment

variable {deployment : Deployment} {now : Int} {w₀ v v' v'' : World}
  {entry : InvoiceKey × Invoice} {entries rest : List (InvoiceKey × Invoice)}

/-- The name under which the account of an entry is kept. -/
def accountName (entry : InvoiceKey × Invoice) : String := lowerCase entry.2.address

/-- The keys of the entries that do not stay. -/
def removed (deployment : Deployment) (w₀ : World) (entries : List (InvoiceKey × Invoice)) :
    List InvoiceKey :=
  (entries.filter fun entry => !(deployment.verdict w₀ entry).isLeft).map Prod.fst

/-- What is handed over for the entries. -/
def notices (deployment : Deployment) (w₀ : World) (entries : List (InvoiceKey × Invoice)) :
    List (InvoiceKey × Invoice) :=
  entries.flatMap fun entry => (deployment.verdict w₀ entry).notices entry.1

/-- What is reported of the entries. -/
def outcomes (deployment : Deployment) (w₀ : World) (entries : List (InvoiceKey × Invoice)) :
    List (InvoiceKey × InvoiceStatus) :=
  entries.map fun entry => (entry.1, (deployment.verdict w₀ entry).status)

/-- From `v` to `v'` each of the entries was treated as it would be in `w₀`, and nothing else
happened. -/
structure TreatsAlone (deployment : Deployment) (now : Int) (w₀ : World)
    (entries : List (InvoiceKey × Invoice)) (v v' : World) : Prop where
  still : v'.still = v.still
  quiet : v'.Quiet now
  sound : v'.shelf.Sound
  shelf : v'.shelf.entries =
    v.shelf.entries.filter fun entry => entry.1 ∉ deployment.removed w₀ entries
  queue : v'.queue.waiting = v.queue.waiting ++ deployment.notices w₀ entries
  accounts : ∀ entry ∈ entries,
    v'.chain.account (accountName entry) = deployment.settledAccount w₀ entry
  others : ∀ name, name ∉ entries.map accountName →
    v'.chain.account name = v.chain.account name

/-- The entries are kept, and to each of them the world looks as `w₀` does. -/
structure Awaits (now : Int) (w₀ : World) (entries : List (InvoiceKey × Invoice)) (v : World) :
    Prop where
  still : v.still = w₀.still
  quiet : v.Quiet now
  sound : v.shelf.Sound
  keys : ∀ entry ∈ entries, entry.1 ∈ v.shelf.entries.map Prod.fst
  accounts : ∀ entry ∈ entries,
    v.chain.account (accountName entry) = w₀.chain.account (accountName entry)

theorem TreatsAlone.record (h : deployment.TreatsAlone now w₀ entries v v')
    (hr : World.Records v' v'') : deployment.TreatsAlone now w₀ entries v v'' where
  still := hr.still.trans h.still
  quiet := hr.quiet h.quiet
  sound := hr.shelf ▸ h.sound
  shelf := hr.shelf ▸ h.shelf
  queue := hr.queue ▸ h.queue
  accounts := hr.chain ▸ h.accounts
  others := hr.chain ▸ h.others

theorem TreatsAlone.nil (hq : v.Quiet now) (hs : v.shelf.Sound) :
    deployment.TreatsAlone now w₀ [] v v where
  still := rfl
  quiet := hq
  sound := hs
  shelf := (List.filter_eq_self.2 fun _ _ => by simp [removed]).symm
  queue := (List.append_nil _).symm
  accounts := nofun
  others _ _ := rfl

/-- Entries are treated one after another. -/
theorem TreatsAlone.cons (h : deployment.TreatsAlone now w₀ [entry] v v')
    (hrest : deployment.TreatsAlone now w₀ rest v' v'')
    (distinct : accountName entry ∉ rest.map accountName) :
    deployment.TreatsAlone now w₀ (entry :: rest) v v'' where
  still := hrest.still.trans h.still
  quiet := hrest.quiet
  sound := hrest.sound
  shelf := by
    have hremoved (key : InvoiceKey) : key ∈ deployment.removed w₀ (entry :: rest) ↔
        key ∈ deployment.removed w₀ [entry] ∨ key ∈ deployment.removed w₀ rest := by
      rw [← List.mem_append, removed, removed, removed, ← List.map_append, ← List.filter_append]
      rfl
    rw [hrest.shelf, h.shelf, List.filter_filter]
    refine List.filter_congr fun other _ => ?_
    simp only [hremoved, ← Bool.decide_and, not_or, and_comm]
  queue := by
    rw [hrest.queue, h.queue, List.append_assoc]
    simp [notices]
  accounts other hother := by
    rcases List.mem_cons.1 hother with rfl | hother
    -- What comes after has other addresses and leaves this account as it is.
    · rw [hrest.others _ distinct, h.accounts _ List.mem_cons_self]
    · exact hrest.accounts other hother
  others name hname := by
    rw [List.map_cons, List.mem_cons, not_or] at hname
    rw [hrest.others name hname.2, h.others name (by simpa using hname.1)]

/-- What is awaited behind an entry with another address is still awaited after it. -/
theorem Awaits.after (h : Awaits now w₀ (entry :: rest) v)
    (ht : deployment.TreatsAlone now w₀ [entry] v v')
    (keys : entry.1 ∉ rest.map Prod.fst) (names : accountName entry ∉ rest.map accountName) :
    Awaits now w₀ rest v' where
  still := ht.still.trans h.still
  quiet := ht.quiet
  sound := ht.sound
  keys other hother := by
    obtain ⟨kept, hkept, hkey⟩ := List.mem_map.1 (h.keys other (List.mem_cons_of_mem _ hother))
    refine List.mem_map.2 ⟨kept, ?_, hkey⟩
    rw [ht.shelf, List.mem_filter]
    refine ⟨hkept, decide_eq_true fun hremoved => keys ?_⟩
    obtain ⟨gone, hgone, hsame⟩ := List.mem_map.1 hremoved
    obtain rfl := List.mem_singleton.1 (List.mem_filter.1 hgone).1
    rw [hsame, hkey]
    exact List.mem_map_of_mem hother
  accounts other hother := by
    rw [ht.others _ ?_, h.accounts other (List.mem_cons_of_mem _ hother)]
    rw [List.map_singleton, List.mem_singleton]
    intro hsame
    exact names (hsame ▸ List.mem_map_of_mem hother)

/-- A turn treats its entry as it would be treated in any other world that looks alike to it. -/
theorem process_alone (hs : deployment.settings.Usable) (houtlet : deployment.outlet = .queue)
    (hw : w₀.Quiet now) (hdated : entry.2.Dated) (h : Awaits now w₀ [entry] v) :
    ∃ v', (deployment.poller.process entry.1 entry.2).apply v =
        (.ok (deployment.verdict w₀ entry).status, v') ∧
      deployment.TreatsAlone now w₀ [entry] v v' := by
  -- The run in `w₀` only finds out; the run in `v` finds out the same and then acts on it.
  let c : Comparison := ⟨now, entry.2.address, w₀, v⟩
  have hbeside : c.Beside false w₀ v := {
    left := .refl _ _
    right := .refl _ _
    quietLeft := hw
    quietRight := h.quiet
    still := h.still
    account := h.accounts entry List.mem_cons_self
    sender := nofun }
  have hboth := Comparison.InStep.assess (c := c) hs entry.1 rfl hdated w₀ v hbeside
  rw [Poller.process_eq, Action.apply_bind]
  generalize halone : (deployment.poller.assess entry.1 entry.2).apply w₀ = alone at hboth
  generalize (deployment.poller.assess entry.1 entry.2).apply v = beside at hboth
  cases hboth with
  | error value => exact value.elim
  | @ok verdict w₁ v₁ _ hafter =>
    obtain ⟨hverdict, haccount⟩ := settles_of_apply halone
    have hshelf : v₁.shelf = v.shelf := hafter.right.shelf
    obtain ⟨v', henact, henacts⟩ := apply_enact houtlet hafter.quietRight (hshelf ▸ h.sound)
      (hshelf ▸ h.keys entry List.mem_cons_self) verdict
    rw [hverdict]
    refine ⟨v', henact, ?_⟩
    exact {
      still := henacts.still.trans hafter.right.still
      quiet := hafter.quietRight.of_still henacts.still
        (henacts.chain ▸ hafter.quietRight.balances) (henacts.chain ▸ hafter.quietRight.nonces)
      sound := henacts.sound
      shelf := by
        rw [henacts.shelf, hshelf]
        cases hleft : verdict.isLeft <;> simp [removed, hverdict, hleft]
      queue := by
        rw [henacts.queue, show v₁.queue = v.queue from hafter.right.queue]
        simp [notices, hverdict]
      accounts := by
        rw [List.forall_mem_singleton, haccount, henacts.chain]
        exact hafter.account
      others := by
        intro name hname
        rw [henacts.chain]
        exact hafter.right.account name (by simpa [accountName] using hname) }

theorem processAll_alone (hs : deployment.settings.Usable) (houtlet : deployment.outlet = .queue)
    (hw : w₀.Quiet now) (hdated : ∀ entry ∈ entries, entry.2.Dated)
    (keys : (entries.map Prod.fst).Nodup) (names : (entries.map accountName).Nodup)
    (h : Awaits now w₀ entries v) :
    ∃ v', (deployment.poller.processAll entries).apply v =
        (.ok (deployment.outcomes w₀ entries), v') ∧
      deployment.TreatsAlone now w₀ entries v v' := by
  -- A turn preserves `Awaits` for the entries behind it; `TreatsAlone` is what the turns add up to.
  induction entries generalizing v with
  | nil => exact ⟨v, rfl, .nil h.quiet h.sound⟩
  | cons entry rest ih =>
    rw [List.forall_mem_cons] at hdated
    rw [List.map_cons, List.nodup_cons] at keys names
    have hentry : Awaits now w₀ [entry] v := {
      still := h.still
      quiet := h.quiet
      sound := h.sound
      keys := List.forall_mem_singleton.2 (h.keys entry List.mem_cons_self)
      accounts := List.forall_mem_singleton.2 (h.accounts entry List.mem_cons_self) }
    obtain ⟨v₁, hprocess, htreats⟩ := process_alone hs houtlet hw hdated.1 hentry
    have hpaused := htreats.record (htreats.quiet.records_sleep deployment.invoiceDelay)
    obtain ⟨v₂, hrest, htreatsRest⟩ :=
      ih hdated.2 keys.2 names.2 (h.after hpaused keys.1 names.1)
    refine ⟨v₂, ?_, hpaused.cons htreatsRest names.1⟩
    have hgoing : deployment.poller.isStopped.apply v = (.ok false, v) := by
      show (Except.ok v.stopped, v) = _
      rw [h.quiet.stopped]
    have hpause : (deployment.poller.pause deployment.poller.invoiceDelay).apply v₁ =
        (.ok (), v₁.sleep deployment.invoiceDelay) := rfl
    rw [Poller.processAll, Action.apply_bind, hgoing]
    dsimp only
    rw [if_neg Bool.false_ne_true, Action.apply_bind, hprocess]
    dsimp only
    rw [Action.apply_bind, hpause]
    dsimp only
    rw [Action.apply_bind, hrest]
    rfl

/-- A pass treats each of the entries that are kept as it would be treated alone. -/
theorem runPass_alone (hs : deployment.settings.Usable) (houtlet : deployment.outlet = .queue)
    (hw : w₀.Quiet now) (hv : v.Quiet now) (hstill : v.still = w₀.still)
    (hchain : v.chain = w₀.chain) (hsound : v.shelf.Sound)
    (hdated : ∀ entry ∈ v.shelf.entries, entry.2.Dated)
    (names : (v.shelf.entries.map accountName).Nodup) :
    ∃ listed v', listed.Perm v.shelf.entries ∧
      deployment.poller.runPass.apply v = (.ok (deployment.outcomes w₀ listed), v') ∧
      deployment.TreatsAlone now w₀ listed v v' := by
  obtain ⟨listed, v₁, hlisted, hperm, hread⟩ := World.apply_getAll hv.storeFailures hsound
  have hreport := World.records_journal ⟨.info, .poller,
    "Pending invoices: " ++ Decimal.text listed.length, none⟩ v₁
  generalize hv₂ : World.journal ⟨.info, .poller,
    "Pending invoices: " ++ Decimal.text listed.length, none⟩ v₁ = v₂ at hreport
  have hrecords := hread.trans hreport
  have hawaits : Awaits now w₀ listed v₂ := {
    still := hrecords.still.trans hstill
    quiet := hrecords.quiet hv
    sound := hrecords.shelf ▸ hsound
    keys := fun entry hentry =>
      hrecords.shelf ▸ List.mem_map_of_mem (hperm.mem_iff.1 hentry)
    accounts := fun entry _ => by rw [hrecords.chain, hchain] }
  obtain ⟨v', hall, htreats⟩ := processAll_alone hs houtlet hw
    (fun entry hentry => hdated entry (hperm.mem_iff.1 hentry))
    ((hperm.map Prod.fst).nodup_iff.2 v.shelf.keys_nodup) ((hperm.map _).nodup_iff.2 names) hawaits
  refine ⟨listed, v', hperm, ?_, ?_⟩
  · have hgetAll : deployment.poller.store.getAll.apply v = (.ok listed, v₁) := hlisted
    rw [Poller.runPass, Action.apply_attempt_bind, hgetAll]
    dsimp only
    rw [Action.apply_bind, ← hall, ← hv₂]
    rfl
  · exact {
      still := htreats.still.trans hrecords.still
      quiet := htreats.quiet
      sound := htreats.sound
      shelf := hrecords.shelf ▸ htreats.shelf
      queue := hrecords.queue ▸ htreats.queue
      accounts := htreats.accounts
      others := hrecords.chain ▸ htreats.others }

/-- What is left of the same entries after the same keys were removed is the same. -/
theorem filter_removed_perm {first second listed listed' : List (InvoiceKey × Invoice)}
    (same : second.Perm first) (hlisted : listed'.Perm listed) :
    (second.filter fun entry => entry.1 ∉ deployment.removed w₀ listed').Perm
      (first.filter fun entry => entry.1 ∉ deployment.removed w₀ listed) := by
  have hremoved : (deployment.removed w₀ listed').Perm (deployment.removed w₀ listed) :=
    (hlisted.filter _).map _
  simp only [hremoved.mem_iff]
  exact same.filter _

/-- Let two stores keep the same entries, inserted in any order, under addresses that differ by more
than case. Then a pass over a quiet world reports the same status for each key, leaves the same
entries, hands over equal invoices under equal keys, and leaves the same balances and nonces. -/
theorem runPass_perm {deployment : Deployment} {now : Int} {w : World} {shelf : Shelf}
    (hs : deployment.settings.Usable) (houtlet : deployment.outlet = .queue) (hw : w.Quiet now)
    (sound : w.shelf.Sound) (sound' : shelf.Sound) (same : shelf.entries.Perm w.shelf.entries)
    (hdated : ∀ entry ∈ w.shelf.entries, entry.2.Dated)
    (names : (w.shelf.entries.map accountName).Nodup) :
    ∃ outcomes outcomes' w' v',
      deployment.poller.runPass.apply w = (.ok outcomes, w') ∧
      deployment.poller.runPass.apply { w with shelf } = (.ok outcomes', v') ∧
      (outcomes.map Prod.fst).Perm (w.shelf.entries.map Prod.fst) ∧
      outcomes'.Perm outcomes ∧
      v'.shelf.entries.Perm w'.shelf.entries ∧
      (∃ notices notices', w'.queue.waiting = w.queue.waiting ++ notices ∧
        v'.queue.waiting = w.queue.waiting ++ notices' ∧ notices'.Perm notices) ∧
      v'.chain.tokenBalances = w'.chain.tokenBalances ∧
      ∀ name, v'.chain.account name = w'.chain.account name := by
  have hv : World.Quiet now { w with shelf } := hw.of_still rfl hw.balances hw.nonces
  obtain ⟨listed, w', hperm, hrun, htreats⟩ :=
    runPass_alone hs houtlet hw hw rfl rfl sound hdated names
  obtain ⟨listed', v', hperm', hrun', htreats'⟩ := runPass_alone (v := { w with shelf }) hs houtlet
    hw hv rfl rfl sound' (fun entry hentry => hdated entry (same.mem_iff.1 hentry))
    ((same.map _).nodup_iff.2 names)
  have hlisted : listed'.Perm listed := hperm'.trans (same.trans hperm.symm)
  refine ⟨_, _, w', v', hrun, hrun', ?_, hlisted.map _, ?_, ?_, ?_, fun name => ?_⟩
  · rw [outcomes, List.map_map]
    exact hperm.map _
  · rw [htreats.shelf, htreats'.shelf]
    exact filter_removed_perm same hlisted
  · exact ⟨_, _, htreats.queue, htreats'.queue, hlisted.flatMap_right _⟩
  · have htokens : w'.chain.tokenBalances = w.chain.tokenBalances :=
      congrArg (·.chain.tokenBalances) htreats.still
    have htokens' : v'.chain.tokenBalances = w.chain.tokenBalances :=
      congrArg (·.chain.tokenBalances) htreats'.still
    rw [htokens, htokens']
  · by_cases hname : name ∈ listed.map accountName
    · obtain ⟨entry, hentry, rfl⟩ := List.mem_map.1 hname
      rw [htreats.accounts entry hentry, htreats'.accounts entry (hlisted.mem_iff.2 hentry)]
    · rw [htreats.others name hname,
        htreats'.others name fun h => hname ((hlisted.map _).mem_iff.1 h)]

/-- Sweeps go to an address of zeros. -/
def plain : Deployment where
  settings := { treasury := "0x0000000000000000000000000000000000000000" }

/-- An order for seven at an address. -/
def order (address : String) : Invoice where
  address := address
  wallet := ⟨List.replicate 31 0 ++ [1]⟩
  amount := 7
  expires := .int 1700000000

/-- A paid order and an unpaid one. -/
def paidFirst : Keyed InvoiceKey Invoice where
  entries := [(.text "paid", order "A"), (.text "unpaid", order "B")]
  distinct := by decide

def unpaidFirst : Keyed InvoiceKey Invoice where
  entries := [(.text "unpaid", order "B"), (.text "paid", order "A")]
  distinct := by decide

/-- Only the first address holds more than it should be paid. -/
def twoOrders : World where
  chain := { balances := [("a", .int 1000000), ("b", .int 6)] }
  shelf := .memory paidFirst

theorem plain_usable : plain.settings.Usable where
  gasLimit := .inl rfl
  feeRetries := ⟨_, rfl⟩
  feeRetryDelay := ⟨_, rfl⟩

theorem twoOrders_quiet : twoOrders.Quiet 1700000000 where
  clock := rfl
  stopped := rfl
  pausesLeft := rfl
  rest := rfl
  storeFailures := rfl
  unbounded := rfl
  chain := {
    chainId := ⟨1337, rfl⟩
    gasPrice := ⟨10, rfl⟩
    baseFee := .inr ⟨100, rfl⟩
    feeSamples := ⟨[(300, 20), (500, 40)], rfl⟩
    baseFeeQueue := rfl
    feeSamplesQueue := rfl
    gas := ⟨21000, rfl⟩
    receipt := .inl rfl
    tokenBalances := fun _ h => absurd h List.not_mem_nil
    failures := fun _ h => absurd h List.not_mem_nil }
  balances := List.forall_mem_cons.2 ⟨⟨1000000, by decide +kernel, rfl⟩,
    List.forall_mem_singleton.2 ⟨6, by decide +kernel, rfl⟩⟩
  nonces := fun _ h => absurd h List.not_mem_nil

theorem runPass_perm_twoOrders : ∃ outcomes outcomes' w' v',
    plain.poller.runPass.apply twoOrders = (.ok outcomes, w') ∧
    plain.poller.runPass.apply { twoOrders with shelf := .memory unpaidFirst } =
      (.ok outcomes', v') ∧
    outcomes'.Perm outcomes ∧ ∀ name, v'.chain.account name = w'.chain.account name := by
  have hsound : twoOrders.shelf.Sound :=
    show ∀ key ∈ paidFirst.keys, key.isSingle = true by decide
  have hsound' : (Shelf.memory unpaidFirst).Sound :=
    show ∀ key ∈ unpaidFirst.keys, key.isSingle = true by decide
  have hdated : ∀ entry ∈ twoOrders.shelf.entries, entry.2.Dated :=
    List.forall_mem_cons.2 ⟨fun _ => ⟨_, rfl⟩, List.forall_mem_singleton.2 fun _ => ⟨_, rfl⟩⟩
  have hnames : (twoOrders.shelf.entries.map accountName).Nodup := by decide
  obtain ⟨outcomes, outcomes', w', v', hrun, hrun', -, hsame, -, -, -, haccounts⟩ :=
    runPass_perm plain_usable rfl twoOrders_quiet hsound hsound' (.swap _ _ _) hdated hnames
  exact ⟨outcomes, outcomes', w', v', hrun, hrun', hsame, haccounts⟩

end Deployment

end DepositGateway
