import DepositGateway.Proofs.Sweep.Vacant

/-!
# Repeated sweeps

A transaction that the chain accepted has emptied the account of its sender. Until something is
deposited there again, no further sweep of that address hands anything in: it reads that nothing is
held, or fails before.

* `Sweeper.SweepCourse.vacates`: a sweep whose transaction was accepted leaves its address vacant.
  `Sweeper.SweepCourse.futile`: a sweep of a vacant address comes to nothing.
* `Deployment.attempts`: sweeps one after the other, with changes of the chain in between.
* `Deployment.swept_once`: at most one transaction is accepted for each address, and later sweeps of
  it are futile.
* `Deployment.swept_again_unsampled`: a later sweep for which no fees can be had tells that, and not
  that nothing is left.
-/

namespace DepositGateway

namespace Sweeper

variable {deployment : Deployment} {w w' : World} {events : List Event}

/-! ## Single sweeps -/

/-- After a sweep whose transaction was accepted nothing is held under its address. -/
theorem SweepCourse.vacates {invoice : Invoice} {result : Except Fault (String × Json)}
    (h : SweepCourse deployment.sweeper invoice result events)
    (hp : deployment.sweeper.Passage w events w') (hr : w.rest = .recorded)
    (hc : w.chain.Sensible) {raw : Bytes} {hash : String}
    (hm : .submitted raw (.ok hash) ∈ events) : w'.chain.Vacant invoice.address := by
  cases h with
  | invalidKey => cases hm
  | undrafted _ undrafted => exact absurd hm (undrafted.not_submitted _ _)
  | @transmitted _ draft _ readings others _ drafted transmission =>
    obtain ⟨nonce, hnonce⟩ := drafted.counts
    have hsender : readings.foldl senderAfter w.chain.sender = invoice.address :=
      foldl_senderAfter (fun other nonce hmem => drafted.asks hmem) (.inr ⟨nonce, hnonce⟩)
    have hothers : .submitted raw (.ok hash) ∈ others :=
      (List.mem_append.mp hm).resolve_left (drafted.not_submitted _ _)
    cases transmission with
    | unreported | unsigned => cases hothers
    | refused => simp at hothers
    | accepted =>
      rw [← hsender]
      exact hp.vacates hr hc

/-- What a sweep of an address under which nothing is held comes to. -/
structure Futile (settings : SweepSettings) (invoice : Invoice)
    (result : Except Fault (String × Json)) (events : List Event) : Prop where
  fails : ∃ fault, result = .error (.transfer fault)
  submitsNothing : ∀ raw answer, .submitted raw answer ∉ events
  /-- With a valid key, and where everything that is asked is told, there is nothing to sweep. -/
  nothing : invoice.wallet.scalar?.isSome → Unrefused events →
    (settings.kind = .feeMarket → Sampled events) →
    ∃ text, result = .error (.transfer (.nothingToSweep text))

theorem SweepCourse.futile {invoice : Invoice} {result : Except Fault (String × Json)}
    (h : SweepCourse deployment.sweeper invoice result events)
    (hp : deployment.sweeper.Passage w events w') (hs : deployment.settings.Sound)
    (hr : w.rest = .recorded) (hc : w.chain.Sensible) (hv : w.chain.Vacant invoice.address) :
    Futile deployment.settings invoice result events := by
  have hsteady := hp.steady hr hc
  have hread := (hsteady.vacant hv).2
  have hproper {readings : List Event} {drafted : Except Fault Draft}
      (hd : DraftCourse deployment.sweeper invoice.address drafted readings)
      (hsub : readings ⊆ events) : ∀ event ∈ readings, event.Proper := by
    intro event hmem
    have hreads := hd.reads event hmem
    cases event with
    | asked question answer => exact hsteady.proper _ _ (hsub hmem) (hd.asks hmem)
    | paused => trivial
    | _ => exact hreads.elim
  cases h with
  | invalidKey invalid =>
    refine ⟨⟨_, rfl⟩, by simp, fun hvalid => ?_⟩
    rw [invalid] at hvalid
    cases hvalid
  | undrafted _ undrafted =>
    have hreadings := hproper undrafted (List.Subset.refl _)
    -- A balance of zero can be written.
    have htells := (undrafted.tells hs hreadings).resolve_right
      fun ⟨_, balance, hmem, hlong⟩ => hlong (hread _ hmem ▸ Number.isWritable_zero)
    obtain ⟨fault, rfl⟩ := htells.family rfl
    refine ⟨⟨fault, rfl⟩, undrafted.not_submitted, fun _ hunrefused hsampled => ?_⟩
    obtain ⟨q, hq, -, hnothing⟩ := undrafted.nothing_left hs.limited
      (fun event hmem => (hreadings event hmem).natural) hunrefused hsampled
    have hzero : Json.int q.balance = .int 0 := hread _ ((hq.balance _).mpr rfl)
    rw [hzero] at hnothing
    exact ⟨_, congrArg Except.error (hnothing.trans (if_pos Number.isWritable_zero))⟩
  | @transmitted _ draft _ readings others _ drafted transmission =>
    -- A draft leaves something to move, but the balance that was read is zero.
    have hreadings := hproper drafted (List.subset_append_left _ _)
    obtain ⟨q, hq, hlt, -⟩ := drafted.draft_eq hs.limited
      fun event hmem => (hreadings event hmem).natural
    have hmem : .asked (.nativeBalance invoice.address) (.ok (.int q.balance)) ∈ readings :=
      (hq.balance _).mpr rfl
    have hzero := hread _ (List.mem_append_left _ hmem)
    have hbalance : (q.balance : Int) = 0 := Number.int.inj (Json.num.inj hzero)
    omega

end Sweeper

/-- Whether a call is a submission that was accepted. -/
def Event.isAccepted : Event → Bool
  | submitted _ (.ok _) => true
  | _ => false

/-- A sweep makes one submission at most. -/
theorem Sweeper.SweepCourse.accepted_le {ω : Type} {sweeper : Sweeper ω} {invoice : Invoice}
    {result : Except Fault (String × Json)} {events : List Event}
    (h : SweepCourse sweeper invoice result events) : events.countP Event.isAccepted ≤ 1 := by
  have hreadings {drafted : Except Fault Draft} {readings : List Event}
      (hd : DraftCourse sweeper invoice.address drafted readings) :
      readings.countP Event.isAccepted = 0 := by
    refine List.countP_eq_zero.mpr fun event hmem => ?_
    have hreads := hd.reads event hmem
    cases event with
    | submitted => exact hreads.elim
    | _ => simp [Event.isAccepted]
  cases h with
  | invalidKey => simp
  | undrafted _ undrafted => simp [hreadings undrafted]
  | transmitted _ drafted transmission =>
    rw [List.countP_append, hreadings drafted, Nat.zero_add]
    cases transmission <;> simp [List.countP_cons, Event.isAccepted]

/-! ## Runs -/

/-- A sweep that was made. -/
structure Attempt where
  invoice : Invoice
  result : Except Fault (String × Json)
  /-- The calls that were made. -/
  events : List Event

namespace Attempt

/-- The ledger accepted a transaction. -/
def Accepted (attempt : Attempt) : Prop := ∃ raw hash, .submitted raw (.ok hash) ∈ attempt.events

/-- Two sweeps are of one address, whatever its case. -/
def SameAddress (attempt other : Attempt) : Prop :=
  lowerCase attempt.invoice.address = lowerCase other.invoice.address

end Attempt

/-- How many transactions were accepted for an address, whatever its case. -/
def acceptances (address : String) (attempts : List Attempt) : Nat :=
  ((attempts.filter fun attempt => lowerCase attempt.invoice.address = lowerCase address).flatMap
    Attempt.events).countP Event.isAccepted

theorem Attempt.accepted_iff (attempt : Attempt) :
    attempt.Accepted ↔ 0 < attempt.events.countP Event.isAccepted := by
  rw [List.countP_pos_iff]
  constructor
  · rintro ⟨raw, hash, hmem⟩
    exact ⟨_, hmem, rfl⟩
  · rintro ⟨event, hmem, haccepted⟩
    cases event with
    | submitted raw answer =>
      cases answer with
      | ok hash => exact ⟨raw, hash, hmem⟩
      | error => cases haccepted
    | _ => cases haccepted

theorem acceptances_cons (address : String) (attempt : Attempt) (rest : List Attempt) :
    acceptances address (attempt :: rest) =
      (if lowerCase attempt.invoice.address = lowerCase address then
        attempt.events.countP Event.isAccepted else 0) + acceptances address rest := by
  unfold acceptances
  by_cases hsame : lowerCase attempt.invoice.address = lowerCase address
  · simp [hsame]
  · simp [hsame]

/-- Where nothing of an address is accepted after something was, one transaction is at most. -/
theorem acceptances_le_one {attempts : List Attempt} (address : String)
    (honce : ∀ attempt ∈ attempts, attempt.events.countP Event.isAccepted ≤ 1)
    (hlater : attempts.Pairwise fun earlier later =>
      earlier.Accepted → later.SameAddress earlier → ¬ later.Accepted) :
    acceptances address attempts ≤ 1 := by
  induction attempts with
  | nil => simp [acceptances]
  | cons first rest ih =>
    rw [List.forall_mem_cons] at honce
    rw [List.pairwise_cons] at hlater
    have hrest := ih honce.2 hlater.2
    rw [acceptances_cons]
    by_cases hfirst : first.Accepted ∧ lowerCase first.invoice.address = lowerCase address
    · have hnone : acceptances address rest = 0 := by
        refine List.countP_eq_zero.mpr fun event hmem haccepted => ?_
        obtain ⟨later, hfiltered, hevent⟩ := List.mem_flatMap.mp hmem
        rw [List.mem_filter, decide_eq_true_eq] at hfiltered
        refine hlater.1 later hfiltered.1 hfirst.1 (hfiltered.2.trans hfirst.2.symm) ?_
        rw [later.accepted_iff, List.countP_pos_iff]
        exact ⟨event, hevent, haccepted⟩
      have hone := honce.1
      split <;> omega
    · have hnone : (if lowerCase first.invoice.address = lowerCase address then
          first.events.countP Event.isAccepted else 0) = 0 := by
        split
        · next hsame =>
          have hrefused : ¬ first.Accepted := fun haccepted => hfirst ⟨haccepted, hsame⟩
          rw [first.accepted_iff] at hrefused
          omega
        · rfl
      omega

/-- A sweep to be made, after a change of the chain. -/
structure Errand where
  change : Chain → Chain := id
  invoice : Invoice

namespace Deployment

variable (deployment : Deployment)

/-- Makes a sweep. -/
def attempt (invoice : Invoice) (w : World) : Attempt × World :=
  let (result, after) := (deployment.sweeper.sweep invoice).apply w
  ({ invoice, result, events := deployment.sweeper.calls invoice w }, after)

/-- Makes sweeps one after the other. -/
def attempts : List Errand → World → List Attempt × World
  | [], w => ([], w)
  | errand :: rest, w =>
    let (first, w) := deployment.attempt errand.invoice
      { w with chain := errand.change w.chain }
    let (others, w) := attempts rest w
    (first :: others, w)

variable {deployment : Deployment} {w : World}

theorem attempt_eq {invoice : Invoice} {w' : World} {result : Except Fault (String × Json)}
    {events : List Event}
    (h : Shows (deployment.sweeper.sweep invoice) (deployment.sweeper.traced.sweep invoice) w result
      events w') : deployment.attempt invoice w = (⟨invoice, result, events⟩, w') := by
  rw [attempt, h.plain, Sweeper.calls_eq h]

/-- A sweep as it is made, with what it leaves. -/
theorem exists_attempt (deployment : Deployment) (invoice : Invoice) (w : World) :
    ∃ result events w', deployment.attempt invoice w = (⟨invoice, result, events⟩, w') ∧
      Sweeper.SweepCourse deployment.sweeper invoice result events ∧
      deployment.sweeper.Passage w events w' := by
  obtain ⟨result, events, w', hshows, hcourse, hpassage⟩ :=
    deployment.sweeper.exists_passage invoice w
  exact ⟨result, events, w', attempt_eq hshows, hcourse, hpassage⟩

/-- Where nothing is held, all that is made comes to nothing. -/
theorem futile_of_vacant (hs : deployment.settings.Sound) {errands : List Errand}
    (hd : ∀ errand ∈ errands, Chain.Withholds errand.change) (hc : w.chain.Sensible)
    (hr : w.rest = .recorded) {address : String} (hv : w.chain.Vacant address) :
    ∀ attempt ∈ (deployment.attempts errands w).1,
      lowerCase attempt.invoice.address = lowerCase address →
      Sweeper.Futile deployment.settings attempt.invoice attempt.result attempt.events := by
  induction errands generalizing w with
  | nil => simp [attempts]
  | cons errand rest ih =>
    rw [List.forall_mem_cons] at hd
    obtain ⟨result, events, w', hattempt, hcourse, hpassage⟩ :=
      deployment.exists_attempt errand.invoice { w with chain := errand.change w.chain }
    have hsensible := hd.1.sensible hc
    have hvacant := hd.1.vacant hv
    have hsteady := hpassage.steady hr hsensible
    rw [attempts, hattempt]
    intro attempt hmem hsame
    rcases List.mem_cons.mp hmem with rfl | hmem
    · exact hcourse.futile hpassage hs hr hsensible (hvacant.congr hsame)
    · exact ih hd.2 hsteady.sensible hsteady.rest (hsteady.vacant hvacant).1 attempt hmem hsame

/-- Sweeps of one address that follow an accepted one come to nothing. -/
theorem attempts_pairwise (hs : deployment.settings.Sound) {errands : List Errand}
    (hd : ∀ errand ∈ errands, Chain.Withholds errand.change) (hc : w.chain.Sensible)
    (hr : w.rest = .recorded) :
    (deployment.attempts errands w).1.Pairwise fun earlier later =>
      earlier.Accepted → later.SameAddress earlier →
        Sweeper.Futile deployment.settings later.invoice later.result later.events := by
  induction errands generalizing w with
  | nil => exact .nil
  | cons errand rest ih =>
    rw [List.forall_mem_cons] at hd
    obtain ⟨result, events, w', hattempt, hcourse, hpassage⟩ :=
      deployment.exists_attempt errand.invoice { w with chain := errand.change w.chain }
    have hsensible := hd.1.sensible hc
    have hsteady := hpassage.steady hr hsensible
    rw [attempts, hattempt]
    refine .cons (fun later hmem haccepted hsame => ?_) (ih hd.2 hsteady.sensible hsteady.rest)
    obtain ⟨raw, hash, haccepted⟩ := haccepted
    have hvacant := hcourse.vacates hpassage hr hsensible haccepted
    exact futile_of_vacant hs hd.2 hsteady.sensible hsteady.rest hvacant later hmem hsame

/-- Every sweep that is made submits once at most. -/
theorem attempts_once (errands : List Errand) (w : World) :
    ∀ attempt ∈ (deployment.attempts errands w).1, attempt.events.countP Event.isAccepted ≤ 1 := by
  induction errands generalizing w with
  | nil => simp [attempts]
  | cons errand rest ih =>
    obtain ⟨result, events, w', hattempt, hcourse, -⟩ :=
      deployment.exists_attempt errand.invoice { w with chain := errand.change w.chain }
    rw [attempts, hattempt]
    exact List.forall_mem_cons.mpr ⟨hcourse.accepted_le, ih w'⟩

/-- Sweeps of any invoices are made one after the other, on a chain that is changed in between but
where nothing is deposited. At most one transaction is accepted for each address. Every sweep of it
after that fails as sweeps do and submits nothing, and if its key is valid and all that it asks is
told, there is nothing to sweep. -/
theorem swept_once (deployment : Deployment) (hs : deployment.settings.Sound)
    {errands : List Errand} (hd : ∀ errand ∈ errands, Chain.Withholds errand.change) {w : World}
    (hc : w.chain.Sensible) (hr : w.rest = .recorded) :
    (∀ address, acceptances address (deployment.attempts errands w).1 ≤ 1) ∧
      (deployment.attempts errands w).1.Pairwise fun earlier later =>
        earlier.Accepted → later.SameAddress earlier →
          Sweeper.Futile deployment.settings later.invoice later.result later.events := by
  have hpairwise := attempts_pairwise hs hd hc hr
  refine ⟨fun address => acceptances_le_one address (attempts_once errands w) ?_, hpairwise⟩
  refine hpairwise.imp fun hfutile haccepted hsame => ?_
  rintro ⟨raw, hash, hmem⟩
  exact (hfutile haccepted hsame).submitsNothing raw (.ok hash) hmem

/-! ### Two sweeps of one invoice -/

open Sweeper

theorem attempt_fst (deployment : Deployment) (invoice : Invoice) (w : World) :
    (deployment.attempt invoice w).1 = ⟨invoice, ((deployment.sweeper.sweep invoice).apply w).1,
      deployment.sweeper.calls invoice w⟩ := rfl

/-- A deployment on a market of fees that looks for them once. -/
def marketed : Deployment where
  settings := {
    treasury := "0xbeef"
    kind := .feeMarket
    gasLimit := .int 21000
    feeRetries := .int 0 }

/-- Two fee samples wait for the first look, and later ones for all others. -/
def sampledOnce (later : List (Nat × Nat)) : World where
  chain := {
    feeSamplesQueue := [.answer (samplesOf [(300, 20)])]
    feeSamples := .answer (samplesOf later)
    balances := [("0x7e5f4552091a69125d5dfcb7b8c2659029395bdf", .int 100000000)]
    nonces := [("0x7e5f4552091a69125d5dfcb7b8c2659029395bdf", .int 0)] }

/-- The numbers of the first sweep. -/
def sampledQuantities : Quantities := ⟨1337, 0, 100000000, 21000, .feeMarket 300 20⟩

/-- The chain once the first sweep was made. -/
def takenOnce (later : List (Nat × Nat)) : Chain where
  feeSamples := .answer (samplesOf later)
  balances := [("0x7e5f4552091a69125d5dfcb7b8c2659029395bdf", .int 0)]
  nonces := [("0x7e5f4552091a69125d5dfcb7b8c2659029395bdf", .int 1)]
  sender := funded.address

theorem accept_funded {chain : Chain}
    (hb : chain.balances = [("0x7e5f4552091a69125d5dfcb7b8c2659029395bdf", .int 100000000)])
    (hn : chain.nonces = [("0x7e5f4552091a69125d5dfcb7b8c2659029395bdf", .int 0)])
    (hs : chain.sender = funded.address) : chain.accept = (.ok (), { chain with
      balances := [("0x7e5f4552091a69125d5dfcb7b8c2659029395bdf", .int 0)]
      nonces := [("0x7e5f4552091a69125d5dfcb7b8c2659029395bdf", .int 1)] }) := by
  have hlower : lowerCase funded.address = "0x7e5f4552091a69125d5dfcb7b8c2659029395bdf" := by
    decide +kernel
  rw [Chain.accept, hs, hn, Chain.emptied, hs, hb]
  simp only [Chain.amountOf, hlower, hn, Chain.setAmount, if_pos]
  rfl

/-- An accepted submission. -/
theorem submit_taken (deployment : Deployment) (raw : Bytes) {w : World} {chain : Chain}
    (hfailures : w.chain.failures = []) (haccept : w.chain.accept = (.ok (), chain)) :
    ∃ hash w', Shows (deployment.sweeper.submit raw) (deployment.sweeper.traced.submit raw) w
      (.ok hash) [.submitted raw (.ok hash)] w' ∧ w'.chain = chain ∧ w'.rest = w.rest := by
  have hcall : (World.ledger.submitRaw raw).apply w =
      (.ok (Bytes.toHexMarked (keccak256 raw)), { w with
        chain, calls := ⟨.submitRaw, [.text (Bytes.toHexMarked raw)]⟩ :: w.calls }) := by
    rw [World.ledger, World.apply_call_bind, Chain.failureOf?, hfailures]
    simp only [List.lookup_nil, Action.apply_bind, Action.apply_step, Action.apply_ofExcept,
      haccept, Action.apply_pure]
  have hrecorded := Shows.recorded (.submitted raw) (World.ledger.submitRaw raw) w
  rw [hcall] at hrecorded
  exact ⟨_, _, hrecorded.attempt.bind_quiet (Shows.pure _ _), rfl, rfl⟩

/-- The first sweep is accepted. -/
theorem attempt_sampledOnce (later : List (Nat × Nat)) :
    ∃ attempt w, marketed.attempt funded (sampledOnce later) = (attempt, w) ∧
      attempt.invoice = funded ∧ attempt.Accepted ∧ w.rest = .recorded ∧
      w.chain = takenOnce later := by
  have hshort : sampledQuantities.Short :=
    ⟨Draft.short_of_lt (by decide), Draft.short_of_lt (by decide), Draft.short_of_lt (by decide),
      Draft.short_of_lt (by decide), ⟨Draft.short_of_lt (by decide), Draft.short_of_lt (by decide)⟩⟩
  obtain ⟨raw, hraw⟩ := sampledQuantities.sign_ok hshort 1 "0xbeef"
  have hkey : funded.wallet.scalar? = some 1 := by decide
  obtain ⟨result, readings, w₁, hdraft, -⟩ :=
    marketed.sweeper.draft_shows funded (sampledOnce later)
  have hresult : result = .ok (sampledQuantities.draft "0xbeef") :=
    (congrArg (·.1) hdraft.plain).symm.trans rfl
  have hchain : w₁.chain = { takenOnce later with
      balances := (sampledOnce later).chain.balances
      nonces := (sampledOnce later).chain.nonces } :=
    (congrArg (·.2.chain) hdraft.plain).symm.trans rfl
  have hrest : w₁.rest = .recorded := (congrArg (·.2.rest) hdraft.plain).symm.trans rfl
  subst hresult
  have hfailures : w₁.chain.failures = [] := by
    rw [hchain]
    rfl
  have haccept : w₁.chain.accept = (.ok (), takenOnce later) := by
    rw [accept_funded (by rw [hchain]; rfl) (by rw [hchain]; rfl) (by rw [hchain]; rfl), hchain]
    rfl
  have hwritten : sampledQuantities.Written := by
    rw [Quantities.Written]
    decide +kernel
  have hinfo := Shows.infoWritten World.journal .sweep (hwritten.reported "0xbeef") ("Sweeping "
    ++ Decimal.textInt (sampledQuantities.draft "0xbeef").value ++ " wei from " ++ funded.address
    ++ " to " ++ "0xbeef") w₁
  obtain ⟨hash, w₂, hsubmit, hleft, hstill⟩ :=
    marketed.submit_taken raw (w := World.journal _ w₁) hfailures haccept
  obtain ⟨receipt, w₃, hconfirm⟩ := marketed.sweeper.confirm_shows hash w₂
  have hshows : ∃ result, Shows (marketed.sweeper.sweep funded)
      (marketed.sweeper.traced.sweep funded) (sampledOnce later) result
      (readings ++ [.submitted raw (.ok hash), .asked (.awaitConfirmation hash {}) receipt])
      w₃ := by
    unfold sweep signingKey
    simp only [hkey]
    rcases receipt with fault | receipt
    · exact ⟨_, (Shows.pure 1 _).bind (hdraft.bind (hinfo.bind
        ((Shows.known hraw _).bind (hsubmit.bind (bind_recast hconfirm)))))⟩
    · exact ⟨_, (Shows.pure 1 _).bind (hdraft.bind (hinfo.bind ((Shows.known hraw _).bind
        (hsubmit.bind (hconfirm.bind_quiet (concluded_shows hash receipt w₃))))))⟩
  obtain ⟨result, hshows⟩ := hshows
  have hafter : w₃.chain = takenOnce later ∧ w₃.rest = .recorded := by
    obtain ⟨⟨chain, _⟩, rest, _⟩ := w₂
    dsimp only at hleft hstill
    subst hleft hstill
    exact ⟨(congrArg (·.2.chain) hconfirm.plain).symm.trans rfl,
      (congrArg (·.2.rest) hconfirm.plain).symm.trans hrest⟩
  exact ⟨_, w₃, attempt_eq hshows, rfl, ⟨raw, hash, by simp⟩, hafter.2, hafter.1⟩

/-- What is asked for the second sweep. -/
def readAgain (later : List (Nat × Nat)) : List Event :=
  [.asked .chainId (.ok (.int 1337)), .asked (.nativeBalance funded.address) (.ok (.int 0)),
    .asked (.transactionCount funded.address) (.ok (.int 1)),
    .asked .latestBaseFee (.ok (.int 100)), .asked .recentFeeSamples (.ok (samplesOf later))]

theorem readAgain_unrefused (later : List (Nat × Nat)) : Unrefused (readAgain later) := by
  intro question _ fault hmem
  simp [readAgain] at hmem

/-- An invoice is swept twice. -/
def twice (invoice : Invoice) : List Errand := [{ invoice }, { invoice }]

theorem attempts_twice (deployment : Deployment) (invoice : Invoice) (w : World) :
    (deployment.attempts (twice invoice) w).1 =
      [(deployment.attempt invoice w).1,
        (deployment.attempt invoice (deployment.attempt invoice w).2).1] := rfl

/-- The first sweep is accepted, and the second is made on what it left. -/
theorem attempts_sampledOnce (later : List (Nat × Nat)) : ∃ first second w,
    (marketed.attempts (twice funded) (sampledOnce later)).1 = [first, second] ∧ first.Accepted ∧
      first.invoice = funded ∧ second.invoice = funded ∧ w.chain = takenOnce later ∧
      second.events = marketed.sweeper.calls funded w ∧
      second.result = ((marketed.sweeper.sweep funded).apply w).1 := by
  obtain ⟨first, w, hfirst, hinvoice, haccepted, -, hchain⟩ := attempt_sampledOnce later
  have hsecond := attempt_fst marketed funded w
  refine ⟨first, _, w, ?_, haccepted, hinvoice, congrArg Attempt.invoice hsecond, hchain,
    congrArg Attempt.events hsecond, congrArg Attempt.result hsecond⟩
  rw [attempts_twice, hfirst]

theorem marketed_sound : marketed.settings.Sound where
  limited := .inr ⟨21000, by decide, rfl⟩
  retries := ⟨0, rfl⟩
  delay := ⟨_, rfl⟩

theorem withholds_id : Chain.Withholds id where
  sensible h := h
  vacant h := h

theorem twice_withholds : ∀ errand ∈ twice funded, Chain.Withholds errand.change := by
  simp [twice, withholds_id]

theorem sampledOnce_sensible (later : List (Nat × Nat)) : (sampledOnce later).chain.Sensible where
  chainId := ⟨1337, rfl⟩
  gasPrice := ⟨10, rfl⟩
  baseFees next hmem := by
    rw [List.mem_singleton.mp hmem]
    exact .inr ⟨100, rfl⟩
  feeSamples next hmem := by
    simp only [sampledOnce, List.mem_cons, List.not_mem_nil, or_false] at hmem
    rcases hmem with rfl | rfl
    · exact ⟨later, rfl⟩
    · exact ⟨[(300, 20)], rfl⟩
  gas := ⟨21000, rfl⟩
  balances entry hmem := ⟨100000000, by rw [List.mem_singleton.mp hmem]; rfl⟩
  nonces entry hmem := ⟨0, by rw [List.mem_singleton.mp hmem]; rfl⟩
  failures := by simp [sampledOnce]

/-- Where samples come for the second sweep too, it finds nothing to sweep. -/
theorem swept_once_twice : ∃ first second,
    (marketed.attempts (twice funded) (sampledOnce [(300, 20)])).1 = [first, second] ∧
      first.Accepted ∧ acceptances funded.address [first, second] ≤ 1 ∧
      ∃ text, second.result = .error (.transfer (.nothingToSweep text)) := by
  obtain ⟨first, second, w, hattempts, haccepted, hfirst, hsecond, hchain, hcalls, -⟩ :=
    attempts_sampledOnce [(300, 20)]
  obtain ⟨honce, hpairwise⟩ := swept_once marketed marketed_sound twice_withholds
    (sampledOnce_sensible [(300, 20)]) rfl
  have hevents : second.events = readAgain [(300, 20)] := by
    rw [hcalls]
    obtain ⟨⟨chain, _⟩, rest, background⟩ := w
    dsimp only at hchain
    subst hchain
    rfl
  have hsame : second.SameAddress first := by rw [Attempt.SameAddress, hfirst, hsecond]
  rw [hattempts] at honce hpairwise
  have hfutile := List.rel_of_pairwise_cons hpairwise List.mem_cons_self haccepted hsame
  rw [hsecond, hevents] at hfutile
  exact ⟨first, second, hattempts, haccepted, honce _, hfutile.nothing (by decide)
    (readAgain_unrefused _) fun _ => ⟨samplesOf [(300, 20)], by simp [readAgain], rfl⟩⟩

/-- Where no samples come for the second sweep, it fails before the balance counts. -/
theorem swept_again_unsampled : ¬ ∀ (deployment : Deployment) (errands : List Errand) (w : World),
    deployment.settings.Sound → (∀ errand ∈ errands, Chain.Withholds errand.change) →
    w.chain.Sensible → w.rest = .recorded →
      (deployment.attempts errands w).1.Pairwise fun earlier later =>
        earlier.Accepted → later.SameAddress earlier → later.invoice.wallet.scalar?.isSome →
          Unrefused later.events →
          ∃ text, later.result = .error (.transfer (.nothingToSweep text)) := by
  intro hclaim
  have hpairwise := hclaim marketed (twice funded) (sampledOnce []) marketed_sound twice_withholds
    (sampledOnce_sensible []) rfl
  obtain ⟨first, second, w, hattempts, haccepted, hfirst, hsecond, hchain, hcalls, hresult⟩ :=
    attempts_sampledOnce []
  have hexhausted : second.events = readAgain [] ∧
      ∃ text, second.result = .error (.transfer (.feeEstimationExhausted text)) := by
    rw [hcalls, hresult]
    obtain ⟨⟨chain, _⟩, rest, background⟩ := w
    dsimp only at hchain
    subst hchain
    exact ⟨rfl, _, rfl⟩
  obtain ⟨hevents, text, hexhausted⟩ := hexhausted
  have hsame : second.SameAddress first := by rw [Attempt.SameAddress, hfirst, hsecond]
  have hkey : second.invoice.wallet.scalar?.isSome := by
    rw [hsecond]
    decide
  rw [hattempts] at hpairwise
  obtain ⟨other, hnothing⟩ := List.rel_of_pairwise_cons hpairwise List.mem_cons_self haccepted
    hsame hkey (hevents ▸ readAgain_unrefused [])
  rw [hexhausted] at hnothing
  cases hnothing

end Deployment

end DepositGateway
