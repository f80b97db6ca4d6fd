import DepositGateway.Proofs.Independence.Account
import DepositGateway.Proofs.Sweep.Outcome
import DepositGateway.Proofs.Sweep.Passage
import DepositGateway.Simulation.Deployment

/-!
# Emptied accounts

A transaction that the chain accepted has emptied the account of its sender, and it stays empty
until something is deposited there.

* `Chain.Sensible`: numbers that are not below zero, and faults of the ledger. `Chain.Vacant`:
  nothing is held under an address. `Chain.Withholds`: a change of the chain that deposits nothing.
* `World.Answers`, `World.Submits`: what one question and one submission do to the chain.
* `Sweeper.Passage.steady`: along a passage what is vacant stays vacant.
  `Sweeper.Passage.vacates`: an accepted transaction makes its sender vacant.
-/

namespace DepositGateway

/-! ## The chain -/

namespace Chain

/-- What the chain holds and what it is set to answer are numbers that are not below zero, or faults
of the ledger. A base fee may be missing. -/
structure Sensible (chain : Chain) : Prop where
  chainId : ∃ id : Nat, chain.chainId = .int id
  gasPrice : ∃ price : Nat, chain.gasPrice = .int price
  baseFees : ∀ next ∈ chain.baseFee :: chain.baseFeeQueue,
    next.Meets fun answer => answer = .null ∨ ∃ fee : Nat, answer = .int fee
  feeSamples : ∀ next ∈ chain.feeSamples :: chain.feeSamplesQueue,
    next.Meets fun answer => ∃ samples, answer = samplesOf samples
  gas : ∃ gas : Nat, chain.gas = .int gas
  balances : Natural chain.balances
  nonces : Natural chain.nonces
  failures : ∀ entry ∈ chain.failures, ∃ reason, entry.2 = .ledger reason

/-- Nothing is held under an address. -/
def Vacant (chain : Chain) (address : String) : Prop :=
  amountOf address chain.balances = .int 0

/-- A change of the chain that leaves it sensible and deposits nothing where nothing is held. -/
structure Withholds (change : Chain → Chain) : Prop where
  sensible : ∀ {chain}, chain.Sensible → (change chain).Sensible
  vacant : ∀ {chain address}, chain.Vacant address → (change chain).Vacant address

variable {chain : Chain} {address other : String}

/-- The case of an address does not count. -/
theorem Vacant.congr (h : chain.Vacant address) (hcase : lowerCase other = lowerCase address) :
    chain.Vacant other := by
  unfold Vacant amountOf at h ⊢
  rwa [hcase]

/-- Failures may be switched on and off. -/
theorem withholds_failures {failures : List (LedgerMethod × Fault)}
    (h : ∀ entry ∈ failures, ∃ reason, entry.2 = .ledger reason) :
    Withholds fun chain => { chain with failures } where
  sensible hs := { hs with failures := h }
  vacant hv := hv

theorem Sensible.refusal (h : chain.Sensible) {method : LedgerMethod} {fault : Fault}
    (hf : chain.failureOf? method = some fault) : ∃ reason, fault = .ledger reason := by
  obtain ⟨first, rest, hentries, -⟩ := List.lookup_eq_some_iff.1 hf
  refine h.failures (method, fault) ?_
  rw [hentries]
  exact List.mem_append_right _ List.mem_cons_self

/-- An accepted submission leaves the chain sensible and its sender vacant, and fills no account. -/
theorem Sensible.accept (h : chain.Sensible) :
    chain.accept.1 = .ok () ∧ chain.accept.2.Sensible ∧ chain.accept.2.sender = chain.sender ∧
      chain.accept.2.Vacant chain.sender ∧
      ∀ address, chain.Vacant address → chain.accept.2.Vacant address := by
  obtain ⟨nonce, -, haccept⟩ := accept_natural h.nonces
  rw [haccept]
  refine ⟨rfl, { h with
    balances := h.balances.setAmount _ 0
    nonces := h.nonces.setAmount _ (nonce + 1) }, rfl, ?_, fun address hv => ?_⟩
  · rw [Vacant, amountOf, lookup_setAmount, if_pos rfl]
    rfl
  · rw [Vacant, amountOf, lookup_setAmount]
    split
    · rfl
    · exact hv

/-- What is taken from a queue, or found behind it, is answered; what is left is the rest. -/
theorem Sensible.nextBaseFee (h : chain.Sensible) :
    chain.nextBaseFee.1.Meets (fun answer => answer = .null ∨ ∃ fee : Nat, answer = .int fee) ∧
      chain.nextBaseFee.2.Sensible ∧ chain.nextBaseFee.2.balances = chain.balances ∧
      chain.nextBaseFee.2.sender = chain.sender := by
  have hfees := h.baseFees
  unfold Chain.nextBaseFee
  split
  · exact ⟨hfees _ List.mem_cons_self, h, rfl, rfl⟩
  · next next rest hqueue =>
    rw [hqueue] at hfees
    refine ⟨hfees next (by simp), { h with baseFees := fun other hmem => hfees other ?_ }, rfl, rfl⟩
    rcases List.mem_cons.mp hmem with rfl | hmem
    · exact List.mem_cons_self
    · simp [hmem]

theorem Sensible.nextFeeSamples (h : chain.Sensible) :
    chain.nextFeeSamples.1.Meets (fun answer => ∃ samples, answer = samplesOf samples) ∧
      chain.nextFeeSamples.2.Sensible ∧ chain.nextFeeSamples.2.balances = chain.balances ∧
      chain.nextFeeSamples.2.sender = chain.sender := by
  have hsamples := h.feeSamples
  unfold Chain.nextFeeSamples
  split
  · exact ⟨hsamples _ List.mem_cons_self, h, rfl, rfl⟩
  · next next rest hqueue =>
    rw [hqueue] at hsamples
    refine ⟨hsamples next (by simp), { h with feeSamples := fun other hmem => hsamples other ?_ },
      rfl, rfl⟩
    rcases List.mem_cons.mp hmem with rfl | hmem
    · exact List.mem_cons_self
    · simp [hmem]

end Chain

/-! ## Calls -/

/-- What is asked to draft the sweep of an address. -/
def Question.Drafts (address : String) : Question → Prop
  | nativeBalance other => other = address
  | transactionCount other => other = address
  | tokenBalance _ _ => False
  | awaitConfirmation _ _ => False
  | _ => True

theorem SenderCourse.asks {address : String} {result : Except Fault (Json × Json)}
    {events : List Event} (h : SenderCourse address result events) {question : Question}
    {given : Except Fault Json} (hq : .asked question given ∈ events) :
    question.Drafts address := by
  cases h with
  | unread =>
    cases List.mem_singleton.mp hq
    rfl
  | read =>
    rcases List.mem_cons.mp hq with hq | hq
    · cases hq
      rfl
    · cases List.mem_singleton.mp hq
      rfl

namespace Sweeper

variable {ω : Type} {sweeper : Sweeper ω} {address : String} {events : List Event}

/-- To draft a sweep nothing else is asked. -/
theorem DraftCourse.asks {result : Except Fault Draft}
    (h : DraftCourse sweeper address result events) {question : Question}
    {given : Except Fault Json} (hq : .asked question given ∈ events) :
    question.Drafts address := by
  have hchain {chainId given : Except Fault Json} {rest : List Event}
      (hq : .asked question given ∈ .asked .chainId chainId :: rest)
      (hrest : .asked question given ∈ rest → question.Drafts address) :
      question.Drafts address := by
    rcases List.mem_cons.mp hq with hq | hq
    · cases hq
      trivial
    · exact hrest hq
  have hprices {result : Except Fault (FeeFields × Json)} {prices : List Event}
      (hf : FeesCourse sweeper.settings result prices) (hq : .asked question given ∈ prices) :
      question.Drafts address := by
    rcases hf.asked hq with rfl | rfl | rfl <;> trivial
  have hlimits {query : Json} {result : Except Fault Json} {limits : List Event}
      (hg : GasCourse sweeper.settings query result limits) (hq : .asked question given ∈ limits) :
      question.Drafts address := by
    rw [hg.asked hq]
    trivial
  cases h with
  | unknownChain => exact hchain hq (by simp)
  | unreadSender unread => exact hchain hq unread.asks
  | unpriced read unpriced =>
    rcases List.mem_append.mp hq with hq | hq
    · exact hchain hq read.asks
    · exact hprices unpriced hq
  | unmeasured read priced unmeasured =>
    rcases List.mem_append.mp hq with hq | hq
    · rcases List.mem_append.mp hq with hq | hq
      · exact hchain hq read.asks
      · exact hprices priced hq
    · exact hlimits unmeasured hq
  | reckoned read priced measured =>
    rcases List.mem_append.mp hq with hq | hq
    · rcases List.mem_append.mp hq with hq | hq
      · exact hchain hq read.asks
      · exact hprices priced hq
    · exact hlimits measured hq

/-- Before a draft is made the nonce of its sender was read. -/
theorem DraftCourse.counts {draft : Draft} (h : DraftCourse sweeper address (.ok draft) events) :
    ∃ nonce, .asked (.transactionCount address) (.ok nonce) ∈ events := by
  generalize hr : (Except.ok draft : Except Fault Draft) = result at h
  cases h with
  | unknownChain => exact absurd (recast_eq_ok.mp hr.symm) (by simp)
  | unreadSender => exact absurd (recast_eq_ok.mp hr.symm) (by simp)
  | unpriced | unmeasured => cases hr
  | @reckoned _ balance nonce _ _ _ sender prices limits read =>
    generalize hs : (Except.ok (balance, nonce) : Except Fault (Json × Json)) = found at read
    cases read with
    | unread => cases hs
    | read _ answer =>
      obtain ⟨count, rfl, -⟩ := ok_of_map hs.symm
      exact ⟨count, by simp⟩

end Sweeper

/-- Whose nonce was read last, after a call. -/
def senderAfter (sender : String) : Event → String
  | .asked (.transactionCount address) (.ok _) => address
  | _ => sender

theorem senderAfter_error (sender : String) (question : Question) (fault : Fault) :
    senderAfter sender (.asked question (.error fault)) = sender := by
  cases question <;> rfl

theorem senderAfter_of_ne (sender : String) {question : Question} (answer : Except Fault Json)
    (h : ∀ address, question ≠ .transactionCount address) :
    senderAfter sender (.asked question answer) = sender := by
  cases question with
  | transactionCount address => exact absurd rfl (h address)
  | _ => rfl

/-- Where the nonce of one address was read, and of no other, it was read last. -/
theorem foldl_senderAfter {events : List Event} {address sender : String}
    (honly : ∀ other nonce, .asked (.transactionCount other) (.ok nonce) ∈ events →
      other = address)
    (hread : sender = address ∨
      ∃ nonce, .asked (.transactionCount address) (.ok nonce) ∈ events) :
    events.foldl senderAfter sender = address := by
  induction events generalizing sender with
  | nil => exact hread.resolve_right (by simp)
  | cons event rest ih =>
    refine ih (fun other nonce hmem => honly other nonce (List.mem_cons_of_mem _ hmem)) ?_
    unfold senderAfter
    split
    · exact .inl (honly _ _ List.mem_cons_self)
    · next hother =>
      refine hread.imp_right fun ⟨nonce, hmem⟩ => ⟨nonce, ?_⟩
      rcases List.mem_cons.mp hmem with hmem | hmem
      · exact absurd hmem.symm (hother _ _)
      · exact hmem

namespace World

variable {w w' : World} {address : String} {α : Type}

/-- From one world to another by a question: the chain still is sensible and holds the same, and
the answer is one that it may give. -/
structure Answers (question : Question) (w : World) (answer : Except Fault Json) (w' : World) :
    Prop where
  rest : w'.rest = w.rest
  sensible : w'.chain.Sensible
  balances : w'.chain.balances = w.chain.balances
  proper : ∀ {address}, question.Drafts address → (Event.asked question answer).Proper
  held : ∀ {address value}, question = .nativeBalance address → answer = .ok value →
    value = Chain.amountOf address w.chain.balances
  sender : w'.chain.sender = senderAfter w.chain.sender (.asked question answer)

/-- Where an operation is set to fail it does so once the call is recorded; otherwise it goes on. -/
theorem apply_call_bind (method : LedgerMethod) (arguments : List Json) (next : Action World α)
    (w : World) : (do call method arguments; next).apply w =
      match w.chain.failureOf? method with
      | some fault => (.error fault, { w with calls := ⟨method, arguments⟩ :: w.calls })
      | none => next.apply { w with calls := ⟨method, arguments⟩ :: w.calls } := by
  unfold call
  cases h : w.chain.failureOf? method <;>
    simp [Action.apply_bind, Action.update, Action.read, h, Action.fail]

/-- A refusal is a fault of the ledger. -/
theorem Answers.refused (hc : w.chain.Sensible) {question : Question} {fault : Fault}
    {calls : List LedgerCall} (h : ∃ reason, fault = .ledger reason) :
    Answers question w (.error fault) { w with calls } where
  rest := rfl
  sensible := hc
  balances := rfl
  proper _ := by
    cases question <;> exact h
  held _ h := by cases h
  sender := (senderAfter_error _ _ _).symm

/-- Most questions are answered by a look at the chain. -/
theorem Answers.look (hc : w.chain.Sensible) {question : Question} {method : LedgerMethod}
    {arguments : List Json} {look : World → Json} {answer : Except Fault Json}
    (h : (do call method arguments; Action.read look).apply w = (answer, w'))
    (proper : ∀ {v : World} {address}, v.chain.Sensible → question.Drafts address →
      (Event.asked question (.ok (look v))).Proper)
    (uncounted : ∀ address, question ≠ .transactionCount address)
    (held : ∀ {address}, question = .nativeBalance address →
      ∀ v, look v = Chain.amountOf address v.chain.balances) :
    Answers question w answer w' := by
  rw [apply_call_bind] at h
  split at h
  · next hf =>
    cases h
    exact .refused hc (hc.refusal hf)
  · cases h
    refine ⟨rfl, hc, rfl, proper hc, fun hq hv => ?_, (senderAfter_of_ne _ _ uncounted).symm⟩
    cases hv
    exact held hq _

/-- Fees are taken from a queue, if there is one. -/
theorem Answers.taken (hc : w.chain.Sensible) {question : Question} {method : LedgerMethod}
    {take : Chain → Scripted Json × Chain} {P : Json → Prop} {answer : Except Fault Json}
    (htake : (take w.chain).1.Meets P ∧ (take w.chain).2.Sensible ∧
      (take w.chain).2.balances = w.chain.balances ∧ (take w.chain).2.sender = w.chain.sender)
    (h : (do call method []; takeFrom take).apply w = (answer, w'))
    (proper : ∀ {value}, P value → (Event.asked question (.ok value)).Proper)
    (uncounted : ∀ address, question ≠ .transactionCount address)
    (held : ∀ address, question ≠ .nativeBalance address) : Answers question w answer w' := by
  obtain ⟨hmeets, hsensible, hbalances, hsender⟩ := htake
  rw [apply_call_bind] at h
  split at h
  · next hf =>
    cases h
    exact .refused hc (hc.refusal hf)
  · have happly : (takeFrom take).apply { w with calls := ⟨method, []⟩ :: w.calls } =
        ((take w.chain).1.toExcept,
          { w with calls := ⟨method, []⟩ :: w.calls, chain := (take w.chain).2 }) := by
      simp [takeFrom, Action.apply_bind]
    rw [happly] at h
    cases h
    refine ⟨rfl, hsensible, hbalances, fun _ => ?_, fun hq => absurd hq (held _),
      hsender.trans (senderAfter_of_ne _ _ uncounted).symm⟩
    cases hnext : (take w.chain).1 with
    | answer value =>
      rw [hnext] at hmeets
      exact proper hmeets
    | raise fault =>
      rw [hnext] at hmeets
      cases question <;> exact hmeets

/-- The ledger answers every question so. -/
theorem answers_put (hc : w.chain.Sensible) (question : Question) {answer : Except Fault Json}
    (h : (question.put ledger).apply w = (answer, w')) : Answers question w answer w' := by
  cases question with
  | nativeBalance address =>
    refine .look hc h (fun hv _ => hv.balances.amountOf address) nofun fun hq _ => ?_
    cases hq
    rfl
  | chainId => exact .look hc h (fun hv _ => hv.chainId) nofun nofun
  | gasPrice => exact .look hc h (fun hv _ => hv.gasPrice) nofun nofun
  | estimateGas => exact .look hc h (fun hv _ => hv.gas) nofun nofun
  | awaitConfirmation => exact .look hc h (fun _ hq => hq.elim) nofun nofun
  | latestBaseFee => exact .taken hc hc.nextBaseFee h id nofun nofun
  | recentFeeSamples => exact .taken hc hc.nextFeeSamples h id nofun nofun
  | tokenBalance => exact .look hc h (fun _ hq => hq.elim) nofun nofun
  | transactionCount address =>
    have hput : Question.put ledger (.transactionCount address) = (do
      call .transactionCount [.text address]
      updateChain fun chain => { chain with sender := address }
      Action.read fun w => Chain.amountOf address w.chain.nonces) := rfl
    rw [hput, apply_call_bind] at h
    split at h
    · next hf =>
      cases h
      exact .refused hc (hc.refusal hf)
    · cases h
      exact ⟨rfl, { hc with }, rfl, fun _ => hc.nonces.amountOf address, nofun, rfl⟩

/-- A pause that is only recorded leaves the chain as it is. -/
theorem sleep_recorded (hr : w.rest = .recorded) (seconds : Json) :
    (w.sleep seconds).rest = .recorded ∧ (w.sleep seconds).chain = w.chain := by
  have hscene : (w.toScene.sleep seconds).chain = w.chain := by
    dsimp only [Scene.sleep]
    split <;> rfl
  have hsleep : w.sleep seconds = { w with toScene := w.toScene.sleep seconds } := by
    simp only [sleep, hr]
  rw [hsleep]
  exact ⟨hr, hscene⟩

/-- From one world to another by a submission: if it was accepted, nothing is left to its sender,
and nowhere there is more. -/
structure Submits (w : World) (answer : Except Fault String) (w' : World) : Prop where
  rest : w'.rest = w.rest
  sensible : w'.chain.Sensible
  sender : w'.chain.sender = w.chain.sender
  vacant : ∀ {address}, w.chain.Vacant address → w'.chain.Vacant address
  accepted : ∀ {hash}, answer = .ok hash → w'.chain.Vacant w.chain.sender

theorem submits_submitRaw (hc : w.chain.Sensible) {raw : Bytes} {answer : Except Fault String}
    (h : (ledger.submitRaw raw).apply w = (answer, w')) : Submits w answer w' := by
  rw [ledger, apply_call_bind] at h
  split at h
  · cases h
    exact ⟨rfl, hc, rfl, id, nofun⟩
  · obtain ⟨haccept, hsensible, hsender, hsent, hvacant⟩ := hc.accept
    simp only [Action.apply_bind, Action.apply_step, Action.apply_ofExcept, haccept,
      Action.apply_pure] at h
    cases h
    exact ⟨rfl, hsensible, hsender, hvacant _, fun _ => hsent⟩

end World

/-! ## Passages -/

namespace Sweeper

variable {deployment : Deployment} {w w' : World} {events : List Event} {address : String}

/-- What stays as it is along a passage. -/
structure Steady (w : World) (events : List Event) (w' : World) : Prop where
  rest : w'.rest = .recorded
  sensible : w'.chain.Sensible
  proper : ∀ question answer, .asked question answer ∈ events →
    ∀ {address}, question.Drafts address → (Event.asked question answer).Proper
  /-- Where nothing is held, nothing is held afterwards, and nothing is what is read. -/
  vacant : ∀ {address}, w.chain.Vacant address → w'.chain.Vacant address ∧
    ∀ balance, .asked (.nativeBalance address) (.ok balance) ∈ events → balance = .int 0

theorem Passage.steady (h : deployment.sweeper.Passage w events w') (hr : w.rest = .recorded)
    (hc : w.chain.Sensible) : Steady w events w' := by
  induction h with
  | stay w => exact ⟨hr, hc, by simp, fun hv => ⟨hv, by simp⟩⟩
  | reported entry rest ih =>
    have hrest := ih hr hc
    exact ⟨hrest.rest, hrest.sensible, hrest.proper, fun hv => hrest.vacant hv⟩
  | @paused w _ _ seconds rest ih =>
    obtain ⟨hrecorded, hchain⟩ := World.sleep_recorded hr seconds
    have hrest := ih hrecorded (show (w.sleep seconds).chain.Sensible by rwa [hchain])
    refine ⟨hrest.rest, hrest.sensible, fun question answer hmem => ?_, fun hv => ?_⟩
    · exact hrest.proper question answer (by simpa using hmem)
    · obtain ⟨hvacant, hread⟩ :=
        hrest.vacant (show (w.sleep seconds).chain.Vacant _ by rwa [hchain])
      exact ⟨hvacant, fun balance hmem => hread balance (by simpa using hmem)⟩
  | @asked w w₁ _ _ question answer call rest ih =>
    have hasked := World.answers_put hc question call
    have hrest := ih (hasked.rest.trans hr) hasked.sensible
    refine ⟨hrest.rest, hrest.sensible, fun other given hmem => ?_, fun {address} hv => ?_⟩
    · rcases List.mem_cons.mp hmem with hmem | hmem
      · cases hmem
        exact hasked.proper
      · exact hrest.proper other given hmem
    · have hv₁ : w₁.chain.Vacant address := by rwa [Chain.Vacant, hasked.balances]
      obtain ⟨hvacant, hread⟩ := hrest.vacant hv₁
      refine ⟨hvacant, fun balance hmem => ?_⟩
      rcases List.mem_cons.mp hmem with hmem | hmem
      · cases hmem
        exact (hasked.held rfl rfl).trans hv
      · exact hread balance hmem
  | @submitted w w₁ _ _ raw answer call rest ih =>
    have hsubmits := World.submits_submitRaw hc call
    have hrest := ih (hsubmits.rest.trans hr) hsubmits.sensible
    refine ⟨hrest.rest, hrest.sensible, fun question given hmem => ?_, fun hv => ?_⟩
    · exact hrest.proper question given (by simpa using hmem)
    · obtain ⟨hvacant, hread⟩ := hrest.vacant (hsubmits.vacant hv)
      exact ⟨hvacant, fun balance hmem => hread balance (by simpa using hmem)⟩

/-- The chain remembers whose nonce was read last. -/
theorem Passage.sender (h : deployment.sweeper.Passage w events w') (hr : w.rest = .recorded)
    (hc : w.chain.Sensible) : w'.chain.sender = events.foldl senderAfter w.chain.sender := by
  induction h with
  | stay w => rfl
  | reported entry rest ih => exact ih hr hc
  | @paused w _ _ seconds rest ih =>
    obtain ⟨hrecorded, hchain⟩ := World.sleep_recorded hr seconds
    refine (ih hrecorded (show (w.sleep seconds).chain.Sensible by rwa [hchain])).trans ?_
    rw [show (deployment.sweeper.sleep seconds w).chain = w.chain from hchain]
    rfl
  | @asked w w₁ _ _ question answer call rest ih =>
    have hasked := World.answers_put hc question call
    rw [ih (hasked.rest.trans hr) hasked.sensible, hasked.sender]
    rfl
  | @submitted w w₁ _ _ raw answer call rest ih =>
    have hsubmits := World.submits_submitRaw hc call
    rw [ih (hsubmits.rest.trans hr) hsubmits.sensible, hsubmits.sender]
    rfl

/-- A submission that was accepted leaves nothing to the address whose nonce was read last. -/
theorem Passage.vacates {before after : List Event} {raw : Bytes} {hash : String}
    (h : deployment.sweeper.Passage w (before ++ .submitted raw (.ok hash) :: after) w')
    (hr : w.rest = .recorded) (hc : w.chain.Sensible) :
    w'.chain.Vacant (before.foldl senderAfter w.chain.sender) := by
  obtain ⟨w₁, hbefore, hlast⟩ := h.split
  obtain ⟨w₂, w₃, hreports, hcall, hafter⟩ := hlast.of_submitted
  have hfirst : deployment.sweeper.Passage w before w₂ := by
    simpa using hbefore.append hreports
  have hsteady := hfirst.steady hr hc
  have hsubmits := World.submits_submitRaw hsteady.sensible hcall
  have hvacant := hsubmits.accepted rfl
  rw [hfirst.sender hr hc] at hvacant
  exact ((hafter.steady (hsubmits.rest.trans hsteady.rest) hsubmits.sensible).vacant hvacant).1

end Sweeper

end DepositGateway
