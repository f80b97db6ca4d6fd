import DepositGateway.Proofs.Secrecy.Answers

/-!
# Observers

Who reads the journal, receives the notices, asks for invoices over HTTP or sees how passes end
learns nothing about the keys of the invoices: all of that is the same for any two sets of valid
keys. The signed transactions differ, so this holds where nothing that the surroundings do shows
the bytes that they were handed.

* `Output`: what a gateway tells on its own. `Station.observed`: a station whose outputs are
  written down, its notices being posted without keys.
* `Station.Blind`: surroundings that do not show signed bytes.
* `Station.findings`: what is found out in a run of requests and passes.
* `Station.keys_unseen`: findings and outputs are the same whatever the keys.
-/

namespace DepositGateway

variable {σ ε : Type}

/-- What a gateway tells on its own. -/
inductive Output where
  | reported (entry : LogEntry)
  | posted (url : String) (body timeout : Json)

/-- What was told so far, the oldest first, and what is outside. -/
abbrev Outside (ε : Type) := Premises (List Output) ε

/-- Writes an output down. -/
def Outside.tell (output : Output) (w : Outside ε) : Outside ε :=
  { w with shelf := w.shelf ++ [output] }

/-- The same was told, in surroundings that `E` relates. -/
abbrev Outside.Told (E : ε → ε → Prop) : Outside ε → Outside ε → Prop := Premises.Related Eq E

theorem Outside.told_tell {E : ε → ε → Prop} (output : Output) {w v : Outside ε}
    (h : Told E w v) : Told E (tell output w) (tell output v) :=
  ⟨by rw [tell, tell, h.shelf], h.outside⟩

namespace Station

/-- What is asked and done outside goes alike where the same was told in surroundings that `E`
relates, whatever signed bytes are handed in. -/
structure Blind (E : ε → ε → Prop) (station : Station (Outside ε))
    (post : String → Json → Json → Action (Outside ε) Int) : Prop where
  put : ∀ question : Question, Action.Blind (Outside.Told E) (question.put station.ledger)
  submitRaw : ∀ raw other, Action.Concur (Outside.Told E) Eq (station.ledger.submitRaw raw)
    (station.ledger.submitRaw other)
  post : ∀ url body timeout, Action.Blind (Outside.Told E) (post url body timeout)
  clock : ∀ w v, Outside.Told E w v → (station.clock w).1 = (station.clock v).1 ∧
    Outside.Told E (station.clock w).2 (station.clock v).2
  stopped : ∀ w v, Outside.Told E w v → (station.stopped w).1 = (station.stopped v).1 ∧
    Outside.Told E (station.stopped w).2 (station.stopped v).2
  sleep : ∀ seconds w v, Outside.Told E w v →
    Outside.Told E (station.sleep seconds w) (station.sleep seconds v)
  isPolling : ∀ w v, Outside.Told E w v → station.isPolling w = station.isPolling v

/-- The station that writes down what it reports, and what it posts to a web hook. -/
def observed (station : Station (Outside ε)) (hook : Webhook)
    (post : String → Json → Json → Action (Outside ε) Int) : Station (Outside ε) :=
  { station with
    journal := fun entry => Outside.tell (.reported entry)
    notifier := .ofWebhook hook fun url body timeout => do
      Action.update (Outside.tell (.posted url body timeout))
      post url body timeout }

/-- What an observer does. -/
inductive Probe where
  | request (request : Request)
  /-- A pass is watched. -/
  | pass

/-- What an observer finds. -/
inductive Finding where
  | answered (response : Except Fault Response)
  | passed (outcome : Except Fault (List (InvoiceKey × InvoiceStatus)))

section

variable {ω : Type} (station : Station ω) (backend : Backend σ)

/-- What comes of a probe. -/
def probe (w : Premises σ ω) : Probe → Finding × Premises σ ω
  | .request request =>
    let result := ((station.site backend).respond request).apply w
    (.answered result.1, result.2)
  | .pass =>
    let result := (station.poller backend).runPass.apply w
    (.passed result.1, result.2)

/-- What comes of probes one after the other. -/
def findings : List Probe → Premises σ ω → List Finding × Premises σ ω
  | [], w => ([], w)
  | probe :: rest, w =>
    let first := station.probe backend w probe
    let others := findings rest first.2
    (first.1 :: others.1, others.2)

end

/-! ## What is called -/

variable {E : ε → ε → Prop} {station : Station (Outside ε)} {hook : Webhook}
  {post : String → Json → Json → Action (Outside ε) Int} {backend : Backend σ}

theorem blind_sweeper (h : station.Blind E post) :
    (station.observed hook post).sweeper.Blind (Outside.Told E) where
  put := h.put
  submitRaw := h.submitRaw
  journal entry _ _ := Outside.told_tell (.reported entry)
  sleep := h.sleep

theorem blind_store (backend : Backend σ) (hook : Webhook)
    (post : String → Json → Json → Action (Outside ε) Int) :
    ((station.observed hook post).store backend).Blind (backend.Beside (Outside.Told E)) :=
  Backend.blind (fun entry _ _ => Outside.told_tell (.reported entry)) backend

/-- What is posted of twins is the same, unless the key goes along. -/
theorem payload_eq (hkey : hook.includeKey = false) (key : InvoiceKey) {invoice twin : Invoice}
    (htwins : invoice.Twins twin) : hook.payload key twin = hook.payload key invoice := by
  have hview := htwins.view_eq
  obtain ⟨wallet, rfl⟩ := htwins.exists_wallet
  unfold Webhook.payload Invoice.shown
  rw [hkey]
  simp only [Bool.false_eq_true, if_false, hview]
  rfl

/-- A notice is posted alike. -/
theorem concur_send (h : station.Blind E post) (hkey : hook.includeKey = false) (key : InvoiceKey)
    {invoice twin : Invoice} (htwins : invoice.Twins twin) :
    Action.Concur (Outside.Told E) Eq ((station.observed hook post).notifier.send key invoice)
      ((station.observed hook post).notifier.send key twin) := by
  unfold observed Notifier.ofWebhook
  dsimp only
  rw [payload_eq hkey key htwins]
  refine Action.Blind.bind ?_ fun status => .ofExcept _
  exact (Action.Blind.update fun _ _ => Outside.told_tell _).bind fun _ => h.post _ _ _

theorem blind_poller (h : station.Blind E post) (hkey : hook.includeKey = false)
    (hmodest : (station.observed hook post).sweeper.Modest (Outside.Told E)) :
    ((station.observed hook post).poller backend).Blind (backend.Beside (Outside.Told E)) where
  store := blind_store backend hook post
  nativeBalance address := Premises.concur_outer (h.put (.nativeBalance address))
  tokenBalance token holder := Premises.concur_outer (h.put (.tokenBalance token holder))
  sweep htwins := Premises.concur_outer ((blind_sweeper h).sweep hmodest htwins)
  send key _ _ htwins := Premises.concur_outer (concur_send h hkey key htwins)
  journal := Premises.blind_journal fun entry _ _ => Outside.told_tell (.reported entry)
  clock := Premises.blind_look h.clock
  stopped := Premises.blind_look h.stopped
  sleep seconds := Premises.blind_change (h.sleep seconds)

theorem blind_site (h : station.Blind E post) :
    ((station.observed hook post).site backend).Blind (backend.Beside (Outside.Told E)) where
  store := blind_store backend hook post
  journal := Premises.blind_journal fun entry _ _ => Outside.told_tell (.reported entry)
  isPolling _ _ hr := h.isPolling _ _ hr.outside

/-! ## Runs -/

/-- A probe that orders nothing. -/
def Probe.IsLook : Probe → Prop
  | .request look => look.method.toUpper ≠ "POST"
  | .pass => True

/-- One probe comes to the same, and leaves twins beside twins. -/
theorem probe_same (h : station.Blind E post) (hkey : hook.includeKey = false)
    (hmodest : (station.observed hook post).sweeper.Modest (Outside.Told E)) {probe : Probe}
    (hlook : probe.IsLook) {w v : Premises σ (Outside ε)}
    (hr : backend.Beside (Outside.Told E) w v) :
    ((station.observed hook post).probe backend w probe).1 =
        ((station.observed hook post).probe backend v probe).1 ∧
      backend.Beside (Outside.Told E) ((station.observed hook post).probe backend w probe).2
        ((station.observed hook post).probe backend v probe).2 := by
  cases probe with
  | request request =>
    obtain ⟨hend, hleft⟩ := (blind_site h).respond hlook w v hr
    exact ⟨congrArg Finding.answered hend.eq, hleft⟩
  | pass =>
    obtain ⟨hend, hleft⟩ := (blind_poller h hkey hmodest).runPass w v hr
    exact ⟨congrArg Finding.passed hend.eq, hleft⟩

/-- A run of probes comes to the same. -/
theorem findings_same (h : station.Blind E post) (hkey : hook.includeKey = false)
    (hmodest : (station.observed hook post).sweeper.Modest (Outside.Told E)) {probes : List Probe}
    (hlook : ∀ probe ∈ probes, probe.IsLook) {w v : Premises σ (Outside ε)}
    (hr : backend.Beside (Outside.Told E) w v) :
    ((station.observed hook post).findings backend probes w).1 =
        ((station.observed hook post).findings backend probes v).1 ∧
      backend.Beside (Outside.Told E) ((station.observed hook post).findings backend probes w).2
        ((station.observed hook post).findings backend probes v).2 := by
  induction probes generalizing w v with
  | nil => exact ⟨rfl, hr⟩
  | cons probe rest ih =>
    rw [List.forall_mem_cons] at hlook
    obtain ⟨hfinding, hleft⟩ := probe_same h hkey hmodest hlook.1 hr
    obtain ⟨hothers, hend⟩ := ih hlook.2 hleft
    exact ⟨congrArg₂ List.cons hfinding hothers, hend⟩

/-- Two gateways keep invoices under the same keys in the same order that differ in their keys
only, each of them valid, and their surroundings do not show the signed bytes. Requests that order
nothing and passes, in any sequence, are answered alike and end alike, and the same is reported and
posted. As long as they are related, no draft is made of a number of 2^56 bytes or more: beyond
them a transaction can be too long to be written down with one signature, and not with another. -/
theorem keys_unseen (h : station.Blind E post) (hkey : hook.includeKey = false)
    (hmodest : (station.observed hook post).sweeper.Modest (Outside.Told E)) {probes : List Probe}
    (hlook : ∀ probe ∈ probes, probe.IsLook) {w v : Premises σ (Outside ε)}
    (halike : backend.Alike w.shelf v.shelf) (htold : w.outside.shelf = v.outside.shelf)
    (houtside : E w.outside.outside v.outside.outside) :
    ((station.observed hook post).findings backend probes w).1 =
        ((station.observed hook post).findings backend probes v).1 ∧
      ((station.observed hook post).findings backend probes w).2.outside.shelf =
        ((station.observed hook post).findings backend probes v).2.outside.shelf := by
  obtain ⟨hfindings, hleft⟩ := findings_same h hkey hmodest hlook ⟨halike, htold, houtside⟩
  exact ⟨hfindings, hleft.outside.shelf⟩

/-! ### A node that keeps what it is handed -/

/-- A node that answers with fixed numbers and keeps the bytes that it is handed. -/
def keeping : Station (Outside (List Bytes)) where
  ledger := {
    nativeBalance _ := pure (.int 1000000)
    tokenBalance _ _ := pure (.int 0)
    chainId := pure (.int 1)
    gasPrice := pure (.int 10)
    latestBaseFee := pure .null
    recentFeeSamples := pure (.arr [])
    transactionCount _ := pure (.int 7)
    estimateGas _ := pure (.int 21000)
    submitRaw raw := do
      Action.update fun w => { w with outside := raw :: w.outside }
      return "0x01"
    awaitConfirmation hash _ := pure (.object [("status", .int 1), ("hash", .text hash)]) }
  journal _ w := w
  notifier := .unspecified
  clock w := (.int 0, w)
  sleep _ w := w
  stopped w := (false, w)
  isPolling _ := true
  issueKey := Action.fail .badType
  settings := { treasury := "0xbeef", gasLimit := .int 21000 }

/-- The receiver of notices takes every one. -/
def taking (_ : String) (_ _ : Json) : Action (Outside (List Bytes)) Int := pure 200

theorem keeping_blind :
    keeping.Blind (fun handed other => handed.length = other.length) taking where
  put question := by cases question <;> exact .pure _
  submitRaw raw other := by
    refine Action.Concur.bind (Q := fun _ _ => True) ?_ fun _ _ _ => .pure rfl
    intro w v hr
    exact ⟨.ok trivial, hr.shelf, congrArg Nat.succ hr.outside⟩
  post _ _ _ := .pure _
  clock _ _ hr := ⟨rfl, hr⟩
  stopped _ _ hr := ⟨rfl, hr⟩
  sleep _ _ _ hr := hr
  isPolling _ _ _ := rfl

/-- The draft of every sweep. -/
def keptDraft : Draft where
  recipient := "0xbeef"
  value := 790000
  gas := .int 21000
  nonce := .int 7
  chainId := .int 1
  fees := .legacy (.int 10)

theorem keeping_modest (hook : Webhook) (R : Outside (List Bytes) → Outside (List Bytes) → Prop) :
    (keeping.observed hook taking).sweeper.Modest R := by
  intro invoice w v _ draft w' hdraft
  have hmade : ((keeping.observed hook taking).sweeper.draft invoice).apply w =
      (.ok keptDraft, w) := rfl
  rw [hmade] at hdraft
  cases hdraft
  intro field hfield value hvalue
  simp only [Draft.numbers, keptDraft, List.cons_append, List.nil_append, List.mem_cons,
    List.not_mem_nil, or_false] at hfield
  rcases hfield with rfl | rfl | rfl | rfl | rfl <;> cases hvalue <;>
    exact Draft.short_of_lt (by decide)

/-- An invoice with the key of a small scalar. -/
def keyed (scalar : UInt8) : Invoice where
  address := "0x7E5F4552091A69125d5DfCb7b8C2659029395Bdf"
  wallet := ⟨List.replicate 31 0 ++ [scalar]⟩
  amount := 1000

/-- It is kept under the key `a`, and nothing was told. -/
def keepingOne (scalar : UInt8) : Premises (Keyed InvoiceKey Invoice) (Outside (List Bytes)) where
  shelf := Keyed.empty.put (.text "a") (keyed scalar)
  outside := ⟨[], []⟩

/-- The invoices are looked up, a pass sweeps what is paid, and the latest is looked up. -/
def looks : List Probe :=
  [.request { method := "GET", target := "/api/v1/invoices" }, .pass,
    .request { method := "GET", target := "/api/v1/invoices/latest" }]

theorem keys_unseen_keeping :
    let run scalar := (keeping.observed { url := "http://a" } taking).findings .memory looks
      (keepingOne scalar)
    (keyed 1).Twins (keyed 2) ∧ (run 1).1 = (run 2).1 ∧
      (run 1).2.outside.shelf = (run 2).2.outside.shelf := by
  have htwins : (keyed 1).Twins (keyed 2) := ⟨rfl, by decide, by decide⟩
  have hlook : ∀ probe ∈ looks, probe.IsLook := by
    have hget : "GET".toUpper ≠ "POST" := by decide +kernel
    simp only [looks, List.forall_mem_cons]
    exact ⟨hget, trivial, hget, by simp⟩
  exact ⟨htwins, keys_unseen keeping_blind rfl (keeping_modest _ _) hlook (.cons ⟨rfl, htwins⟩ .nil)
    rfl rfl⟩

end Station

end DepositGateway
