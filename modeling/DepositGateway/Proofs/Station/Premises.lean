import DepositGateway.Http.Api
import DepositGateway.Proofs.Run.Forgotten
import DepositGateway.Proofs.Store.Memory
import DepositGateway.Store.Table

/-!
# A gateway and what is outside of it

A gateway is put together from a store and from what is outside: a ledger, a clock, keys that are
issued, somewhere to report, and someone to notify. Its world then has two parts, what the store
keeps and what is outside, and only the store touches the first one.

* `Premises`: the two parts. `Premises.outer`: an action on what is outside.
* `Backend`: the two stores, told apart by what they keep.
* `Station`: all that a gateway is put together from besides its store. `Station.gateway`,
  `Station.poller` and `Station.site` are its parts, `Station.service` serves whole runs.
* `Station.sweeps_course`: the sweeps of such a poller are those of its sweeper.
-/

namespace DepositGateway

/-- What a store keeps, and what is outside of it. -/
structure Premises (σ ω : Type) where
  shelf : σ
  outside : ω

variable {σ ω α : Type}

namespace Premises

/-- What the store keeps, as a part of the world. -/
def shelved : Cell (Premises σ ω) σ where
  look w := w.shelf
  put shelf w := { w with shelf }

/-- An action on what is outside. -/
def outer (action : Action ω α) : Action (Premises σ ω) α := ExceptT.mk fun w =>
  ((action.apply w.outside).1, { w with outside := (action.apply w.outside).2 })

/-- A look at what is outside. -/
def look (read : ω → α × ω) (w : Premises σ ω) : α × Premises σ ω :=
  ((read w.outside).1, { w with outside := (read w.outside).2 })

/-- A change of what is outside. -/
def change (update : ω → ω) (w : Premises σ ω) : Premises σ ω :=
  { w with outside := update w.outside }

/-- The journal outside. -/
def journal (journal : Journal ω) : Journal (Premises σ ω) := fun entry => change (journal entry)

/-- An action on what is outside, with its calls noted. -/
def outerTraced (action : Action (Traced ω) α) : Action (Traced (Premises σ ω)) α :=
  ExceptT.mk fun t =>
    let (result, after) := action.apply ⟨t.world.outside, t.history⟩
    (result, ⟨{ t.world with outside := after.world }, after.history⟩)

theorem apply_outer (action : Action ω α) (w : Premises σ ω) :
    (outer action).apply w =
      ((action.apply w.outside).1, { w with outside := (action.apply w.outside).2 }) := rfl

end Premises

/-- An action on what is outside shows the same calls from there. -/
theorem Shows.outer {plain : Action ω α} {traced : Action (Traced ω) α} {w w' : ω}
    {result : Except Fault α} {events : List Event} (h : Shows plain traced w result events w')
    (shelf : σ) :
    Shows (Premises.outer plain) (Premises.outerTraced traced) ⟨shelf, w⟩ result events
      ⟨shelf, w'⟩ where
  plain := by rw [Premises.apply_outer, h.plain]
  traced history := by
    have htraced := h.traced history
    simp only [Premises.outerTraced, Action.apply, ExceptT.run, ExceptT.mk] at htraced ⊢
    rw [htraced]

/-- The ledger outside. -/
def Ledger.outer (ledger : Ledger ω) : Ledger (Premises σ ω) where
  nativeBalance address := Premises.outer (ledger.nativeBalance address)
  tokenBalance token holder := Premises.outer (ledger.tokenBalance token holder)
  chainId := Premises.outer ledger.chainId
  gasPrice := Premises.outer ledger.gasPrice
  latestBaseFee := Premises.outer ledger.latestBaseFee
  recentFeeSamples := Premises.outer ledger.recentFeeSamples
  transactionCount address := Premises.outer (ledger.transactionCount address)
  estimateGas draft := Premises.outer (ledger.estimateGas draft)
  submitRaw raw := Premises.outer (ledger.submitRaw raw)
  awaitConfirmation hash patience := Premises.outer (ledger.awaitConfirmation hash patience)

/-- The notifier outside. -/
def Notifier.outer (notifier : Notifier ω) : Notifier (Premises σ ω) where
  send key invoice := Premises.outer (notifier.send key invoice)

/-- The stores, by what they keep. -/
inductive Backend : Type → Type
  /-- The volatile one. -/
  | memory : Backend (Keyed InvoiceKey Invoice)
  /-- The durable one. -/
  | table : Backend Table

namespace Backend

/-- The store that keeps its invoices in a part of the world. -/
def store (backend : Backend σ) (cell : Cell ω σ) (journal : Journal ω) : Store ω :=
  match backend with
  | memory => .ofMemory cell
  | table => .ofTable cell journal

/-- What an empty store keeps. -/
def empty : Backend σ → σ
  | memory => {}
  | table => {}

end Backend

/-- All that a gateway is put together from besides its store. -/
structure Station (ω : Type) where
  name : String := "evmpay"
  ledger : Ledger ω
  journal : Journal ω
  notifier : Notifier ω
  clock : ω → Number × ω
  sleep : Json → ω → ω
  /-- Whether the poller was told to stop. -/
  stopped : ω → Bool × ω
  /-- Whether the poller is at work. -/
  isPolling : ω → Bool
  /-- A fresh key with its deposit address. -/
  issueKey : Action ω (String × SecretKey)
  settings : SweepSettings
  addressRule : Address.CaseRule := .lenient
  invoiceDelay : Json := .int 1
  pollerDelay : Json := .int 10

namespace Station

variable (station : Station ω) (backend : Backend σ)

/-- The store. -/
def store : Store (Premises σ ω) :=
  backend.store Premises.shelved (Premises.journal station.journal)

/-- The sweeper, all of whose work is outside. -/
def sweeper : Sweeper ω where
  ledger := station.ledger
  journal := station.journal
  sleep := station.sleep
  settings := station.settings

/-- The gateway. -/
def gateway : Gateway (Premises σ ω) where
  name := station.name
  store := station.store backend
  journal := Premises.journal station.journal
  clock := Premises.look station.clock
  issueKey := Premises.outer station.issueKey

/-- The poller. -/
def poller : Poller (Premises σ ω) where
  store := station.store backend
  ledger := station.ledger.outer
  sweep invoice := Premises.outer (station.sweeper.sweep invoice)
  notifier := station.notifier.outer
  journal := Premises.journal station.journal
  clock := Premises.look station.clock
  sleep seconds := Premises.change (station.sleep seconds)
  stopped := Premises.look station.stopped
  invoiceDelay := station.invoiceDelay
  pollerDelay := station.pollerDelay

/-- The gateway as it is served over HTTP. -/
def site : Site (Premises σ ω) where
  gateway := station.gateway backend
  isPolling w := station.isPolling w.outside
  addressRule := station.addressRule

/-- The sweeps with their calls noted. -/
def tracedSweep (invoice : Invoice) : Action (Traced (Premises σ ω)) (String × Json) :=
  Premises.outerTraced (station.sweeper.traced.sweep invoice)

/-- The gateway with its poller. -/
def service : Service (Premises σ ω) where
  gateway := station.gateway backend
  poller := station.poller backend
  sweep := station.tracedSweep

/-! ## What touches the store -/

/-- The store keeps the same. -/
def Undisturbed (w w' : Premises σ ω) : Prop := w'.shelf = w.shelf

theorem gateway_keeps : (station.gateway backend).Keeps Undisturbed where
  refl _ := rfl
  trans h h' := h'.trans h
  clock _ := rfl
  journal _ _ := rfl
  issueKey _ := rfl

theorem poller_keeps : (station.poller backend).Keeps Undisturbed where
  refl _ := rfl
  trans h h' := h'.trans h
  clock _ := rfl
  stopped _ := rfl
  sleep _ _ := rfl
  journal _ _ := rfl
  nativeBalance _ _ := rfl
  tokenBalance _ _ _ := rfl
  sweep _ _ := rfl
  send _ _ _ := rfl

/-! ## Sweeps -/

theorem notes_tracedSweep : (station.poller backend).Notes station.tracedSweep := by
  intro invoice w
  obtain ⟨result, events, after, hshows, -⟩ := station.sweeper.exists_course invoice w.outside
  have houter := hshows.outer w.shelf
  have happly : ((station.poller backend).sweep invoice).apply w = (result, ⟨w.shelf, after⟩) :=
    houter.plain
  refine ⟨events, ?_⟩
  rw [happly]
  exact houter

variable {station backend}

/-- The sweeps of the poller go as those of the sweeper. -/
theorem sweeps_course {invoice : Invoice} {answer : Except Fault (String × Json)}
    {inner : List Event}
    (h : (station.poller backend).Sweeps station.tracedSweep invoice answer inner) :
    station.sweeper.SweepCourse invoice answer inner := by
  obtain ⟨w, w', hshows⟩ := h
  obtain ⟨result, events, after, hshows', hcourse⟩ :=
    station.sweeper.exists_course invoice w.outside
  obtain ⟨rfl, rfl, -⟩ := hshows.unique (hshows'.outer w.shelf)
  exact hcourse

end Station

end DepositGateway
