import DepositGateway.Ledger.Basic
import DepositGateway.Log.Entry
import DepositGateway.Notice.Basic
import DepositGateway.Store.Basic

/-!
# Histories

What a gateway did is the list of the calls it made, each with its answer. A `Traced ω` is a world
of type `ω` with that list, the oldest call first; a capability over `ω` becomes one over `Traced ω`
that notes its calls. What goes to the journal is not noted.

* `Shows plain traced w result events w'`: begun in `w`, an action and its traced form both end in
  `w'` with `result`, and the traced form adds `events` to any history. So tracing an action never
  changes what it does.
* `Shows.bind`, `Shows.bind_error`, `Shows.attempt`: how histories of parts make that of the whole.
-/

namespace DepositGateway

/-- A question to the ledger. -/
inductive Question where
  | nativeBalance (address : String)
  | tokenBalance (token holder : String)
  | chainId
  | gasPrice
  | latestBaseFee
  | recentFeeSamples
  | transactionCount (address : String)
  | estimateGas (draft : Json)
  | awaitConfirmation (hash : String) (patience : Patience)
  deriving DecidableEq

/-- A call with its answer. -/
inductive Event where
  | clockRead (reading : Number)
  | stopRead (stopped : Bool)
  | paused (seconds : Json)
  /-- All entries of the store were read. -/
  | listed (answer : Except Fault (List (InvoiceKey × Invoice)))
  /-- An invoice was put into the store. -/
  | stored (key : InvoiceKey) (invoice : Invoice) (answer : Except Fault Unit)
  | deleted (key : InvoiceKey) (answer : Except Fault Unit)
  | asked (question : Question) (answer : Except Fault Json)
  /-- Signed bytes were handed in at the ledger. -/
  | submitted (raw : Bytes) (answer : Except Fault String)
  | swept (invoice : Invoice) (answer : Except Fault (String × Json))
  /-- An invoice was handed to the notifier. -/
  | sent (key : InvoiceKey) (invoice : Invoice) (answer : Except Fault Unit)

/-- A world with the calls made so far. -/
structure Traced (ω : Type) where
  world : ω
  history : List Event := []

variable {ω α β : Type}

namespace Action

/-- Runs an action without a note. -/
def silent (action : Action ω α) : Action (Traced ω) α := ExceptT.mk fun t =>
  let (result, world) := action.apply t.world
  (result, { t with world })

/-- Notes an event when an action has ended, in whatever way. -/
def noting (event : Except Fault α → Event) (action : Action (Traced ω) α) :
    Action (Traced ω) α := ExceptT.mk fun t =>
  let (result, t) := action.apply t
  (result, { t with history := t.history ++ [event result] })

/-- Runs an action and notes it with its answer. -/
def recorded (event : Except Fault α → Event) (action : Action ω α) : Action (Traced ω) α :=
  noting event (silent action)

end Action

namespace Traced

/-- Looks at the world and notes what was seen. -/
def look (event : α → Event) (read : ω → α × ω) (t : Traced ω) : α × Traced ω :=
  ((read t.world).1, ⟨(read t.world).2, t.history ++ [event (read t.world).1]⟩)

/-- Changes the world and notes that. -/
def change (event : Event) (update : ω → ω) (t : Traced ω) : Traced ω :=
  ⟨update t.world, t.history ++ [event]⟩

/-- Reports to the journal of the world. -/
def journal (journal : Journal ω) : Journal (Traced ω) := fun entry t =>
  { t with world := journal entry t.world }

end Traced

/-- The store that notes its calls. -/
def Store.traced (store : Store ω) : Store (Traced ω) where
  get key := Action.silent (store.get key)
  getAll := Action.recorded .listed store.getAll
  latest := Action.silent store.latest
  set key invoice := Action.recorded (.stored key invoice) (store.set key invoice)
  delete key := Action.recorded (.deleted key) (store.delete key)

/-- The ledger that notes its calls. -/
def Ledger.traced (ledger : Ledger ω) : Ledger (Traced ω) where
  nativeBalance address :=
    Action.recorded (.asked (.nativeBalance address)) (ledger.nativeBalance address)
  tokenBalance token holder :=
    Action.recorded (.asked (.tokenBalance token holder)) (ledger.tokenBalance token holder)
  chainId := Action.recorded (.asked .chainId) ledger.chainId
  gasPrice := Action.recorded (.asked .gasPrice) ledger.gasPrice
  latestBaseFee := Action.recorded (.asked .latestBaseFee) ledger.latestBaseFee
  recentFeeSamples := Action.recorded (.asked .recentFeeSamples) ledger.recentFeeSamples
  transactionCount address :=
    Action.recorded (.asked (.transactionCount address)) (ledger.transactionCount address)
  estimateGas draft := Action.recorded (.asked (.estimateGas draft)) (ledger.estimateGas draft)
  submitRaw raw := Action.recorded (.submitted raw) (ledger.submitRaw raw)
  awaitConfirmation hash patience :=
    Action.recorded (.asked (.awaitConfirmation hash patience))
      (ledger.awaitConfirmation hash patience)

/-- The notifier that notes what is handed to it. -/
def Notifier.traced (notifier : Notifier ω) : Notifier (Traced ω) where
  send key invoice := Action.recorded (.sent key invoice) (notifier.send key invoice)

/-! ## What a traced action shows -/

/-- An action and its traced form end alike, and the traced form adds `events` to the history. -/
structure Shows (plain : Action ω α) (traced : Action (Traced ω) α) (w : ω)
    (result : Except Fault α) (events : List Event) (w' : ω) : Prop where
  plain : plain.apply w = (result, w')
  traced : ∀ h, traced.apply ⟨w, h⟩ = (result, ⟨w', h ++ events⟩)

namespace Shows

variable {a : Action ω α} {a' : Action (Traced ω) α} {f : α → Action ω β}
  {f' : α → Action (Traced ω) β} {w w₁ w₂ : ω} {r : Except Fault α} {s : Except Fault β}
  {es fs : List Event}

protected theorem pure (x : α) (w : ω) : Shows (pure x : Action ω α) (pure x) w (.ok x) [] w :=
  ⟨rfl, fun h => by simp⟩

theorem ofExcept (r : Except Fault α) (w : ω) :
    Shows (Action.ofExcept r : Action ω α) (Action.ofExcept r) w r [] w :=
  ⟨rfl, fun h => by simp⟩

theorem known {q : Except Fault α} (h : q = r) (w : ω) :
    Shows (Action.ofExcept q : Action ω α) (Action.ofExcept q) w r [] w :=
  h ▸ ofExcept q w

theorem fail (fault : Fault) (w : ω) :
    Shows (Action.fail fault : Action ω α) (Action.fail fault) w (.error fault) [] w :=
  ofExcept _ w

theorem attempt (h : Shows a a' w r es w₁) :
    Shows (Action.attempt a) (Action.attempt a') w (.ok r) es w₁ :=
  ⟨by simp [h.plain], fun t => by simp [h.traced]⟩

theorem bind {x : α} (h : Shows a a' w (.ok x) es w₁) (hf : Shows (f x) (f' x) w₁ s fs w₂) :
    Shows (a >>= f) (a' >>= f') w s (es ++ fs) w₂ :=
  ⟨by rw [Action.apply_bind, h.plain]; exact hf.plain, fun t => by
    rw [Action.apply_bind, h.traced]; simpa using hf.traced (t ++ es)⟩

/-- What follows without a note adds nothing to the history. -/
theorem bind_quiet {x : α} (h : Shows a a' w (.ok x) es w₁)
    (hf : Shows (f x) (f' x) w₁ s [] w₂) : Shows (a >>= f) (a' >>= f') w s es w₂ := by
  simpa using h.bind hf

theorem bind_error {fault : Fault} (h : Shows a a' w (.error fault) es w₁) :
    Shows (a >>= f) (a' >>= f') w (.error fault) es w₁ :=
  ⟨by rw [Action.apply_bind, h.plain], fun t => by rw [Action.apply_bind, h.traced]⟩

theorem ofExcept_map (g : α → β) (q : Except Fault α) (w : ω) :
    Shows (do return g (← Action.ofExcept q) : Action ω β) (do return g (← Action.ofExcept q)) w
      (q.map g) [] w := by
  cases q with
  | error fault => exact (fail fault w).bind_error
  | ok x => exact (ofExcept (.ok x) w).bind_quiet (Shows.pure (g x) w)

theorem silent (a : Action ω α) (w : ω) :
    Shows a (Action.silent a) w (a.apply w).1 [] (a.apply w).2 :=
  ⟨rfl, fun h => by simp [Action.silent, Action.apply, ExceptT.run, ExceptT.mk]⟩

theorem noting (event : Except Fault α → Event) (h : Shows a a' w r es w₁) :
    Shows a (Action.noting event a') w r (es ++ [event r]) w₁ :=
  ⟨h.plain, fun t => by
    have e := h.traced t
    simp only [Action.apply, ExceptT.run] at e
    simp [Action.noting, Action.apply, ExceptT.run, ExceptT.mk, e]⟩

theorem recorded (event : Except Fault α → Event) (a : Action ω α) (w : ω) :
    Shows a (Action.recorded event a) w (a.apply w).1 [event (a.apply w).1] (a.apply w).2 :=
  noting event (silent a w)

theorem look (event : α → Event) (read : ω → α × ω) (w : ω) :
    Shows (Action.step read) (Action.step (Traced.look event read)) w (.ok (read w).1)
      [event (read w).1] (read w).2 :=
  ⟨rfl, fun _ => rfl⟩

theorem change (event : Event) (update : ω → ω) (w : ω) :
    Shows (Action.update update) (Action.update (Traced.change event update)) w (.ok ()) [event]
      (update w) :=
  ⟨rfl, fun _ => rfl⟩

theorem report (journal : Journal ω) (source : LogSource) (level : LogLevel) (text : String)
    (w : ω) : Shows (journal.report source level text)
      ((Traced.journal journal).report source level text) w (.ok ()) []
      (journal { level, source, text } w) :=
  ⟨rfl, fun h => by simp [Journal.report, Action.update, Traced.journal]⟩

theorem infoWritten (journal : Journal ω) (source : LogSource) {writable : Bool}
    (h : writable = true) (text : String) (w : ω) : Shows (journal.infoWritten source writable text)
      ((Traced.journal journal).infoWritten source writable text) w (.ok ()) []
      (journal { level := .info, source, text } w) :=
  h ▸ report journal source .info text w

theorem infoWritten_overlong (journal : Journal ω) (source : LogSource) {writable : Bool}
    (h : ¬ writable = true) (text : String) (w : ω) :
    Shows (journal.infoWritten source writable text)
      ((Traced.journal journal).infoWritten source writable text) w (.error .tooManyDigits) [] w :=
  Bool.eq_false_iff.2 h ▸ fail .tooManyDigits w

theorem unhandled (journal : Journal ω) (source : LogSource) (text : String) (fault : Fault)
    (w : ω) : Shows (journal.unhandled source text fault)
      ((Traced.journal journal).unhandled source text fault) w (.ok ()) []
      (journal { level := .error, source, text, fault := some fault } w) :=
  ⟨rfl, fun h => by simp [Journal.unhandled, Action.update, Traced.journal]⟩

theorem congr {r' : Except Fault α} (h : Shows a a' w r es w₁) (hr : r = r') (he : es = fs) :
    Shows a a' w r' fs w₁ := hr ▸ he ▸ h

/-- Begun without a history, the traced form has noted nothing else. -/
theorem history (h : Shows a a' w r es w₁) : (a'.apply ⟨w, []⟩).2.history = es := by
  rw [h.traced []]
  rfl

/-- Two accounts of one action from one world agree. -/
theorem unique {r' : Except Fault α} (h : Shows a a' w r es w₁) (h' : Shows a a' w r' fs w₂) :
    r = r' ∧ es = fs ∧ w₁ = w₂ := by
  have hp := h.plain.symm.trans h'.plain
  have ht := (h.traced []).symm.trans (h'.traced [])
  simp only [List.nil_append, Prod.mk.injEq, Traced.mk.injEq] at hp ht
  exact ⟨hp.1, ht.2.2, hp.2⟩

end Shows

end DepositGateway
