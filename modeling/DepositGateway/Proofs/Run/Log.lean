import DepositGateway.Gateway
import DepositGateway.Proofs.Poller.Turns

/-!
# Runs and their logs

A run is any sequence of orders for invoices, changes of the surroundings and passes over one
world. Its log has an entry for each order and for each invoice that a pass treats, with the calls
that were made and the world that was left.

* `Gateway.Makes`: the invoice that an order makes.
* `Gateway.newInvoice_shows`: an order reads the clock and, when it goes so far, stores the invoice
  that it makes under a fresh text; it does nothing else.
* `Service.log`: the log of a run, and the world after it.
-/

namespace DepositGateway

variable {ω : Type}

namespace Gateway

/-- The gateway that notes its calls. -/
def traced (gateway : Gateway ω) : Gateway (Traced ω) where
  name := gateway.name
  store := gateway.store.traced
  journal := Traced.journal gateway.journal
  clock := Traced.look .clockRead gateway.clock
  issueKey := Action.silent gateway.issueKey

/-- `Same` holds from each world to the one that any call leaves which is none of the store. -/
structure Keeps (gateway : Gateway ω) (Same : ω → ω → Prop) : Prop where
  refl : ∀ w, Same w w
  trans : ∀ {w₁ w₂ w₃}, Same w₁ w₂ → Same w₂ w₃ → Same w₁ w₃
  clock : ∀ w, Same w (gateway.clock w).2
  journal : ∀ entry w, Same w (gateway.journal entry w)
  issueKey : ∀ w, Same w (gateway.issueKey.apply w).2

/-- The invoice that an order makes: a pending one with what was asked for, for an address and its
key as they were issued. -/
structure Makes (gateway : Gateway ω) (amount : Json) (method : PaymentMethod) (message : Bytes)
    (expiresIn : Number) (invoice : Invoice) : Prop where
  issued : ∃ w w', gateway.issueKey.apply w = (.ok (invoice.address, invoice.wallet), w')
  amount : amount.toInteger >>= Amount.ofInt = .ok invoice.amount
  method : invoice.method = method
  message : invoice.message = message
  paidAt : invoice.paidAt = .int 0
  /-- So many whole seconds after a moment that the clock showed. -/
  expires : ∃ w created lifetime, (gateway.clock w).1.toInteger = .ok created ∧
    expiresIn.toInteger = .ok lifetime ∧ invoice.expires = .int (created + lifetime)
  receipt : invoice.receipt = .null
  hash : invoice.hash = .null

/-- From `w` to `w'` the store was asked at most once to set something, under a text an invoice that
is `Made`; nothing else touched it. `events` are the calls. -/
inductive Creation (gateway : Gateway ω) (Same : ω → ω → Prop) (Made : Invoice → Prop) (w : ω) :
    List Event → ω → Prop
  /-- The order was given up before the store was asked. -/
  | refused (readings : List Number) {w' : ω} (same : Same w w') :
      Creation gateway Same Made w (readings.map .clockRead) w'
  | stored (readings : List Number) {key : String} {invoice : Invoice} {answer : Except Fault Unit}
      {w₁ w₂ w' : ω} (before : Same w w₁) (made : Made invoice)
      (set : (gateway.store.set (.text key) invoice).apply w₁ = (answer, w₂)) (after : Same w₂ w') :
      Creation gateway Same Made w
        (readings.map .clockRead ++ [.stored (.text key) invoice answer]) w'

theorem readClock_shows (gateway : Gateway ω) (w : ω) :
    Shows gateway.readClock gateway.traced.readClock w (.ok (gateway.clock w).1)
      [.clockRead (gateway.clock w).1] (gateway.clock w).2 :=
  Shows.look .clockRead gateway.clock w

theorem stored_shows {gateway : Gateway ω} {Same : ω → ω → Prop} (hk : gateway.Keeps Same)
    (id : String) (invoice : Invoice) (expires : Number) (w : ω) :
    ∃ result answer w₁ w', Shows
        (do
          gateway.store.set (.text id) invoice
          gateway.journal.infoWritten .gateway expires.isWritable ("Created invoice " ++ id
            ++ " for " ++ invoice.address ++ " (expires " ++ expires.text ++ ")")
          return (id, invoice))
        (do
          gateway.traced.store.set (.text id) invoice
          gateway.traced.journal.infoWritten .gateway expires.isWritable ("Created invoice " ++ id
            ++ " for " ++ invoice.address ++ " (expires " ++ expires.text ++ ")")
          return (id, invoice))
        w result [.stored (.text id) invoice answer] w' ∧
      (gateway.store.set (.text id) invoice).apply w = (answer, w₁) ∧ Same w₁ w' := by
  have hset := Shows.recorded (.stored (.text id) invoice) (gateway.store.set (.text id) invoice) w
  rcases h : (gateway.store.set (.text id) invoice).apply w with ⟨fault | _, w₁⟩
  · rw [h] at hset
    exact ⟨_, _, _, _, hset.bind_error, rfl, hk.refl _⟩
  · rw [h] at hset
    by_cases hwritable : expires.isWritable = true
    · exact ⟨_, _, _, _, hset.bind_quiet
        ((Shows.infoWritten _ _ hwritable _ _).bind_quiet (Shows.pure _ _)), rfl, hk.journal _ _⟩
    · exact ⟨_, _, _, _, hset.bind_quiet (Shows.infoWritten_overlong _ _ hwritable _ _).bind_error,
        rfl, hk.refl _⟩

theorem newInvoice_shows {gateway : Gateway ω} {Same : ω → ω → Prop} (hk : gateway.Keeps Same)
    (amount : Json) (method : PaymentMethod) (message : Bytes) (expiresIn : Number) (w : ω) :
    ∃ result events w', Shows (gateway.newInvoice amount method message expiresIn)
      (gateway.traced.newInvoice amount method message expiresIn) w result events w' ∧
      gateway.Creation Same (gateway.Makes amount method message expiresIn) w events w' := by
  unfold newInvoice
  by_cases hneg : expiresIn.lt 0 = true
  · rw [if_pos hneg, if_pos hneg]
    exact ⟨_, _, _, Shows.fail _ _, .refused [] (hk.refl w)⟩
  rw [if_neg hneg, if_neg hneg]
  have hissue := Shows.silent gateway.issueKey w
  have hsame₁ := hk.issueKey w
  rcases h : gateway.issueKey.apply w with ⟨fault | ⟨address, key⟩, w₁⟩
  · rw [h] at hissue hsame₁
    exact ⟨_, _, _, hissue.bind_error, .refused [] hsame₁⟩
  rw [h] at hissue hsame₁
  have hread := readClock_shows gateway w₁
  have hsame₂ := hk.trans hsame₁ (hk.clock w₁)
  generalize hclock : (gateway.clock w₁).1 = first at hread
  generalize (gateway.clock w₁).2 = w₂ at hread hsame₂
  cases hcreated : first.toInteger with
  | error fault =>
    exact ⟨_, _, _, hissue.bind (hread.bind (Shows.known hcreated _).bind_error),
      .refused [first] hsame₂⟩
  | ok created =>
    cases hlifetime : expiresIn.toInteger with
    | error fault =>
      exact ⟨_, _, _, hissue.bind (hread.bind ((Shows.known hcreated _).bind
        (Shows.fail _ _).bind_error)), .refused [first] hsame₂⟩
    | ok lifetime =>
      cases hasked : amount.toInteger >>= Amount.ofInt with
      | error fault =>
        exact ⟨_, _, _, hissue.bind (hread.bind ((Shows.known hcreated _).bind
          ((Shows.ofExcept _ _).bind (Shows.fail _ _).bind_error))), .refused [first] hsame₂⟩
      | ok asked =>
        have hread' := readClock_shows gateway w₂
        have hsame₃ := hk.trans hsame₂ (hk.clock w₂)
        generalize (gateway.clock w₂).1 = second at hread'
        generalize (gateway.clock w₂).2 = w₃ at hread' hsame₃
        cases hmillis : wholeMillis second with
        | error fault =>
          exact ⟨_, _, _, hissue.bind (hread.bind ((Shows.known hcreated _).bind
            ((Shows.ofExcept _ _).bind ((Shows.ofExcept _ _).bind
              (hread'.bind (Shows.known hmillis _).bind_error))))),
            .refused [first, second] hsame₃⟩
        | ok millis =>
          have hstore := stored_shows hk (invoiceId address millis)
            { address, wallet := key, amount := asked, method, message,
              expires := .num (.int (created + lifetime)) } (.int (created + lifetime)) w₃
          obtain ⟨result, answer, w₄, w₅, hshows, hset, hafter⟩ := hstore
          have made : gateway.Makes amount method message expiresIn
              { address, wallet := key, amount := asked, method, message,
                expires := .num (.int (created + lifetime)) } := {
            issued := ⟨w, w₁, h⟩, amount := hasked, method := rfl, message := rfl, paidAt := rfl
            expires := ⟨w₁, created, lifetime, by rw [hclock, hcreated], hlifetime, rfl⟩
            receipt := rfl, hash := rfl }
          exact ⟨_, _, _, hissue.bind (hread.bind ((Shows.known hcreated _).bind
            ((Shows.ofExcept _ _).bind ((Shows.ofExcept _ _).bind
              (hread'.bind ((Shows.known hmillis _).bind hshows)))))),
            .stored [first, second] hsame₃ made hset hafter⟩

theorem keeps_true (gateway : Gateway ω) : gateway.Keeps fun _ _ => True := by
  constructor <;> intros <;> trivial

end Gateway

/-! ## Runs -/

/-- A gateway and the poller beside it; `sweep` is the traced form of the poller's sweeps. -/
structure Service (ω : Type) where
  gateway : Gateway ω
  poller : Poller ω
  sweep : Invoice → Action (Traced ω) (String × Json) := poller.silentSweep

/-- What may come next in a run. -/
inductive Step (ω : Type) where
  /-- An invoice is ordered. -/
  | order (amount : Json) (method : PaymentMethod) (message : Bytes) (expiresIn : Number)
  /-- Balances, fees, clocks, failures or anything else change. -/
  | change (update : ω → ω)
  | pass

/-- An entry of a log: an order, or an invoice that a pass treated. -/
inductive Happening (ω : Type) where
  | ordered (events : List Event) (world : ω)
  | treated (turn : Turn ω)

namespace Happening

/-- The calls that were made. -/
def events : Happening ω → List Event
  | ordered events _ => events
  | treated turn => turn.events

/-- The world that was left. -/
def world : Happening ω → ω
  | ordered _ world => world
  | treated turn => turn.world

/-- The key of the treated invoice. -/
def key? : Happening ω → Option InvoiceKey
  | ordered _ _ => none
  | treated turn => some turn.key

end Happening

namespace Service

/-- What a step writes into the log, and the world after it. -/
def happenings (service : Service ω) : Step ω → ω → List (Happening ω) × ω
  | .order amount method message expiresIn, w =>
    let (_, t) := (service.gateway.traced.newInvoice amount method message expiresIn).apply ⟨w, []⟩
    ([.ordered t.history t.world], t.world)
  | .change update, w => ([], update w)
  | .pass, w =>
    let (turns, w) := service.poller.passTurns service.sweep w
    (turns.map .treated, w)

/-- The log of a run, and the world after it. -/
def log (service : Service ω) : List (Step ω) → ω → List (Happening ω) × ω
  | [], w => ([], w)
  | step :: rest, w =>
    let (first, w) := service.happenings step w
    let (others, w) := log service rest w
    (first ++ others, w)

/-- What a step does to the world. -/
def perform (service : Service ω) (w : ω) : Step ω → ω
  | .order amount method message expiresIn =>
    ((service.gateway.newInvoice amount method message expiresIn).apply w).2
  | .change update => update w
  | .pass => (service.poller.runPass.apply w).2

theorem happenings_world (service : Service ω) (hw : service.poller.Notes service.sweep)
    (step : Step ω) (w : ω) : (service.happenings step w).2 = service.perform w step := by
  cases step with
  | order amount method message expiresIn =>
    obtain ⟨result, events, w', hs, -⟩ := Gateway.newInvoice_shows service.gateway.keeps_true
      amount method message expiresIn w
    simp [happenings, perform, hs.plain, hs.traced]
  | change update => rfl
  | pass =>
    have hs := Poller.runPass_shows service.poller.keeps_true hw w
    simp [happenings, perform, hs.plain]

/-- The world after a log is the one that the steps themselves lead to. -/
theorem log_world (service : Service ω) (hw : service.poller.Notes service.sweep)
    (steps : List (Step ω)) (w : ω) : (service.log steps w).2 = steps.foldl service.perform w := by
  induction steps generalizing w with
  | nil => rfl
  | cons step rest ih =>
    rw [List.foldl_cons, ← happenings_world service hw step w]
    exact ih _

/-- An entry of a log belongs to some step, which was begun in some world. -/
theorem mem_log {service : Service ω} {steps : List (Step ω)} {w : ω} {happening : Happening ω}
    (h : happening ∈ (service.log steps w).1) :
    ∃ step w', happening ∈ (service.happenings step w').1 := by
  induction steps generalizing w with
  | nil => cases h
  | cons step rest ih =>
    rcases List.mem_append.mp h with h | h
    · exact ⟨step, w, h⟩
    · exact ih h

/-- Each treatment in a log goes one of the ways. -/
theorem treated_course {service : Service ω} (hw : service.poller.Notes service.sweep)
    {steps : List (Step ω)} {w : ω} {turn : Turn ω}
    (h : .treated turn ∈ (service.log steps w).1) :
    ∃ w', service.poller.Course service.sweep (fun _ _ => True) turn.key turn.invoice w'
      turn.result turn.events turn.world := by
  obtain ⟨step, w', h⟩ := mem_log h
  cases step with
  | order => simp [happenings] at h
  | change => cases h
  | pass =>
    refine Poller.passTurns_course service.poller.keeps_true hw (w := w') ?_
    simpa [happenings] using h

/-- Nothing is handed over when an invoice is ordered. -/
theorem not_sent_of_ordered {service : Service ω} {steps : List (Step ω)} {w w' : ω}
    {events : List Event} (h : .ordered events w' ∈ (service.log steps w).1) (key : InvoiceKey)
    (invoice : Invoice) (answer : Except Fault Unit) : .sent key invoice answer ∉ events := by
  obtain ⟨step, w₀, h⟩ := mem_log h
  cases step with
  | order amount method message expiresIn =>
    obtain ⟨result, calls, w₁, hs, hc⟩ := Gateway.newInvoice_shows service.gateway.keeps_true
      amount method message expiresIn w₀
    simp only [happenings, hs.traced, List.nil_append, List.mem_singleton,
      Happening.ordered.injEq] at h
    obtain ⟨rfl, -⟩ := h
    cases hc <;> simp
  | change => cases h
  | pass => simp [happenings] at h

end Service

end DepositGateway
