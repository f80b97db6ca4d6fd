import DepositGateway.Proofs.Poller.Course

/-!
# The turns of a pass

A pass treats one invoice after the other. A `Turn` is the treatment of one of them, with the calls
it made, its result and the world it left; `Poller.turns` are those that a list of entries gets,
until the poller is told to stop or a treatment fails.

* `Poller.turn_course`: every turn goes one of the ways of `Poller.Course`.
* `Poller.processAll_shows`, `Poller.runPass_shows`: a pass is its turns, with a look at the stop
  flag before each and a pause after each, and its outcomes are their results.
-/

namespace DepositGateway

/-- The treatment of one invoice. -/
structure Turn (ω : Type) where
  key : InvoiceKey
  invoice : Invoice
  result : Except Fault InvoiceStatus
  /-- The calls that were made. -/
  events : List Event
  /-- The world that was left. -/
  world : ω

namespace Turn

variable {ω : Type}

/-- What was treated. -/
def entry (turn : Turn ω) : InvoiceKey × Invoice := (turn.key, turn.invoice)

/-- The calls of a pass for one invoice: its treatment between a look at the stop flag and a pause,
which a failed treatment does not get. -/
def round (delay : Json) (turn : Turn ω) : List Event :=
  .stopRead false :: turn.events ++
    match turn.result with
    | .ok _ => [.paused delay]
    | .error _ => []

/-- The results of turns under their keys, or the first fault. -/
def outcomes : List (Turn ω) → Except Fault (List (InvoiceKey × InvoiceStatus))
  | [] => .ok []
  | turn :: rest => do
    let status ← turn.result
    let others ← outcomes rest
    .ok ((turn.key, status) :: others)

/-- The last look at the stop flag, where it ended the turns before the entries. -/
def closing (entries : List (InvoiceKey × Invoice)) (turns : List (Turn ω)) : List Event :=
  match outcomes turns with
  | .ok _ => if turns.length < entries.length then [.stopRead true] else []
  | .error _ => []

theorem outcomes_ok {turns : List (Turn ω)} {outcomes : List (InvoiceKey × InvoiceStatus)}
    (h : Turn.outcomes turns = .ok outcomes) :
    turns.map (fun turn => (turn.key, turn.result)) =
      outcomes.map fun outcome => (outcome.1, .ok outcome.2) := by
  induction turns generalizing outcomes with
  | nil =>
    cases h
    rfl
  | cons turn rest ih =>
    cases hr : turn.result with
    | error fault => simp [Turn.outcomes, hr, bind, Except.bind] at h
    | ok status =>
      cases ho : Turn.outcomes rest with
      | error fault => simp [Turn.outcomes, hr, ho, bind, Except.bind] at h
      | ok others =>
        simp only [Turn.outcomes, hr, ho, bind, Except.bind, Except.ok.injEq] at h
        subst h
        simp [hr, ih ho]

/-- Turns that all have a status have outcomes. -/
theorem outcomes_of_ok {turns : List (Turn ω)}
    (h : ∀ turn ∈ turns, ∃ status, turn.result = .ok status) :
    ∃ outcomes, Turn.outcomes turns = .ok outcomes := by
  induction turns with
  | nil => exact ⟨[], rfl⟩
  | cons turn rest ih =>
    obtain ⟨status, hr⟩ := h turn (by simp)
    obtain ⟨others, ho⟩ := ih fun other hm => h other (by simp [hm])
    exact ⟨(turn.key, status) :: others, by simp [Turn.outcomes, hr, ho, bind, Except.bind]⟩

end Turn

namespace Poller

variable {ω : Type}

/-- The treatment of an entry. -/
def turn (poller : Poller ω) (sweep : Invoice → Action (Traced ω) (String × Json))
    (entry : InvoiceKey × Invoice) (w : ω) : Turn ω :=
  let (result, t) := ((poller.traced sweep).process entry.1 entry.2).apply ⟨w, []⟩
  { key := entry.1, invoice := entry.2, result, events := t.history, world := t.world }

/-- The treatments that entries get, and the world after them. -/
def turns (poller : Poller ω) (sweep : Invoice → Action (Traced ω) (String × Json)) :
    List (InvoiceKey × Invoice) → ω → List (Turn ω) × ω
  | [], w => ([], w)
  | entry :: rest, w =>
    let (stop, w) := poller.stopped w
    if stop then ([], w)
    else
      let turn := poller.turn sweep entry w
      match turn.result with
      | .error _ => ([turn], turn.world)
      | .ok _ =>
        let (others, w) := turns poller sweep rest (poller.sleep poller.invoiceDelay turn.world)
        (turn :: others, w)

/-- The treatments of a pass, and the world after it. -/
def passTurns (poller : Poller ω) (sweep : Invoice → Action (Traced ω) (String × Json)) (w : ω) :
    List (Turn ω) × ω :=
  match poller.store.getAll.apply w with
  | (.ok entries, w) =>
    poller.turns sweep entries (((poller.info
      ("Pending invoices: " ++ Decimal.text entries.length)).apply w).2)
  | (.error (.store fault), w) =>
    ([], ((poller.journal.error .poller
      ("Could not get all invoices, skipping pass: " ++ fault.text)).apply w).2)
  | (.error _, w) => ([], w)

/-- What became of a pass whose reading of the store gave `listing`, by its turns. -/
def passResult (listing : Except Fault (List (InvoiceKey × Invoice))) (turns : List (Turn ω)) :
    Except Fault (List (InvoiceKey × InvoiceStatus)) :=
  match listing with
  | .ok _ => Turn.outcomes turns
  | .error (.store _) => .ok []
  | .error fault => .error fault

/-- The calls of such a pass. -/
def passEvents (delay : Json) (listing : Except Fault (List (InvoiceKey × Invoice)))
    (turns : List (Turn ω)) : List Event :=
  .listed listing ::
    match listing with
    | .ok entries => turns.flatMap (Turn.round delay) ++ Turn.closing entries turns
    | .error _ => []

section

variable {poller : Poller ω} {sweep : Invoice → Action (Traced ω) (String × Json)}
  {Same : ω → ω → Prop}

theorem turn_key (poller : Poller ω) (sweep : Invoice → Action (Traced ω) (String × Json))
    (entry : InvoiceKey × Invoice) (w : ω) : (poller.turn sweep entry w).key = entry.1 := rfl

theorem turn_entry (poller : Poller ω) (sweep : Invoice → Action (Traced ω) (String × Json))
    (entry : InvoiceKey × Invoice) (w : ω) : (poller.turn sweep entry w).entry = entry := rfl

/-- A turn is what its calls show, and goes one of the ways. -/
theorem turn_course (hk : poller.Keeps Same) (hw : poller.Notes sweep)
    (entry : InvoiceKey × Invoice) (w : ω) :
    Shows (poller.process entry.1 entry.2) ((poller.traced sweep).process entry.1 entry.2) w
        (poller.turn sweep entry w).result (poller.turn sweep entry w).events
        (poller.turn sweep entry w).world ∧
      poller.Course sweep Same entry.1 entry.2 w (poller.turn sweep entry w).result
        (poller.turn sweep entry w).events (poller.turn sweep entry w).world := by
  obtain ⟨result, events, w', hs, hc⟩ := exists_course hk hw entry.1 entry.2 w
  have h := hs.traced []
  simp only [List.nil_append] at h
  simp only [turn, h]
  exact ⟨hs, hc⟩

/-- The turns are those of the first entries, in their order. -/
theorem turns_entries (poller : Poller ω) (sweep : Invoice → Action (Traced ω) (String × Json))
    (entries : List (InvoiceKey × Invoice)) (w : ω) :
    (poller.turns sweep entries w).1.map Turn.entry <+: entries := by
  induction entries generalizing w with
  | nil => simp [turns]
  | cons entry rest ih =>
    unfold turns
    rcases poller.stopped w with ⟨_ | _, w₁⟩
    · cases h : (poller.turn sweep entry w₁).result with
      | error fault => simp [h, turn_entry]
      | ok status => simp [h, turn_entry, ih]
    · simp

/-- Each turn is that of some entry in some world. -/
theorem mem_turns {entries : List (InvoiceKey × Invoice)} {w : ω} {turn : Turn ω}
    (h : turn ∈ (poller.turns sweep entries w).1) :
    ∃ entry w', entry ∈ entries ∧ turn = poller.turn sweep entry w' := by
  induction entries generalizing w with
  | nil => simp [turns] at h
  | cons entry rest ih =>
    unfold turns at h
    rcases hs : poller.stopped w with ⟨_ | _, w₁⟩
    · cases hr : (poller.turn sweep entry w₁).result with
      | error fault =>
        simp only [hs, hr, Bool.false_eq_true, if_false, List.mem_singleton] at h
        exact ⟨entry, w₁, by simp, h⟩
      | ok status =>
        simp only [hs, hr, Bool.false_eq_true, if_false, List.mem_cons] at h
        rcases h with h | h
        · exact ⟨entry, w₁, by simp, h⟩
        · obtain ⟨entry', w', he, hturn⟩ := ih h
          exact ⟨entry', w', by simp [he], hturn⟩
    · simp [hs] at h

/-- Each turn of a pass goes one of the ways. -/
theorem passTurns_course (hk : poller.Keeps Same) (hw : poller.Notes sweep) {w : ω} {turn : Turn ω}
    (h : turn ∈ (poller.passTurns sweep w).1) :
    ∃ w', poller.Course sweep Same turn.key turn.invoice w' turn.result turn.events turn.world := by
  unfold passTurns at h
  split at h
  · obtain ⟨entry, w', -, rfl⟩ := mem_turns h
    exact ⟨w', (turn_course hk hw entry w').2⟩
  · cases h
  · cases h

theorem passTurns_ok {w w₁ : ω} {entries : List (InvoiceKey × Invoice)}
    (h : poller.store.getAll.apply w = (.ok entries, w₁)) :
    poller.passTurns sweep w = poller.turns sweep entries (((poller.info
      ("Pending invoices: " ++ Decimal.text entries.length)).apply w₁).2) := by
  simp [passTurns, h]

/-- The treatment of entries is that of their turns. -/
theorem processAll_shows (hk : poller.Keeps Same) (hw : poller.Notes sweep)
    (entries : List (InvoiceKey × Invoice)) (w : ω) :
    Shows (poller.processAll entries) ((poller.traced sweep).processAll entries) w
      (Turn.outcomes (poller.turns sweep entries w).1)
      ((poller.turns sweep entries w).1.flatMap (Turn.round poller.invoiceDelay) ++
        Turn.closing entries (poller.turns sweep entries w).1)
      (poller.turns sweep entries w).2 := by
  induction entries generalizing w with
  | nil => simpa [turns, processAll, Turn.outcomes, Turn.closing] using Shows.pure [] w
  | cons entry rest ih =>
    obtain ⟨key, invoice⟩ := entry
    have hstop := Shows.look .stopRead poller.stopped w
    rcases h : poller.stopped w with ⟨_ | _, w₁⟩
    · rw [h] at hstop
      have hturn := (turn_course hk hw (key, invoice) w₁).1
      have hkey := turn_key poller sweep (key, invoice) w₁
      unfold processAll
      simp only [turns, h]
      generalize poller.turn sweep (key, invoice) w₁ = turn at hturn hkey
      simp only at hkey
      cases hr : turn.result with
      | error fault =>
        rw [hr] at hturn
        refine Shows.congr (hstop.bind hturn.bind_error) ?_ ?_ <;>
          simp [Turn.outcomes, Turn.closing, Turn.round, hr, bind, Except.bind]
      | ok status =>
        rw [hr] at hturn
        have hpause := Shows.change (.paused poller.invoiceDelay)
          (poller.sleep poller.invoiceDelay) turn.world
        have hrest := ih (poller.sleep poller.invoiceDelay turn.world)
        generalize poller.turns sweep rest _ = others at hrest
        cases ho : Turn.outcomes others.1 with
        | error fault =>
          rw [ho] at hrest
          refine Shows.congr (hstop.bind (hturn.bind (hpause.bind hrest.bind_error))) ?_ ?_ <;>
            simp [Turn.outcomes, Turn.closing, Turn.round, hr, ho, bind, Except.bind]
        | ok outcomes =>
          rw [ho] at hrest
          refine Shows.congr (hstop.bind (hturn.bind (hpause.bind
            (hrest.bind_quiet (Shows.pure _ _))))) ?_ ?_ <;>
            simp [Turn.outcomes, Turn.closing, Turn.round, hr, ho, hkey, bind, Except.bind]
    · rw [h] at hstop
      unfold processAll
      simp only [turns, h]
      exact hstop.bind_quiet (Shows.pure [] w₁)

/-- A pass is the reading of the store and its turns. -/
theorem runPass_shows (hk : poller.Keeps Same) (hw : poller.Notes sweep) (w : ω) :
    Shows poller.runPass (poller.traced sweep).runPass w
      (passResult (poller.store.getAll.apply w).1 (poller.passTurns sweep w).1)
      (passEvents poller.invoiceDelay (poller.store.getAll.apply w).1
        (poller.passTurns sweep w).1)
      (poller.passTurns sweep w).2 := by
  have hlist := (Shows.recorded .listed poller.store.getAll w).attempt
  unfold runPass passTurns
  rcases h : poller.store.getAll.apply w with ⟨fault | entries, w₁⟩
  · rw [h] at hlist
    rcases fault with _ | fault | _ | _ | _
    case store => exact hlist.bind_quiet ((Shows.report _ _ _ _ _).bind_quiet (Shows.pure _ _))
    all_goals exact hlist.bind_quiet (Shows.fail _ _)
  · rw [h] at hlist
    exact hlist.bind ((Shows.report _ _ _ _ _).bind (processAll_shows hk hw _ _))

end

end Poller

end DepositGateway
