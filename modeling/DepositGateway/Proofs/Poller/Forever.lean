import DepositGateway.Poller.Loop
import DepositGateway.Proofs.Poller.Orderly

/-!
# The polling loop and the order to stop

The loop makes pass after pass with one pause between two, whatever becomes of each, and ends where
it finds that it was told to stop. It looks for that before each pass, before each invoice, and
after each pass.

* `Poller.Obeys`: what it means that the poller knows whether it was told to stop.
* `Poller.treatments`, `Poller.starts`: the worlds in which invoices are treated and passes begun.
* `Poller.passCalls`, `Poller.roundCalls`: the calls of a pass, with and without the pause after it.
* `Poller.Contained`: how the loop goes. `Poller.runForever_contained`: it always goes so.
-/

namespace DepositGateway

variable {ω : Type}

namespace Poller

/-- A look at the stop flag tells whether the poller was told to stop, and neither gives the order
nor takes it back; nor do reports and pauses take it back. When it is given is left open. -/
structure Obeys (poller : Poller ω) (told : ω → Prop) : Prop where
  look : ∀ w, (poller.stopped w).1 = true ↔ told w
  looked : ∀ w, told (poller.stopped w).2 ↔ told w
  journal : ∀ entry w, told w → told (poller.journal entry w)
  sleep : ∀ seconds w, told w → told (poller.sleep seconds w)

/-! ## Where treatments and passes begin -/

variable (poller : Poller ω)

/-- The world after a treatment and, where it did not fail, the pause that follows. -/
def leaves (turn : Turn ω) : ω :=
  match turn.result with
  | .ok _ => poller.sleep poller.invoiceDelay turn.world
  | .error _ => turn.world

/-- The treatments that entries get, each with the world in which it is begun. -/
def treatments : List (InvoiceKey × Invoice) → ω → List (ω × Turn ω)
  | [], _ => []
  | entry :: rest, w =>
    if (poller.stopped w).1 then []
    else
      let begun := (poller.stopped w).2
      let turn := poller.turn poller.silentSweep entry begun
      (begun, turn) ::
        match turn.result with
        | .ok _ => treatments rest (poller.leaves turn)
        | .error _ => []

/-- The treatments of a pass. -/
def passTreatments (start : ω) : List (ω × Turn ω) :=
  match poller.store.getAll.apply start with
  | (.ok entries, w) => poller.treatments entries
      (((poller.info ("Pending invoices: " ++ Decimal.text entries.length)).apply w).2)
  | (.error _, _) => []

/-- The world after a pass and the report of its failure. -/
def afterPass (start : ω) : ω := (poller.runPassSafely.apply start).2

/-- The world after a pass and the pause that follows. -/
def afterPause (start : ω) : ω :=
  poller.sleep poller.pollerDelay (poller.stopped (poller.afterPass start)).2

/-- The worlds in which the passes of the loop are begun. -/
def starts : Nat → ω → List ω
  | 0, _ => []
  | passes + 1, w =>
    if (poller.stopped w).1 then []
    else
      let start := (poller.stopped w).2
      start ::
        if (poller.stopped (poller.afterPass start)).1 then []
        else starts passes (poller.afterPause start)

/-- The calls of a pass. -/
def passCalls (start : ω) : List Event :=
  passEvents poller.invoiceDelay (poller.store.getAll.apply start).1
    ((poller.passTreatments start).map Prod.snd)

/-- The calls of a pass that is not the last one, with the looks around it and the pause after. -/
def roundCalls (start : ω) : List Event :=
  .stopRead false :: poller.passCalls start ++ [.stopRead false, .paused poller.pollerDelay]

/-- How the loop goes from `w` on, for at most a number of passes. -/
structure Contained (told : ω → Prop) (passes : Nat) (w : ω) (ended : Bool) (events : List Event)
    (w' : ω) : Prop where
  /-- It ends exactly where it was told to stop. -/
  ended_iff : ended = true ↔ told w'
  unended : ended = false → (poller.starts passes w).length = passes
  /-- Two passes are one pause apart; the last one has none after it where the order came in it. -/
  calls : ((∀ start ∈ poller.starts passes w, ¬ told (poller.afterPass start)) ∧
      events = (poller.starts passes w).flatMap poller.roundCalls ++ [.stopRead ended]) ∨
    ∃ before last, poller.starts passes w = before ++ [last] ∧ told (poller.afterPass last) ∧
      events = before.flatMap poller.roundCalls ++
        (.stopRead false :: poller.passCalls last ++ [.stopRead true])
  /-- No pass is begun after an order before the loop. -/
  stays : told w → poller.starts passes w = [] ∧ ended = true
  /-- No pass is begun after the order, and the loop ends with the one in which or in whose pause it
  came. -/
  passes_untold : ∀ start ∈ poller.starts passes w, ¬ told start
  passes_end : ∀ before start after, poller.starts passes w = before ++ start :: after →
    told (poller.afterPass start) ∨ told (poller.afterPause start) → after = [] ∧ ended = true
  /-- No invoice is treated after the order, and the pass ends with the one in whose treatment or
  in whose pause it came. -/
  treatments_untold : ∀ start ∈ poller.starts passes w,
    ∀ treatment ∈ poller.passTreatments start, ¬ told treatment.1
  treatments_end : ∀ start ∈ poller.starts passes w, ∀ before treatment after,
    poller.passTreatments start = before ++ treatment :: after →
    told treatment.2.world ∨ told (poller.leaves treatment.2) →
    after = [] ∧ told (poller.afterPass start)

variable {poller} {told : ω → Prop}

/-! ## Invoices -/

theorem told_leaves (h : poller.Obeys told) {turn : Turn ω} (hturn : told turn.world) :
    told (poller.leaves turn) := by
  unfold leaves
  split
  · exact h.sleep _ _ hturn
  · exact hturn

theorem told_afterPause (h : poller.Obeys told) {start : ω}
    (hpass : told (poller.afterPass start)) : told (poller.afterPause start) :=
  h.sleep _ _ ((h.looked _).2 hpass)

theorem untold_of_look (h : poller.Obeys told) {w : ω} (hlook : (poller.stopped w).1 = false) :
    ¬ told w := by
  rw [← h.look w, hlook]
  exact Bool.false_ne_true

theorem untold_after_look (h : poller.Obeys told) {w : ω}
    (hlook : (poller.stopped w).1 = false) : ¬ told (poller.stopped w).2 :=
  (h.looked w).not.2 (untold_of_look h hlook)

theorem treatments_turns (poller : Poller ω) (entries : List (InvoiceKey × Invoice)) (w : ω) :
    (poller.treatments entries w).map Prod.snd = (poller.turns poller.silentSweep entries w).1 := by
  induction entries generalizing w with
  | nil => rfl
  | cons entry rest ih =>
    unfold treatments turns
    cases hlook : (poller.stopped w).1 with
    | true => simp [hlook]
    | false =>
      cases hresult : (poller.turn poller.silentSweep entry (poller.stopped w).2).result with
      | error fault => simp [hlook, hresult]
      | ok status => simp [hlook, hresult, ih, leaves]

theorem treatments_untold (h : poller.Obeys told) {entries : List (InvoiceKey × Invoice)} {w : ω}
    {treatment : ω × Turn ω} (hm : treatment ∈ poller.treatments entries w) :
    ¬ told treatment.1 := by
  induction entries generalizing w with
  | nil => cases hm
  | cons entry rest ih =>
    unfold treatments at hm
    split at hm
    · cases hm
    · next hlook =>
      rcases List.mem_cons.1 hm with rfl | hm
      · exact untold_after_look h (by simpa using hlook)
      · split at hm
        · exact ih hm
        · cases hm

theorem treatments_of_told (h : poller.Obeys told) (entries : List (InvoiceKey × Invoice)) {w : ω}
    (hw : told w) :
    poller.treatments entries w = [] ∧ told (poller.turns poller.silentSweep entries w).2 := by
  cases entries with
  | nil => exact ⟨rfl, hw⟩
  | cons entry rest =>
    have hlook := (h.look w).2 hw
    simpa [treatments, turns, hlook] using (h.looked w).2 hw

theorem treatments_end (h : poller.Obeys told) {entries : List (InvoiceKey × Invoice)} {w : ω}
    {before after : List (ω × Turn ω)} {treatment : ω × Turn ω}
    (hsplit : poller.treatments entries w = before ++ treatment :: after)
    (htold : told (poller.leaves treatment.2)) :
    after = [] ∧ told (poller.turns poller.silentSweep entries w).2 := by
  induction entries generalizing w before with
  | nil => simp [treatments] at hsplit
  | cons entry rest ih =>
    unfold treatments at hsplit
    unfold turns
    cases hlook : (poller.stopped w).1 with
    | true => simp [hlook] at hsplit
    | false =>
      simp only [hlook, Bool.false_eq_true, if_false] at hsplit ⊢
      cases hresult : (poller.turn poller.silentSweep entry (poller.stopped w).2).result with
      | error fault =>
        simp only [hresult] at hsplit ⊢
        cases before with
        | nil =>
          obtain ⟨rfl, rfl⟩ := List.cons.inj hsplit
          exact ⟨rfl, by simpa [leaves, hresult] using htold⟩
        | cons => simp at hsplit
      | ok status =>
        have hleaves : poller.leaves (poller.turn poller.silentSweep entry (poller.stopped w).2) =
            poller.sleep poller.invoiceDelay
              (poller.turn poller.silentSweep entry (poller.stopped w).2).world := by
          simp only [leaves, hresult]
        simp only [hresult] at hsplit ⊢
        rw [← hleaves]
        cases before with
        | nil =>
          -- The order came in this treatment or its pause: the look after them is the last one.
          obtain ⟨rfl, rfl⟩ := List.cons.inj hsplit
          exact treatments_of_told h rest htold
        | cons => exact ih (List.cons.inj hsplit).2

/-! ## Passes -/

theorem passTreatments_turns (poller : Poller ω) (start : ω) :
    (poller.passTreatments start).map Prod.snd = (poller.passTurns poller.silentSweep start).1 := by
  unfold passTreatments passTurns
  rcases poller.store.getAll.apply start with ⟨fault | entries, w⟩
  · cases fault <;> rfl
  · exact treatments_turns poller entries _

theorem runPassSafely_shows (poller : Poller ω) (start : ω) :
    Shows poller.runPassSafely poller.traced.runPassSafely start (.ok ()) (poller.passCalls start)
        (poller.afterPass start) ∧
      ∀ told, poller.Obeys told → told (poller.passTurns poller.silentSweep start).2 →
        told (poller.afterPass start) := by
  have hpass := runPass_shows poller.keeps_true poller.notes_silent start
  rw [← passTreatments_turns] at hpass
  obtain ⟨w', hshows, hkeeps⟩ : ∃ w', Shows poller.runPassSafely poller.traced.runPassSafely start
      (.ok ()) (poller.passCalls start) w' ∧ ∀ told, poller.Obeys told →
        told (poller.passTurns poller.silentSweep start).2 → told w' := by
    unfold runPassSafely
    cases hresult : passResult (poller.store.getAll.apply start).1
        ((poller.passTreatments start).map Prod.snd) with
    | ok outcomes =>
      rw [hresult] at hpass
      exact ⟨_, hpass.attempt.bind_quiet (Shows.pure _ _), fun _ _ htold => htold⟩
    | error fault =>
      rw [hresult] at hpass
      exact ⟨_, hpass.attempt.bind_quiet (Shows.unhandled _ _ _ _ _),
        fun _ h htold => h.journal _ _ htold⟩
  have hafter : poller.afterPass start = w' := congrArg Prod.snd hshows.plain
  rw [hafter]
  exact ⟨hshows, hkeeps⟩

theorem passTreatments_untold (h : poller.Obeys told) {start : ω} {treatment : ω × Turn ω}
    (hm : treatment ∈ poller.passTreatments start) : ¬ told treatment.1 := by
  unfold passTreatments at hm
  split at hm
  · exact treatments_untold h hm
  · cases hm

theorem passTreatments_end (h : poller.Obeys told) {start : ω} {before after : List (ω × Turn ω)}
    {treatment : ω × Turn ω}
    (hsplit : poller.passTreatments start = before ++ treatment :: after)
    (htold : told treatment.2.world ∨ told (poller.leaves treatment.2)) :
    after = [] ∧ told (poller.afterPass start) := by
  have hleaves : told (poller.leaves treatment.2) := htold.elim (told_leaves h) id
  unfold passTreatments at hsplit
  split at hsplit
  · next entries w hlist =>
    obtain ⟨hafter, hend⟩ := treatments_end h hsplit hleaves
    refine ⟨hafter, (runPassSafely_shows poller start).2 told h ?_⟩
    rw [passTurns_ok hlist]
    exact hend
  · simp at hsplit

/-! ## The loop -/

/-- Where the first look ends the loop no pass is made. -/
theorem contained_none (h : poller.Obeys told) {passes : Nat} {w : ω}
    (hnone : poller.starts passes w = []) (hlook : (poller.stopped w).1 = false → passes = 0) :
    poller.Contained told passes w (poller.stopped w).1 [.stopRead (poller.stopped w).1]
      (poller.stopped w).2 where
  ended_iff := (h.look w).trans (h.looked w).symm
  unended hended := by rw [hnone, hlook hended]; rfl
  calls := .inl (by simp [hnone])
  stays htold := ⟨hnone, (h.look w).2 htold⟩
  passes_untold := by simp [hnone]
  passes_end := by simp [hnone]
  treatments_untold _ _ _ := passTreatments_untold h
  treatments_end _ _ _ _ _ := passTreatments_end h

/-- A pass after which the poller is told to stop is the last one. -/
theorem contained_last (h : poller.Obeys told) {passes : Nat} {w : ω}
    (hlook : (poller.stopped w).1 = false)
    (hafter : (poller.stopped (poller.afterPass (poller.stopped w).2)).1 = true) :
    poller.Contained told (passes + 1) w true
      (.stopRead false :: poller.passCalls (poller.stopped w).2 ++ [.stopRead true])
      (poller.stopped (poller.afterPass (poller.stopped w).2)).2 := by
  have hstarts : poller.starts (passes + 1) w = [(poller.stopped w).2] := by
    simp [starts, hlook, hafter]
  have htold := (h.look _).1 hafter
  exact {
    ended_iff := iff_of_true rfl ((h.looked _).2 htold)
    unended := nofun
    calls := .inr ⟨[], _, hstarts, htold, rfl⟩
    stays := fun hfirst => absurd hfirst (untold_of_look h hlook)
    passes_untold := by simpa [hstarts] using untold_after_look h hlook
    passes_end := fun before start after hsplit _ => by
      rw [hstarts] at hsplit
      cases before with
      | nil => exact ⟨(List.cons.inj hsplit).2.symm, rfl⟩
      | cons => simp at hsplit
    treatments_untold := fun _ _ _ => passTreatments_untold h
    treatments_end := fun _ _ _ _ _ => passTreatments_end h }

/-- A pass after which the poller is not told to stop is followed by a pause and the others. -/
theorem contained_again (h : poller.Obeys told) {passes : Nat} {w w' : ω} {ended : Bool}
    {events : List Event} (hlook : (poller.stopped w).1 = false)
    (hafter : (poller.stopped (poller.afterPass (poller.stopped w).2)).1 = false)
    (hrest : poller.Contained told passes (poller.afterPause (poller.stopped w).2) ended events
      w') :
    poller.Contained told (passes + 1) w ended (poller.roundCalls (poller.stopped w).2 ++ events)
      w' := by
  have hstarts : poller.starts (passes + 1) w = (poller.stopped w).2 ::
      poller.starts passes (poller.afterPause (poller.stopped w).2) := by
    simp [starts, hlook, hafter]
  exact {
    ended_iff := hrest.ended_iff
    unended := fun hended => by rw [hstarts, List.length_cons, hrest.unended hended]
    calls := by
      rw [hstarts]
      rcases hrest.calls with ⟨hothers, rfl⟩ | ⟨before, last, hothers, htold, rfl⟩
      · exact .inl ⟨List.forall_mem_cons.2 ⟨untold_of_look h hafter, hothers⟩, by simp⟩
      · exact .inr ⟨_ :: before, last, by rw [hothers]; rfl, htold, by simp⟩
    stays := fun hfirst => absurd hfirst (untold_of_look h hlook)
    passes_untold := by
      rw [hstarts]
      exact List.forall_mem_cons.2 ⟨untold_after_look h hlook, hrest.passes_untold⟩
    passes_end := fun before start after hsplit htold => by
      rw [hstarts] at hsplit
      cases before with
      | nil =>
        -- The order came in this pass or its pause, so what follows it finds the order given.
        obtain ⟨rfl, rfl⟩ := List.cons.inj hsplit
        exact hrest.stays (htold.elim (told_afterPause h) id)
      | cons => exact hrest.passes_end _ _ _ (List.cons.inj hsplit).2 htold
    treatments_untold := fun _ _ _ => passTreatments_untold h
    treatments_end := fun _ _ _ _ _ => passTreatments_end h }

/-- The passes never fail, and go as they should: by induction on how many are allowed. -/
theorem runPasses_contained (h : poller.Obeys told) (passes : Nat) (w : ω) :
    ∃ ended events w', Shows (poller.runPasses passes) (poller.traced.runPasses passes) w
      (.ok ended) events w' ∧ poller.Contained told passes w ended events w' := by
  induction passes generalizing w with
  | zero =>
    exact ⟨_, _, _, Shows.look .stopRead poller.stopped w, contained_none h rfl fun _ => rfl⟩
  | succ passes ih =>
    have hfirst := Shows.look .stopRead poller.stopped w
    unfold runPasses
    cases hlook : (poller.stopped w).1 with
    | true =>
      have hnone : poller.starts (passes + 1) w = [] := by simp [starts, hlook]
      have hcontained := contained_none h hnone (by simp [hlook])
      rw [hlook] at hfirst hcontained
      exact ⟨true, _, _, hfirst.bind_quiet (Shows.pure _ _), hcontained⟩
    | false =>
      have hpass := (runPassSafely_shows poller (poller.stopped w).2).1
      have hsecond := Shows.look .stopRead poller.stopped (poller.afterPass (poller.stopped w).2)
      rw [hlook] at hfirst
      cases hafter : (poller.stopped (poller.afterPass (poller.stopped w).2)).1 with
      | true =>
        rw [hafter] at hsecond
        exact ⟨true, _, _, hfirst.bind (hpass.bind (hsecond.bind_quiet (Shows.pure _ _))),
          contained_last h hlook hafter⟩
      | false =>
        rw [hafter] at hsecond
        obtain ⟨ended, events, w', hshows, hrest⟩ := ih (poller.afterPause (poller.stopped w).2)
        have hpause := Shows.change (.paused poller.pollerDelay) (poller.sleep poller.pollerDelay)
          (poller.stopped (poller.afterPass (poller.stopped w).2)).2
        refine ⟨ended, _, w', (hfirst.bind (hpass.bind (hsecond.bind (hpause.bind hshows)))).congr
          rfl ?_, contained_again h hlook hafter hrest⟩
        simp [roundCalls]

/-- A loop that was told to stop goes no further when it is allowed more passes. -/
theorem runPasses_add {passes : Nat} {w w' : ω}
    (h : (poller.runPasses passes).apply w = (.ok true, w')) (more : Nat) :
    (poller.runPasses (passes + more)).apply w = (.ok true, w') := by
  induction passes generalizing w with
  | zero =>
    rw [Nat.zero_add]
    have hlook : poller.isStopped.apply w = (.ok true, w') := h
    cases more with
    | zero => exact hlook
    | succ more =>
      unfold runPasses
      rw [Action.apply_bind, hlook]
      rfl
  | succ passes ih =>
    rw [Nat.succ_add]
    unfold runPasses at h ⊢
    obtain ⟨first, w₁, hfirst, h⟩ := Action.ok_of_apply_bind h
    rw [Action.apply_bind, hfirst]
    cases first with
    | true => exact h
    | false =>
      obtain ⟨_, w₂, hpass, h⟩ := Action.ok_of_apply_bind h
      obtain ⟨second, w₃, hsecond, h⟩ := Action.ok_of_apply_bind h
      simp only [Bool.false_eq_true, if_false, Action.apply_bind, hpass, hsecond]
      cases second with
      | true => exact h
      | false =>
        obtain ⟨_, w₄, hpause, h⟩ := Action.ok_of_apply_bind h
        simp only [Bool.false_eq_true, if_false, Action.apply_bind, hpause]
        exact ih h

theorem runForever_of_runPasses {passes : Nat} {w w' : ω}
    (h : (poller.runPasses passes).apply ((poller.info "Starting polling payments").apply w).2 =
      (.ok true, w')) :
    (poller.runForever passes).apply w =
      (.ok true, ((poller.info "Polling stopped").apply w').2) := by
  have hinfo (text : String) (w : ω) :
      (poller.info text).apply w = (.ok (), ((poller.info text).apply w).2) := rfl
  rw [runForever, Action.apply_bind, hinfo]
  dsimp only
  rw [Action.apply_bind, h]
  rfl

/-- The loop never fails, goes as it should from its first look on, and returns once it was told to
stop, however many passes it is allowed beyond. -/
theorem runForever_contained (h : poller.Obeys told) (passes : Nat) (w : ω) :
    ∃ ended events w', Shows (poller.runForever passes) (poller.traced.runForever passes) w
      (.ok ended) events w' ∧
      poller.Contained told passes ((poller.info "Starting polling payments").apply w).2 ended
        events w' ∧
      ∀ more, told w' → (poller.runForever (passes + more)).apply w = (.ok true, w') := by
  have hstart := Shows.report poller.journal .poller .info "Starting polling payments" w
  obtain ⟨ended, events, w', hshows, hcontained⟩ :=
    runPasses_contained h passes ((poller.info "Starting polling payments").apply w).2
  cases ended with
  | false =>
    refine ⟨false, events, w', ?_, hcontained, fun _ htold => ?_⟩
    · exact hstart.bind (hshows.bind_quiet (Shows.pure _ _))
    · cases hcontained.ended_iff.2 htold
  | true =>
    have hend := Shows.report poller.journal .poller .info "Polling stopped" w'
    refine ⟨true, events, _, hstart.bind (hshows.bind_quiet (hend.bind_quiet (Shows.pure _ _))),
      { hcontained with ended_iff := ?_ }, fun more _ => ?_⟩
    · exact iff_of_true rfl (h.journal _ _ (hcontained.ended_iff.1 rfl))
    · exact runForever_of_runPasses (runPasses_add hshows.plain more)

/-- A poller over three invoices that never change, whose sweeps fail and whose world counts the
pauses: the fourth one brings the order to stop. -/
def drowsy : Poller Nat where
  store :=
    { get _ := Action.fail .badValue
      getAll := return threeEntries.entries
      latest := Action.fail .badValue
      set _ _ := return
      delete _ := return }
  ledger := Ledger.steady 7
  sweep _ := Action.fail .badValue
  notifier := Notifier.unspecified
  journal _ pauses := pauses
  clock pauses := (.int 100, pauses)
  sleep _ pauses := pauses + 1
  stopped pauses := (4 ≤ pauses, pauses)

theorem drowsy_obeys : drowsy.Obeys fun pauses => 4 ≤ pauses where
  look pauses := by simp [drowsy]
  looked _ := Iff.rfl
  journal _ _ := id
  sleep _ _ := Nat.le_succ_of_le

theorem runForever_contained_drowsy :
    (drowsy.runForever 9).apply 0 = (.ok true, 4) ∧ drowsy.starts 9 0 = [0, 3] ∧
      (drowsy.passTreatments 0).length = 3 ∧ (drowsy.passTreatments 3).length = 1 ∧
      ∃ events, drowsy.Contained (fun pauses => 4 ≤ pauses) 9 0 true events 4 := by
  obtain ⟨ended, events, w', hshows, hcontained, -⟩ := runForever_contained drowsy_obeys 9 0
  have hplain : (drowsy.runForever 9).apply 0 = (.ok true, 4) := by rfl
  cases hplain.symm.trans hshows.plain
  exact ⟨hplain, rfl, rfl, rfl, events, hcontained⟩

end Poller

end DepositGateway
