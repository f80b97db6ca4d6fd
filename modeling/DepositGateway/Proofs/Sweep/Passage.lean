import DepositGateway.Proofs.Sweep.Course
import DepositGateway.Proofs.Sweep.Parts

/-!
# What a sweep does to its world

A sweep changes the world through its calls and its reports only, and each call is answered out of
the world that the calls before it left. So the calls of a sweep, with their answers, say how its
world went on.

* `Sweeper.Passage`: from one world to another with these calls in between.
* `Sweeper.Passes`: an action does nothing but go along such a passage.
* `Sweeper.composes_passes`: the calls of a sweep are such actions, and what is made of them is.
* `Sweeper.exists_passage`: a sweep with its calls and the passage along which it goes.
-/

namespace DepositGateway

variable {ω α : Type}

namespace Sweeper

/-- From one world to another by these calls, with reports in between. -/
inductive Passage (sweeper : Sweeper ω) : ω → List Event → ω → Prop
  | stay (w : ω) : Passage sweeper w [] w
  | reported {w w' : ω} {events : List Event} (entry : LogEntry)
      (rest : Passage sweeper (sweeper.journal entry w) events w') : Passage sweeper w events w'
  | paused {w w' : ω} {events : List Event} (seconds : Json)
      (rest : Passage sweeper (sweeper.sleep seconds w) events w') :
      Passage sweeper w (.paused seconds :: events) w'
  | asked {w w₁ w' : ω} {events : List Event} {question : Question} {answer : Except Fault Json}
      (call : (question.put sweeper.ledger).apply w = (answer, w₁))
      (rest : Passage sweeper w₁ events w') :
      Passage sweeper w (.asked question answer :: events) w'
  | submitted {w w₁ w' : ω} {events : List Event} {raw : Bytes} {answer : Except Fault String}
      (call : (sweeper.ledger.submitRaw raw).apply w = (answer, w₁))
      (rest : Passage sweeper w₁ events w') :
      Passage sweeper w (.submitted raw answer :: events) w'

/-- An action goes along a passage, whose calls it notes. -/
def Passes (sweeper : Sweeper ω) (action : Action (Traced ω) α) : Prop :=
  ∀ t, ∃ events, (action.apply t).2.history = t.history ++ events ∧
    sweeper.Passage t.world events (action.apply t).2.world

section

variable {sweeper : Sweeper ω} {w w₁ w' : ω} {events others : List Event}

theorem Passage.append (h : sweeper.Passage w events w₁) (h' : sweeper.Passage w₁ others w') :
    sweeper.Passage w (events ++ others) w' := by
  induction h with
  | stay => exact h'
  | reported entry _ ih => exact .reported entry (ih h')
  | paused seconds _ ih => exact .paused seconds (ih h')
  | asked call _ ih => exact .asked call (ih h')
  | submitted call _ ih => exact .submitted call (ih h')

/-- The world in between the first calls and the others. -/
theorem Passage.split (h : sweeper.Passage w (events ++ others) w') :
    ∃ w₁, sweeper.Passage w events w₁ ∧ sweeper.Passage w₁ others w' := by
  generalize hall : events ++ others = all at h
  induction h generalizing events with
  | stay w =>
    obtain ⟨rfl, rfl⟩ := List.append_eq_nil_iff.mp hall
    exact ⟨w, .stay w, .stay w⟩
  | reported entry _ ih =>
    obtain ⟨w₁, hfirst, hlast⟩ := ih hall
    exact ⟨w₁, .reported entry hfirst, hlast⟩
  | @paused w _ _ seconds rest ih =>
    cases events with
    | nil =>
      subst hall
      exact ⟨w, .stay w, .paused seconds rest⟩
    | cons event events =>
      cases hall
      obtain ⟨w₁, hfirst, hlast⟩ := ih rfl
      exact ⟨w₁, .paused seconds hfirst, hlast⟩
  | @asked w _ _ _ _ _ call rest ih =>
    cases events with
    | nil =>
      subst hall
      exact ⟨w, .stay w, .asked call rest⟩
    | cons event events =>
      cases hall
      obtain ⟨w₁, hfirst, hlast⟩ := ih rfl
      exact ⟨w₁, .asked call hfirst, hlast⟩
  | @submitted w _ _ _ _ _ call rest ih =>
    cases events with
    | nil =>
      subst hall
      exact ⟨w, .stay w, .submitted call rest⟩
    | cons event events =>
      cases hall
      obtain ⟨w₁, hfirst, hlast⟩ := ih rfl
      exact ⟨w₁, .submitted call hfirst, hlast⟩

/-- A passage that begins with a submission begins with reports at most before that. -/
theorem Passage.of_submitted {raw : Bytes} {answer : Except Fault String}
    (h : sweeper.Passage w (.submitted raw answer :: events) w') :
    ∃ w₁ w₂, sweeper.Passage w [] w₁ ∧ (sweeper.ledger.submitRaw raw).apply w₁ = (answer, w₂) ∧
      sweeper.Passage w₂ events w' := by
  generalize hall : Event.submitted raw answer :: events = all at h
  induction h with
  | stay | paused | asked => cases hall
  | reported entry _ ih =>
    obtain ⟨w₁, w₂, hreports, hcall, hrest⟩ := ih hall
    exact ⟨w₁, w₂, .reported entry hreports, hcall, hrest⟩
  | submitted call rest =>
    cases hall
    exact ⟨_, _, .stay _, call, rest⟩

/-! ## Actions that go along a passage -/

/-- The calls of a sweeper go along a passage, and what is made of them does. -/
theorem composes_passes (sweeper : Sweeper ω) :
    sweeper.traced.Composes fun _ action => sweeper.Passes action where
  known _ t := ⟨[], (List.append_nil _).symm, .stay _⟩
  bind {_ _ first next} hfirst hnext t := by
    obtain ⟨events, hhistory, hpassage⟩ := hfirst t
    rw [Action.apply_bind]
    rcases happly : first.apply t with ⟨fault | value, t₁⟩
    · rw [happly] at hhistory hpassage
      exact ⟨events, hhistory, hpassage⟩
    · rw [happly] at hhistory hpassage
      obtain ⟨others, hhistory', hpassage'⟩ := hnext value t₁
      refine ⟨events ++ others, ?_, hpassage.append hpassage'⟩
      show ((next value).apply t₁).2.history = _
      rw [hhistory', hhistory, List.append_assoc]
  attempt haction := haction
  put question t := by
    have hput : question.put sweeper.traced.ledger =
        Action.recorded (.asked question) (question.put sweeper.ledger) := by
      cases question <;> rfl
    rw [hput]
    exact ⟨[.asked question ((question.put sweeper.ledger).apply t.world).1], rfl,
      .asked rfl (.stay _)⟩
  submitRaw raw t := ⟨[.submitted raw ((sweeper.ledger.submitRaw raw).apply t.world).1], rfl,
    .submitted rfl (.stay _)⟩
  report _ _ _ := ⟨[], (List.append_nil _).symm, .reported _ (.stay _)⟩
  sleep seconds _ := ⟨[.paused seconds], rfl, .paused seconds (.stay _)⟩

/-- A sweep goes one of the ways, along a passage with its calls. -/
theorem exists_passage (sweeper : Sweeper ω) (invoice : Invoice) (w : ω) :
    ∃ result events w', Shows (sweeper.sweep invoice) (sweeper.traced.sweep invoice) w result
      events w' ∧ SweepCourse sweeper invoice result events ∧ sweeper.Passage w events w' := by
  obtain ⟨result, events, w', hshows, hcourse⟩ := sweeper.exists_course invoice w
  obtain ⟨calls, hhistory, hpassage⟩ := sweeper.composes_passes.sweep invoice ⟨w, []⟩
  rw [hshows.traced []] at hhistory hpassage
  obtain rfl : calls = events := hhistory.symm
  exact ⟨result, calls, w', hshows, hcourse, hpassage⟩

end

end Sweeper

end DepositGateway
