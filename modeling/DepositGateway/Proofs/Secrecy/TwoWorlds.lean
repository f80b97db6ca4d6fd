import DepositGateway.Proofs.Station.Premises

/-!
# One program in two worlds

What an observer learns of two runs is the same if every step gives the same answer, or the same
fault, in any two worlds that are related, and leaves such worlds again.

* `SameEnd`: two results that are related answers, or the same fault.
* `Action.Concur`: two actions that end so in related worlds. `Action.Blind`: one action that does
  not tell related worlds apart.
* `Concur.bind`, `Blind.attempt_bind` and so on: how such actions make up others.
* `Premises.Related`: worlds with related shelves and related surroundings.
-/

namespace DepositGateway

variable {ω σ α β γ δ : Type}

/-- Two ways to end: with answers that `Q` relates, or with the same fault. -/
inductive SameEnd (Q : α → β → Prop) : Except Fault α → Except Fault β → Prop
  | ok {a : α} {b : β} (related : Q a b) : SameEnd Q (.ok a) (.ok b)
  | error (fault : Fault) : SameEnd Q (.error fault) (.error fault)

namespace SameEnd

variable {Q : α → β → Prop} {P : γ → δ → Prop} {x : Except Fault α} {y : Except Fault β}

protected theorem refl (x : Except Fault α) : SameEnd Eq x x := by
  cases x with
  | ok a => exact .ok rfl
  | error fault => exact .error fault

protected theorem eq {x y : Except Fault α} (h : SameEnd Eq x y) : x = y := by
  cases h with
  | ok related => rw [related]
  | error => rfl

protected theorem bind {f : α → Except Fault γ} {g : β → Except Fault δ} (h : SameEnd Q x y)
    (hnext : ∀ a b, Q a b → SameEnd P (f a) (g b)) : SameEnd P (x >>= f) (y >>= g) := by
  cases h with
  | ok related => exact hnext _ _ related
  | error fault => exact .error fault

/-- What comes first is the same on both sides. -/
theorem bind_same {f : α → Except Fault γ} {g : α → Except Fault δ}
    (hnext : ∀ a, x = .ok a → SameEnd P (f a) (g a)) : SameEnd P (x >>= f) (x >>= g) := by
  cases x with
  | ok a => exact hnext a rfl
  | error fault => exact .error fault

end SameEnd

namespace Action

/-- Begun in worlds that `R` relates, two actions end alike and leave such worlds again. -/
def Concur (R : ω → ω → Prop) (Q : α → β → Prop) (first : Action ω α) (second : Action ω β) :
    Prop :=
  ∀ w v, R w v →
    SameEnd Q (first.apply w).1 (second.apply v).1 ∧ R (first.apply w).2 (second.apply v).2

/-- An action that does not tell worlds apart that `R` relates. -/
def Blind (R : ω → ω → Prop) (action : Action ω α) : Prop := Concur R Eq action action

variable {R : ω → ω → Prop} {Q : α → β → Prop} {P : γ → δ → Prop}

namespace Concur

protected theorem pure {a : α} {b : β} (h : Q a b) :
    Concur R Q (pure a : Action ω α) (pure b) := fun _ _ hr => ⟨.ok h, hr⟩

theorem ofExcept {x : Except Fault α} {y : Except Fault β} (h : SameEnd Q x y) :
    Concur R Q (ofExcept x : Action ω α) (Action.ofExcept y) := fun _ _ hr => ⟨h, hr⟩

protected theorem bind {first : Action ω α} {second : Action ω β} {f : α → Action ω γ}
    {g : β → Action ω δ} (h : Concur R Q first second)
    (hnext : ∀ a b, Q a b → Concur R P (f a) (g b)) :
    Concur R P (first >>= f) (second >>= g) := by
  intro w v hr
  obtain ⟨hend, hleft⟩ := h w v hr
  rw [apply_bind, apply_bind]
  rcases hfirst : first.apply w with ⟨x, w'⟩
  rcases hsecond : second.apply v with ⟨y, v'⟩
  rw [hfirst, hsecond] at hend hleft
  cases hend with
  | ok related => exact hnext _ _ related w' v' hleft
  | error fault => exact ⟨.error fault, hleft⟩

/-- What follows an attempt goes on from related answers or from the same fault. -/
theorem attempt_bind {first : Action ω α} {second : Action ω β} {f : Except Fault α → Action ω γ}
    {g : Except Fault β → Action ω δ} (h : Concur R Q first second)
    (hnext : ∀ x y, SameEnd Q x y → Concur R P (f x) (g y)) :
    Concur R P (attempt first >>= f) (attempt second >>= g) := by
  intro w v hr
  obtain ⟨hend, hleft⟩ := h w v hr
  rw [apply_attempt_bind, apply_attempt_bind]
  exact hnext _ _ hend _ _ hleft

/-- The answers of the first action have a property that all have that it gives in such worlds. -/
theorem with_property {first : Action ω α} {second : Action ω β} {p : α → Prop}
    (h : Concur R Q first second)
    (hp : ∀ w v, R w v → ∀ a w', first.apply w = (.ok a, w') → p a) :
    Concur R (fun a b => Q a b ∧ p a) first second := by
  intro w v hr
  obtain ⟨hend, hleft⟩ := h w v hr
  refine ⟨?_, hleft⟩
  rcases hfirst : first.apply w with ⟨x, w'⟩
  rw [hfirst] at hend
  dsimp only at hend ⊢
  generalize (second.apply v).1 = y at hend
  cases hend with
  | ok related => exact .ok ⟨related, hp w v hr _ w' hfirst⟩
  | error fault => exact .error fault

end Concur

namespace Blind

variable {action : Action ω α}

protected theorem pure (a : α) : Blind R (pure a : Action ω α) := Concur.pure rfl

theorem ofExcept (x : Except Fault α) : Blind R (Action.ofExcept x : Action ω α) :=
  Concur.ofExcept (.refl x)

theorem fail (fault : Fault) : Blind R (Action.fail fault : Action ω α) := ofExcept _

theorem then_concur {f : α → Action ω γ} {g : α → Action ω δ} (h : Blind R action)
    (hnext : ∀ a, Concur R P (f a) (g a)) : Concur R P (action >>= f) (action >>= g) :=
  Concur.bind h fun a _ heq => heq ▸ hnext a

protected theorem bind {f : α → Action ω γ} (h : Blind R action) (hnext : ∀ a, Blind R (f a)) :
    Blind R (action >>= f) := h.then_concur hnext

protected theorem attempt (h : Blind R action) : Blind R (attempt action) := by
  intro w v hr
  obtain ⟨hend, hleft⟩ := h w v hr
  exact ⟨.ok hend.eq, hleft⟩

theorem attempt_bind {f : Except Fault α → Action ω γ} (h : Blind R action)
    (hnext : ∀ x, Blind R (f x)) : Blind R (attempt action >>= f) := h.attempt.bind hnext

theorem step {change : ω → α × ω}
    (h : ∀ w v, R w v → (change w).1 = (change v).1 ∧ R (change w).2 (change v).2) :
    Blind R (Action.step change) := by
  intro w v hr
  obtain ⟨hanswer, hleft⟩ := h w v hr
  exact ⟨.ok hanswer, hleft⟩

theorem update {change : ω → ω} (h : ∀ w v, R w v → R (change w) (change v)) :
    Blind R (Action.update change) := step fun w v hr => ⟨rfl, h w v hr⟩

end Blind

end Action

/-- A journal that leaves related worlds related. -/
def Journal.Blind (R : ω → ω → Prop) (journal : Journal ω) : Prop :=
  ∀ entry w v, R w v → R (journal entry w) (journal entry v)

theorem Journal.Blind.report {R : ω → ω → Prop} {journal : Journal ω} (h : journal.Blind R)
    (source : LogSource) (level : LogLevel) (text : String) :
    Action.Blind R (journal.report source level text) := .update (h _)

theorem Journal.Blind.infoWritten {R : ω → ω → Prop} {journal : Journal ω} (h : journal.Blind R)
    (source : LogSource) (writable : Bool) (text : String) :
    Action.Blind R (journal.infoWritten source writable text) := by
  cases writable with
  | false => exact .fail _
  | true => exact h.report source .info text

namespace Premises

variable {S : σ → σ → Prop} {E : ω → ω → Prop} {Q : α → β → Prop}

/-- Related shelves in related surroundings. -/
structure Related (S : σ → σ → Prop) (E : ω → ω → Prop) (w v : Premises σ ω) : Prop where
  shelf : S w.shelf v.shelf
  outside : E w.outside v.outside

theorem concur_outer {first : Action ω α} {second : Action ω β}
    (h : Action.Concur E Q first second) :
    Action.Concur (Related S E) Q (outer first) (outer second) := by
  intro w v hr
  obtain ⟨hend, hleft⟩ := h w.outside v.outside hr.outside
  exact ⟨hend, hr.shelf, hleft⟩

theorem blind_change {update : ω → ω} (h : ∀ w v, E w v → E (update w) (update v))
    (w v : Premises σ ω) (hr : Related S E w v) : Related S E (change update w) (change update v) :=
  ⟨hr.shelf, h _ _ hr.outside⟩

theorem blind_look {read : ω → α × ω}
    (h : ∀ w v, E w v → (read w).1 = (read v).1 ∧ E (read w).2 (read v).2) (w v : Premises σ ω)
    (hr : Related S E w v) :
    (look read w).1 = (look read v).1 ∧ Related S E (look read w).2 (look read v).2 := by
  obtain ⟨hanswer, hleft⟩ := h _ _ hr.outside
  exact ⟨hanswer, hr.shelf, hleft⟩

theorem blind_journal {journal : Journal ω} (h : journal.Blind E) :
    (Premises.journal journal : Journal (Premises σ ω)).Blind (Related S E) :=
  fun entry w v hr => blind_change (h entry) w v hr

end Premises

end DepositGateway
