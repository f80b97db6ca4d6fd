import DepositGateway.Fault

/-!
# Actions

An action reads and changes the world it runs in and gives an answer or a fault. What it changed
before a fault stays changed. The world is left open: a capability such as a store or a ledger is a
record of actions over any world.

* `Action.step`: an action that cannot fail.
* `Action.attempt`: runs an action and gives its answer or its fault as a value.
* `Action.ofExcept`: an answer or a fault that is already known.
-/

namespace DepositGateway

/-- What may change a world of type `ω` and gives an `α` or a fault. -/
abbrev Action (ω : Type) := ExceptT Fault (StateM ω)

namespace Action

variable {ω α : Type}

/-- An action that cannot fail. -/
def step (change : ω → α × ω) : Action ω α := ExceptT.mk fun world =>
  let (answer, world) := change world
  (.ok answer, world)

/-- Changes the world. -/
def update (change : ω → ω) : Action ω Unit := step fun world => ((), change world)

/-- Reads the world. -/
def read (look : ω → α) : Action ω α := step fun world => (look world, world)

/-- An answer or a fault that is already known. -/
def ofExcept (known : Except Fault α) : Action ω α := ExceptT.mk fun world => (known, world)

/-- Fails. -/
def fail (fault : Fault) : Action ω α := ofExcept (.error fault)

/-- Runs an action and gives its answer or its fault as a value. -/
def attempt (action : Action ω α) : Action ω (Except Fault α) := ExceptT.mk fun world =>
  let (result, world) := action.run world
  (.ok result, world)

/-- The answer or the fault of an action, and the world after it. -/
def apply (action : Action ω α) (world : ω) : Except Fault α × ω := action.run world

@[simp] theorem apply_step (change : ω → α × ω) (world : ω) :
    apply (step change) world = (.ok (change world).1, (change world).2) := rfl

@[simp] theorem apply_ofExcept (known : Except Fault α) (world : ω) :
    apply (ofExcept known : Action ω α) world = (known, world) := rfl

@[simp] theorem apply_attempt (action : Action ω α) (world : ω) :
    apply (attempt action) world = (.ok (apply action world).1, (apply action world).2) := rfl

@[simp] theorem apply_pure (answer : α) (world : ω) :
    apply (pure answer : Action ω α) world = (.ok answer, world) := rfl

/-- An action after another runs in the world that the first left, unless the first failed. -/
theorem apply_bind {β : Type} (first : Action ω α) (next : α → Action ω β) (world : ω) :
    apply (first >>= next) world =
      match apply first world with
      | (.ok answer, after) => apply (next answer) after
      | (.error fault, after) => (.error fault, after) := by
  simp only [apply, ExceptT.run, bind, ExceptT.bind, ExceptT.mk, StateT.bind]
  rcases first world with ⟨_ | _, _⟩ <;> rfl

/-- A chain of actions that ends well has a first action that does. -/
theorem ok_of_apply_bind {β : Type} {first : Action ω α} {next : α → Action ω β} {w w' : ω}
    {result : β} (h : (first >>= next).apply w = (.ok result, w')) :
    ∃ answer after, first.apply w = (.ok answer, after) ∧
      (next answer).apply after = (.ok result, w') := by
  rw [apply_bind] at h
  rcases hfirst : first.apply w with ⟨_ | answer, after⟩
  · rw [hfirst] at h
    cases h
  · rw [hfirst] at h
    exact ⟨answer, after, rfl, h⟩

/-- What is already known is no more than that. -/
theorem ok_of_apply_ofExcept {known : Except Fault α} {answer : α} {w w' : ω}
    (h : (ofExcept known).apply w = (.ok answer, w')) : known = .ok answer ∧ w = w' := by
  rw [apply_ofExcept] at h
  exact ⟨congrArg Prod.fst h, congrArg Prod.snd h⟩

/-- What follows an attempt is given its outcome, whatever that is. -/
theorem apply_attempt_bind {β : Type} (action : Action ω α) (next : Except Fault α → Action ω β)
    (w : ω) : (attempt action >>= next).apply w =
      (next (action.apply w).1).apply (action.apply w).2 := rfl

end Action

end DepositGateway
