import DepositGateway.Proofs.Run.Log
import Mathlib.Data.List.Basic

/-!
# What a log says of a key

Sweeps, deliveries and removals of a key are counted over a log. An entry `Closes` a key when it
reports its invoice as expired, settled or not settled; `Settled key` is the shape of a log in which
each entry either leaves a key alone or closes it, and nothing touches it after it was closed.

* `Settled.counts`: then there is at most one sweep, one delivery and one removal.
* `Settled.balanced`: and at each point as many deliveries as sweeps.
* `Settled.expired`: and an invoice that was reported as expired is neither swept nor delivered.
-/

namespace DepositGateway

variable {ω : Type}

namespace Event

def isSwept : Event → Bool
  | swept _ _ => true
  | _ => false

def isSent (key : InvoiceKey) : Event → Bool
  | sent other _ _ => other = key
  | _ => false

def isDeleted (key : InvoiceKey) : Event → Bool
  | deleted other _ => other = key
  | _ => false

/-- The key under which an invoice was put into the store. -/
def issued? : Event → Option InvoiceKey
  | stored key _ _ => some key
  | _ => none

end Event

/-- The keys under which invoices were put into the store. -/
def issued (log : List (Happening ω)) : List InvoiceKey :=
  log.flatMap fun happening => happening.events.filterMap Event.issued?

/-- How often an invoice was swept while it was treated under a key. -/
def sweeps (key : InvoiceKey) (log : List (Happening ω)) : Nat :=
  ((log.filter fun happening => happening.key? = some key).flatMap Happening.events).countP
    Event.isSwept

/-- How often something was handed over under a key. -/
def deliveries (key : InvoiceKey) (log : List (Happening ω)) : Nat :=
  (log.flatMap Happening.events).countP (Event.isSent key)

/-- How often the store was asked to delete a key. -/
def removals (key : InvoiceKey) (log : List (Happening ω)) : Nat :=
  (log.flatMap Happening.events).countP (Event.isDeleted key)

namespace Happening

/-- The entry reports a status for a key. -/
def Reports (happening : Happening ω) (key : InvoiceKey) (status : InvoiceStatus) : Prop :=
  ∃ turn, happening = .treated turn ∧ turn.key = key ∧ turn.result = .ok status

/-- The entry reports for a key that nothing is awaited any more. -/
def Closes (happening : Happening ω) (key : InvoiceKey) : Prop :=
  ∃ status, status ≠ .pending ∧ happening.Reports key status

/-- The entry has as many deliveries of a key as sweeps, `swept`, and `removed` removals. -/
structure Effect (happening : Happening ω) (key : InvoiceKey) (swept removed : Nat) : Prop where
  sweeps : sweeps key [happening] = swept
  deliveries : deliveries key [happening] = swept
  removals : removals key [happening] = removed

/-- What an entry may do about a key. -/
inductive Concerns (happening : Happening ω) (key : InvoiceKey) : Prop
  | leaves (effect : happening.Effect key 0 0) (stays : ¬ happening.Closes key)
  | closes {swept : Nat} (closed : happening.Closes key) (once : swept ≤ 1)
      (effect : happening.Effect key swept 1)
      (expired : happening.Reports key .expired → swept = 0)

end Happening

/-- Each entry of the log leaves the key alone or closes it, and no later entry treats a key that
was closed. -/
structure Settled (key : InvoiceKey) (log : List (Happening ω)) : Prop where
  concerns : ∀ happening ∈ log, happening.Concerns key
  final : log.Pairwise fun earlier later => earlier.Closes key → later.key? ≠ some key

theorem issued_cons (happening : Happening ω) (log : List (Happening ω)) :
    issued (happening :: log) = issued [happening] ++ issued log := by
  simp [issued]

theorem sweeps_cons (key : InvoiceKey) (happening : Happening ω) (log : List (Happening ω)) :
    sweeps key (happening :: log) = sweeps key [happening] + sweeps key log := by
  by_cases h : happening.key? = some key <;> simp [sweeps, h]

theorem deliveries_cons (key : InvoiceKey) (happening : Happening ω) (log : List (Happening ω)) :
    deliveries key (happening :: log) = deliveries key [happening] + deliveries key log := by
  simp [deliveries]

theorem removals_cons (key : InvoiceKey) (happening : Happening ω) (log : List (Happening ω)) :
    removals key (happening :: log) = removals key [happening] + removals key log := by
  simp [removals]

theorem Happening.effect_treated {turn : Turn ω} {key : InvoiceKey} {swept removed : Nat}
    (hs : (if turn.key = key then turn.events.countP Event.isSwept else 0) = swept)
    (hd : turn.events.countP (Event.isSent key) = swept)
    (hr : turn.events.countP (Event.isDeleted key) = removed) :
    (Happening.treated turn).Effect key swept removed where
  sweeps := by
    rw [← hs]
    by_cases h : turn.key = key <;>
      simp [DepositGateway.sweeps, Happening.key?, Happening.events, h]
  deliveries := by simpa [DepositGateway.deliveries, Happening.events] using hd
  removals := by simpa [DepositGateway.removals, Happening.events] using hr

theorem Happening.Closes.key? {happening : Happening ω} {key : InvoiceKey}
    (h : happening.Closes key) : happening.key? = some key := by
  obtain ⟨status, -, turn, rfl, rfl, -⟩ := h
  rfl

namespace Settled

variable {key : InvoiceKey} {happening : Happening ω} {log before after : List (Happening ω)}

theorem tail (h : Settled key (happening :: log)) : Settled key log where
  concerns other hm := h.concerns other (List.mem_cons_of_mem _ hm)
  final := (List.pairwise_cons.1 h.final).2

theorem initial (h : Settled key (before ++ after)) : Settled key before where
  concerns other hm := h.concerns other (List.mem_append_left _ hm)
  final := (List.pairwise_append.1 h.final).1

/-- A log that never closes the key does nothing about it. -/
theorem open_counts (h : Settled key log) (ho : ∀ happening ∈ log, ¬ happening.Closes key) :
    sweeps key log = 0 ∧ deliveries key log = 0 ∧ removals key log = 0 := by
  induction log with
  | nil => exact ⟨rfl, rfl, rfl⟩
  | cons happening rest ih =>
    obtain ⟨hs, hd, hr⟩ := ih h.tail fun other hm => ho other (List.mem_cons_of_mem _ hm)
    rw [sweeps_cons, deliveries_cons, removals_cons, hs, hd, hr]
    cases h.concerns happening (List.mem_cons_self ..) with
    | leaves effect => exact ⟨effect.sweeps, effect.deliveries, effect.removals⟩
    | closes closed => exact absurd closed (ho happening (List.mem_cons_self ..))

/-- Nothing is done about the key after it was closed. -/
theorem closed_counts (h : Settled key (happening :: log)) (hc : happening.Closes key) :
    sweeps key log = 0 ∧ deliveries key log = 0 ∧ removals key log = 0 :=
  h.tail.open_counts fun _ hm hc' =>
    (List.pairwise_cons.1 h.final).1 _ hm hc hc'.key?

theorem counts (h : Settled key log) :
    sweeps key log ≤ 1 ∧ deliveries key log ≤ 1 ∧ removals key log ≤ 1 := by
  induction log with
  | nil => exact ⟨by simp [sweeps], by simp [deliveries], by simp [removals]⟩
  | cons happening rest ih =>
    rw [sweeps_cons, deliveries_cons, removals_cons]
    cases h.concerns happening (List.mem_cons_self ..) with
    | leaves effect =>
      rw [effect.sweeps, effect.deliveries, effect.removals, Nat.zero_add, Nat.zero_add,
        Nat.zero_add]
      exact ih h.tail
    | closes closed once effect =>
      obtain ⟨hs, hd, hr⟩ := h.closed_counts closed
      rw [effect.sweeps, effect.deliveries, effect.removals, hs, hd, hr]
      exact ⟨once, once, Nat.le_refl 1⟩

theorem balanced (h : Settled key log) : sweeps key log = deliveries key log := by
  induction log with
  | nil => rfl
  | cons happening rest ih =>
    rw [sweeps_cons, deliveries_cons, ih h.tail]
    cases h.concerns happening (List.mem_cons_self ..) with
    | leaves effect => rw [effect.sweeps, effect.deliveries]
    | closes _ _ effect => rw [effect.sweeps, effect.deliveries]

theorem expired (h : Settled key log) (hm : happening ∈ log)
    (he : happening.Reports key .expired) : sweeps key log = 0 ∧ deliveries key log = 0 := by
  have hclosed : happening.Closes key := ⟨.expired, by decide, he⟩
  induction log with
  | nil => cases hm
  | cons first rest ih =>
    rw [sweeps_cons, deliveries_cons]
    rcases List.mem_cons.1 hm with rfl | hm
    · obtain ⟨hs, hd, -⟩ := h.closed_counts hclosed
      cases h.concerns happening (List.mem_cons_self ..) with
      | leaves _ stays => exact absurd hclosed stays
      | closes _ _ effect none =>
        rw [effect.sweeps, effect.deliveries, hs, hd, none he]
        exact ⟨rfl, rfl⟩
    · obtain ⟨hs, hd⟩ := ih h.tail hm
      have hfirst : ¬ first.Closes key := fun hc =>
        (List.pairwise_cons.1 h.final).1 _ hm hc hclosed.key?
      cases h.concerns first (List.mem_cons_self ..) with
      | leaves effect => exact ⟨by rw [effect.sweeps, hs], by rw [effect.deliveries, hd]⟩
      | closes closed => exact absurd closed hfirst

end Settled

end DepositGateway
