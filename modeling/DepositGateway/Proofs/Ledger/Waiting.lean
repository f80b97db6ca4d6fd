import DepositGateway.Ledger.Node
import Mathlib.Algebra.Order.Floor.Semiring
import Mathlib.Data.Rat.Floor
import Mathlib.Order.Lattice.Nat

/-!
# When the wait for depth ends

Each poll of the wait looks at the head, then at the clock, then pauses. Neither the heads nor the
clock are assumed to behave: heads may lag, stand still or fall, and the clock only has to advance
where the number of polls is bounded.

* `Number.value?`: the rational number a finite number is; `Number.le_iff` compares by it.
* `Polls`: what the polls of a wait see. `Polls.awaitDepth_add`: polls that decide nothing, with
  any kind of clock.
* `Ledger.EndsAt`: at which poll the wait ends, in what, and after which calls.
* `Ledger.confirmDepth_stops`: the wait ends at the first poll that finds the transaction deep
  enough or the deadline reached, and the depth is looked at first.
* `Ledger.confirmedReceipt_stops`: the same of the wait for a receipt, whose deadline is its first
  reading of the clock plus the timeout.
-/

namespace DepositGateway

/-! ## Numbers as rational numbers -/

namespace Number

/-- The rational number that a finite number is. -/
def value? (number : Number) : Option ℚ :=
  match number.place with
  | .finite numerator denominator => some (numerator / denominator)
  | _ => none

theorem denominator_pos {number : Number} {numerator : Int} {denominator : Nat}
    (h : number.place = .finite numerator denominator) : 0 < denominator := by
  cases number with
  | int value =>
    cases h
    exact Nat.one_pos
  | double x =>
    simp only [place] at h
    split at h
    · cases h
    · split at h
      · split at h <;> cases h
      · cases h
        exact Nat.pow_pos (by decide)

theorem place_of_value? {number : Number} {value : ℚ} (h : number.value? = some value) :
    ∃ numerator denominator, number.place = .finite numerator denominator ∧ 0 < denominator ∧
      value = numerator / denominator := by
  unfold value? at h
  split at h
  · next numerator denominator hplace =>
    cases h
    exact ⟨numerator, denominator, hplace, denominator_pos hplace, rfl⟩
  · cases h

/-- Finite numbers compare as the rational numbers that they are. -/
theorem le_iff {a b : Number} {x y : ℚ} (hx : a.value? = some x) (hy : b.value? = some y) :
    a.le b = true ↔ x ≤ y := by
  obtain ⟨n, d, ha, hd, rfl⟩ := place_of_value? hx
  obtain ⟨m, e, hb, he, rfl⟩ := place_of_value? hy
  have hd' : (0 : ℚ) < d := by exact_mod_cast hd
  have he' : (0 : ℚ) < e := by exact_mod_cast he
  have hle : a.le b = true ↔ n * e ≤ m * d := by
    simp [le, lt, same, ha, hb, Place.lt, Place.eq, Int.le_iff_lt_or_eq]
  rw [hle, div_le_div_iff₀ hd' he']
  exact_mod_cast Iff.rfl

end Number

/-! ## Polls -/

variable {ω τ : Type}

/-- The polls of a wait. Poll `k` begins in `world k`, looks at a head and, where it goes on, at the
clock, and pauses. -/
structure Polls (head : Action ω Int) (clock : Action ω τ) (pause : Action ω Unit) where
  world : ℕ → ω
  looked : ℕ → ω
  timed : ℕ → ω
  seen : ℕ → Int
  time : ℕ → τ
  look : ∀ k, head.apply (world k) = (.ok (seen k), looked k)
  read : ∀ k, clock.apply (looked k) = (.ok (time k), timed k)
  pause : ∀ k, pause.apply (timed k) = (.ok (), world (k + 1))

namespace Polls

variable {head : Action ω Int} {clock : Action ω τ} {pause : Action ω Unit}
  (polls : Polls head clock pause) {isPast : τ → Bool} {minedIn : Int}
  {isDeep : Int → Except Fault Bool}

theorem awaitDepth_reached {k : ℕ} (deep : isDeep (depthUnder (polls.seen k) minedIn) = .ok true)
    (looks : Nat) :
    (awaitDepth head clock isPast pause minedIn isDeep (looks + 1)).apply (polls.world k) =
      (.ok .reached, polls.looked k) := by
  unfold awaitDepth
  simp only [Action.apply_bind, polls.look, Action.apply_ofExcept, deep]
  rfl

theorem awaitDepth_late {k : ℕ} (shallow : isDeep (depthUnder (polls.seen k) minedIn) = .ok false)
    (past : isPast (polls.time k) = true) (looks : Nat) :
    (awaitDepth head clock isPast pause minedIn isDeep (looks + 1)).apply (polls.world k) =
      (.ok (.late (depthUnder (polls.seen k) minedIn)), polls.timed k) := by
  unfold awaitDepth
  simp only [Action.apply_bind, polls.look, polls.read, Action.apply_ofExcept, shallow, past,
    Bool.false_eq_true, if_false, if_true]
  rfl

theorem awaitDepth_again {k : ℕ} (shallow : isDeep (depthUnder (polls.seen k) minedIn) = .ok false)
    (early : isPast (polls.time k) = false) (looks : Nat) :
    (awaitDepth head clock isPast pause minedIn isDeep (looks + 1)).apply (polls.world k) =
      (awaitDepth head clock isPast pause minedIn isDeep looks).apply (polls.world (k + 1)) := by
  conv_lhs => unfold awaitDepth
  simp only [Action.apply_bind, polls.look, polls.read, polls.pause, Action.apply_ofExcept, shallow,
    early, Bool.false_eq_true, if_false]

/-- A wait whose first polls decide nothing goes on with those that follow. -/
theorem awaitDepth_add {n : ℕ}
    (shallow : ∀ k < n, isDeep (depthUnder (polls.seen k) minedIn) = .ok false)
    (early : ∀ k < n, isPast (polls.time k) = false) (looks : Nat) :
    (awaitDepth head clock isPast pause minedIn isDeep (looks + n)).apply (polls.world 0) =
      (awaitDepth head clock isPast pause minedIn isDeep looks).apply (polls.world n) := by
  induction n generalizing looks with
  | zero => rfl
  | succ n ih =>
    rw [← Nat.succ_add_eq_add_succ,
      ih (fun k hk => shallow k (by omega)) (fun k hk => early k (by omega))]
    exact polls.awaitDepth_again (shallow n (by omega)) (early n (by omega)) looks

end Polls

/-! ## The calls of a wait -/

/-- A call that a wait makes. -/
inductive WaitCall where
  | head
  | clock
  | sleep (seconds : Json)
  deriving DecidableEq

namespace Ledger

variable {node : Node ω} {timer : Timer ω} {hash : NodeValue} {patience : Patience}
  {deadline : Number} {minedIn : Int}

/-- The world shows the calls that were made in it. -/
structure NotesCalls (node : Node ω) (timer : Timer ω) (calls : ω → List WaitCall) : Prop where
  head : ∀ w, calls ((readHead node).apply w).2 = calls w ++ [.head]
  clock : ∀ w, calls (timer.now w).2 = calls w ++ [.clock]
  sleep : ∀ seconds w, calls ((timer.sleep seconds).apply w).2 = calls w ++ [.sleep seconds]

/-- The calls of so many polls that were followed by another one. -/
def roundsOf (latency : Json) (polls : ℕ) : List WaitCall :=
  (List.replicate polls [.head, .clock, .sleep latency]).flatten

theorem roundsOf_succ (latency : Json) (polls : ℕ) :
    roundsOf latency (polls + 1) = roundsOf latency polls ++ [.head, .clock, .sleep latency] := by
  simp [roundsOf, List.replicate_succ']

/-- The polls of the wait for depth. -/
abbrev DepthPolls (node : Node ω) (timer : Timer ω) (latency : Json) :=
  Polls (readHead node) (Action.step timer.now) (timer.sleep latency)

namespace DepthPolls

variable {latency : Json} (polls : DepthPolls node timer latency) {calls : ω → List WaitCall}
  (notes : NotesCalls node timer calls)
include notes

theorem calls_looked (k : ℕ) : calls (polls.looked k) = calls (polls.world k) ++ [.head] := by
  rw [← notes.head, polls.look]

theorem calls_timed (k : ℕ) : calls (polls.timed k) = calls (polls.looked k) ++ [.clock] := by
  have hread : (timer.now (polls.looked k)).2 = polls.timed k := congrArg Prod.snd (polls.read k)
  rw [← notes.clock, hread]

theorem calls_world (k : ℕ) :
    calls (polls.world k) = calls (polls.world 0) ++ roundsOf latency k := by
  induction k with
  | zero => simp [roundsOf]
  | succ k ih =>
    have hpause : calls (polls.world (k + 1)) = calls (polls.timed k) ++ [.sleep latency] := by
      rw [← notes.sleep, polls.pause]
    rw [hpause, calls_timed polls notes, calls_looked polls notes, ih, roundsOf_succ]
    simp

end DepthPolls

/-! ## The end of a wait -/

/-- The wait for depth as such. -/
abbrev depthWait (node : Node ω) (timer : Timer ω) (patience : Patience) (deadline : Number)
    (minedIn : Int) (looks : Nat) : Action ω DepthOutcome :=
  awaitDepth (readHead node) (Action.step timer.now) (isPast deadline)
    (timer.sleep patience.latency) minedIn (isDeepEnough patience) looks

/-- The wait ends at poll `n`. No fewer polls are enough; with more it ends in `result` after `n`
whole rounds, each with its pause, and the `last` calls of that poll. -/
structure EndsAt (node : Node ω) (timer : Timer ω) (hash : NodeValue) (patience : Patience)
    (deadline : Number) (minedIn : Int) (w : ω) (n : ℕ) (last : List WaitCall)
    (result : Except Fault Unit) : Prop where
  goesOn : ∀ looks ≤ n,
    ((depthWait node timer patience deadline minedIn looks).apply w).1 = .ok .exhausted
  ends : ∃ w', (∀ looks, n < looks →
      (confirmDepth node timer hash patience deadline minedIn looks).apply w = (result, w')) ∧
    ∀ calls, NotesCalls node timer calls → calls w' = calls w ++ roundsOf patience.latency n ++ last

/-- What is said of a transaction that is not deep enough in time. -/
def shortfall (hash : NodeValue) (patience : Patience) (depth : Int) : String :=
  hash.display ++ " has " ++ Decimal.textInt depth ++ "/" ++ patience.minConfirmations.display
    ++ " confirmations"

theorem confirmDepth_of_reached {looks : Nat} {w w' : ω}
    (h : (depthWait node timer patience deadline minedIn looks).apply w = (.ok .reached, w')) :
    (confirmDepth node timer hash patience deadline minedIn looks).apply w = (.ok (), w') := by
  rw [confirmDepth, Action.apply_bind, h]
  rfl

theorem confirmDepth_of_late {looks : Nat} {depth : Int} {w w' : ω}
    (h : (depthWait node timer patience deadline minedIn looks).apply w = (.ok (.late depth), w')) :
    (confirmDepth node timer hash patience deadline minedIn looks).apply w =
      (.error (.ledger (.timeout (shortfall hash patience depth))), w') := by
  rw [confirmDepth, Action.apply_bind, h]
  rfl

theorem isDeepEnough_int {least : Int} (hleast : patience.minConfirmations = .int least)
    (depth : Int) : isDeepEnough patience depth = .ok (decide (least ≤ depth)) := by
  simp [isDeepEnough, hleast, settingNumber, Json.asNumber?, Functor.map, Except.map]

/-- The polls that find the transaction deep enough. -/
def deepPolls (least minedIn : Int) (seen : ℕ → Int) : Set ℕ :=
  {k | least ≤ depthUnder (seen k) minedIn}

/-- The polls whose reading of the clock is at or past the deadline. -/
def latePolls (due : ℚ) (now : ℕ → ℚ) : Set ℕ := {k | due ≤ now k}

section Stops

variable (hash) {least : Int} {due : ℚ} {now : ℕ → ℚ}
  (hleast : patience.minConfirmations = .int least) (hdeadline : deadline.value? = some due)
  (polls : DepthPolls node timer patience.latency)
  (hnow : ∀ k, (polls.time k).value? = some (now k))

include hleast in
theorem isDeepEnough_of_mem {k : ℕ} (h : k ∈ deepPolls least minedIn polls.seen) :
    isDeepEnough patience (depthUnder (polls.seen k) minedIn) = .ok true := by
  rw [isDeepEnough_int hleast, decide_eq_true (Set.mem_ofPred.1 h)]

include hleast in
theorem isDeepEnough_of_notMem {k : ℕ} (h : k ∉ deepPolls least minedIn polls.seen) :
    isDeepEnough patience (depthUnder (polls.seen k) minedIn) = .ok false := by
  rw [isDeepEnough_int hleast, decide_eq_false (Set.notMem_ofPred_iff.1 h)]

include hdeadline hnow in
theorem isPast_iff (k : ℕ) : isPast deadline (polls.time k) = true ↔ k ∈ latePolls due now :=
  Number.le_iff hdeadline (hnow k)

include hdeadline hnow in
theorem isPast_of_notMem {k : ℕ} (h : k ∉ latePolls due now) :
    isPast deadline (polls.time k) = false :=
  Bool.eq_false_iff.2 fun hpast => h ((isPast_iff hdeadline polls hnow k).1 hpast)

include hleast hdeadline hnow

/-- Polls that find the transaction neither deep enough nor late are followed by the others. -/
theorem depthWait_undecided {n : ℕ} (shallow : ∀ k < n, k ∉ deepPolls least minedIn polls.seen)
    (early : ∀ k < n, k ∉ latePolls due now) (looks : Nat) :
    (depthWait node timer patience deadline minedIn (looks + n)).apply (polls.world 0) =
      (depthWait node timer patience deadline minedIn looks).apply (polls.world n) :=
  polls.awaitDepth_add (fun k hk => isDeepEnough_of_notMem hleast polls (shallow k hk))
    (fun k hk => isPast_of_notMem hdeadline polls hnow (early k hk)) looks

theorem goesOn_of_undecided {n : ℕ} (shallow : ∀ k < n, k ∉ deepPolls least minedIn polls.seen)
    (early : ∀ k < n, k ∉ latePolls due now) (looks : ℕ) (hlooks : looks ≤ n) :
    ((depthWait node timer patience deadline minedIn looks).apply (polls.world 0)).1 =
      .ok .exhausted := by
  have hspent := depthWait_undecided hleast hdeadline polls hnow
    (fun k hk => shallow k (hk.trans_le hlooks)) (fun k hk => early k (hk.trans_le hlooks)) 0
  rw [Nat.zero_add] at hspent
  rw [hspent]
  rfl

/-- A wait with looks to spare ends well at the first poll that is deep enough, if none before it
was late. -/
theorem confirmDepth_of_deep {i : ℕ} (deep : i ∈ deepPolls least minedIn polls.seen)
    (shallow : ∀ k < i, k ∉ deepPolls least minedIn polls.seen)
    (early : ∀ k < i, k ∉ latePolls due now) {looks : Nat} (hlooks : i < looks) :
    (confirmDepth node timer hash patience deadline minedIn looks).apply (polls.world 0) =
      (.ok (), polls.looked i) := by
  obtain ⟨more, rfl⟩ : ∃ more, looks = more + 1 + i := ⟨looks - (i + 1), by omega⟩
  refine confirmDepth_of_reached ?_
  rw [depthWait_undecided hleast hdeadline polls hnow shallow early]
  exact polls.awaitDepth_reached (isDeepEnough_of_mem hleast polls deep) more

/-- It times out at the first poll that is late, if none up to it was deep enough. -/
theorem confirmDepth_of_latePoll {j : ℕ} (late : j ∈ latePolls due now)
    (shallow : ∀ k ≤ j, k ∉ deepPolls least minedIn polls.seen)
    (early : ∀ k < j, k ∉ latePolls due now) {looks : Nat} (hlooks : j < looks) :
    (confirmDepth node timer hash patience deadline minedIn looks).apply (polls.world 0) =
      (.error (.ledger (.timeout (shortfall hash patience (depthUnder (polls.seen j) minedIn)))),
        polls.timed j) := by
  obtain ⟨more, rfl⟩ : ∃ more, looks = more + 1 + j := ⟨looks - (j + 1), by omega⟩
  refine confirmDepth_of_late ?_
  rw [depthWait_undecided hleast hdeadline polls hnow (fun k hk => shallow k hk.le) early]
  exact polls.awaitDepth_late (isDeepEnough_of_notMem hleast polls (shallow j le_rfl))
    ((isPast_iff hdeadline polls hnow j).2 late) more

theorem endsAt_of_deep {i : ℕ} (deep : i ∈ deepPolls least minedIn polls.seen)
    (shallow : ∀ k < i, k ∉ deepPolls least minedIn polls.seen)
    (early : ∀ k < i, k ∉ latePolls due now) :
    EndsAt node timer hash patience deadline minedIn (polls.world 0) i [.head] (.ok ()) := by
  refine ⟨goesOn_of_undecided hleast hdeadline polls hnow shallow early, polls.looked i,
    fun looks => confirmDepth_of_deep hash hleast hdeadline polls hnow deep shallow early,
    fun calls notes => ?_⟩
  rw [DepthPolls.calls_looked polls notes, DepthPolls.calls_world polls notes]

theorem endsAt_of_late {j : ℕ} (late : j ∈ latePolls due now)
    (shallow : ∀ k ≤ j, k ∉ deepPolls least minedIn polls.seen)
    (early : ∀ k < j, k ∉ latePolls due now) :
    EndsAt node timer hash patience deadline minedIn (polls.world 0) j [.head, .clock]
      (.error (.ledger (.timeout
        (shortfall hash patience (depthUnder (polls.seen j) minedIn))))) := by
  have hbefore : ∀ k < j, k ∉ deepPolls least minedIn polls.seen := fun k hk => shallow k hk.le
  refine ⟨goesOn_of_undecided hleast hdeadline polls hnow hbefore early, polls.timed j,
    fun looks => confirmDepth_of_latePoll hash hleast hdeadline polls hnow late shallow early,
    fun calls notes => ?_⟩
  rw [DepthPolls.calls_timed polls notes, DepthPolls.calls_looked polls notes,
    DepthPolls.calls_world polls notes]
  simp

end Stops

/-- A clock that advances by `step` between two polls is past the deadline in time. -/
theorem exists_latePoll {start timeout step : ℚ} {now : ℕ → ℚ} (hstep : 0 < step)
    (hstart : start ≤ now 0) (hadvance : ∀ k, now k + step ≤ now (k + 1)) :
    ∃ j ≤ ⌈timeout / step⌉₊, IsLeast (latePolls (start + timeout) now) j := by
  -- Nothing but the clock makes the wait end: it stays above the line through its start.
  have hsteps : ∀ k : ℕ, start + k * step ≤ now k := fun k => by
    induction k with
    | zero => simpa using hstart
    | succ k ih =>
      have := hadvance k
      push_cast
      linarith
  have hlate : ⌈timeout / step⌉₊ ∈ latePolls (start + timeout) now := by
    have hceil : timeout ≤ ⌈timeout / step⌉₊ * step := (div_le_iff₀ hstep).1 (Nat.le_ceil _)
    exact (add_le_add_right hceil start).trans (hsteps _)
  exact ⟨_, csInf_le' hlate, isLeast_csInf ⟨_, hlate⟩⟩

/-- The first late poll decides, unless one up to it is deep enough: then the first such does. -/
theorem decides_first {deep late : Set ℕ} {j : ℕ} (hj : IsLeast late j) :
    (∀ i ∈ deep, j < i) ∨ ∃ i ≤ j, IsLeast deep i ∧ ∀ k ∈ late, i ≤ k := by
  by_cases hdeep : ∀ i ∈ deep, j < i
  · exact .inl hdeep
  · push Not at hdeep
    obtain ⟨i, hi, hij⟩ := hdeep
    have hfirst : sInf deep ≤ j := (Nat.sInf_le hi).trans hij
    exact .inr ⟨sInf deep, hfirst, isLeast_csInf ⟨i, hi⟩, fun k hk => hfirst.trans (hj.2 hk)⟩

/-- The wait for depth ends well at the first poll that finds the transaction deep enough, though
that poll be past the deadline, and times out at the first poll that is, where none up to it finds
the transaction deep enough. Where each pause lets the clock advance by `step`, it ends within
`⌈timeout / step⌉₊ + 1` polls, whatever the heads are. -/
theorem confirmDepth_stops (hash : NodeValue) (minedIn : Int) {least : Int}
    (hleast : patience.minConfirmations = .int least)
    {start timeout : ℚ} (hdeadline : deadline.value? = some (start + timeout))
    (polls : DepthPolls node timer patience.latency) {now : ℕ → ℚ}
    (hnow : ∀ k, (polls.time k).value? = some (now k)) :
    (∀ i, IsLeast (deepPolls least minedIn polls.seen) i →
      (∀ j ∈ latePolls (start + timeout) now, i ≤ j) →
      EndsAt node timer hash patience deadline minedIn (polls.world 0) i [.head] (.ok ())) ∧
    (∀ j, IsLeast (latePolls (start + timeout) now) j →
      (∀ i ∈ deepPolls least minedIn polls.seen, j < i) →
      EndsAt node timer hash patience deadline minedIn (polls.world 0) j [.head, .clock]
        (.error (.ledger (.timeout
          (shortfall hash patience (depthUnder (polls.seen j) minedIn)))))) ∧
    ∀ step, 0 < step → start ≤ now 0 → (∀ k, now k + step ≤ now (k + 1)) →
      ∃ n ≤ ⌈timeout / step⌉₊, ∃ last result,
        EndsAt node timer hash patience deadline minedIn (polls.world 0) n last result := by
  have reached (i : ℕ) (hi : IsLeast (deepPolls least minedIn polls.seen) i)
      (hlate : ∀ j ∈ latePolls (start + timeout) now, i ≤ j) :=
    endsAt_of_deep hash hleast hdeadline polls hnow hi.1
      (fun k hk deep => hk.not_ge (hi.2 deep)) (fun k hk late => hk.not_ge (hlate k late))
  have late (j : ℕ) (hj : IsLeast (latePolls (start + timeout) now) j)
      (hdeep : ∀ i ∈ deepPolls least minedIn polls.seen, j < i) :=
    endsAt_of_late hash hleast hdeadline polls hnow hj.1
      (fun k hk deep => hk.not_gt (hdeep k deep)) (fun k hk late => hk.not_ge (hj.2 late))
  refine ⟨reached, late, fun step hstep hstart hadvance => ?_⟩
  obtain ⟨j, hj, hleastLate⟩ := exists_latePoll hstep hstart hadvance
  -- Poll `j` ends the wait at the latest; a poll up to it that is deep enough ends it before.
  rcases decides_first hleastLate with hdeep | ⟨i, hij, hi, hlate⟩
  · exact ⟨j, hj, _, _, late j hleastLate hdeep⟩
  · exact ⟨i, hij.trans hj, _, _, reached i hi hlate⟩

/-! ## The wait for a receipt -/

/-- A wait for a receipt comes, in `w'`, to the wait for depth. The deadline is what the first
reading of the clock and the timeout add up to without rounding, and the first receipt was mined in
a block. -/
structure Begins (node : Node ω) (timer : Timer ω) (hash : NodeValue) (patience : Patience) (w : ω)
    (start timeout : ℚ) (first : NodeValue) (minedIn : Int) (w' : ω) : Prop where
  reads : (timer.now w).1.value? = some start
  due : ∃ wait deadline, settingNumber patience.timeout = .ok wait ∧ wait.value? = some timeout ∧
    (timer.now w).1.add? wait = some deadline ∧ deadline.value? = some (start + timeout)
  finds : (firstReceipt node hash patience).apply (timer.now w).2 = (.ok first, w')
  mined : (first.index "blockNumber" >>= NodeValue.toInteger) = .ok minedIn

/-- From there on it is the wait for depth, and then the receipt is settled. -/
theorem Begins.exists_deadline {w w' : ω} {start timeout : ℚ} {first : NodeValue}
    (h : Begins node timer hash patience w start timeout first minedIn w') (journal : Journal ω) :
    ∃ deadline : Number, deadline.value? = some (start + timeout) ∧
      ∀ looks, (confirmedReceipt node timer journal hash patience looks).apply w =
        (confirmDepth node timer hash patience deadline minedIn looks >>= fun _ =>
          settledReceipt node journal hash patience first).apply w' := by
  obtain ⟨wait, deadline, hwait, -, hsum, hdue⟩ := h.due
  refine ⟨deadline, hdue, fun looks => ?_⟩
  have hdeadline : (deadlineFrom timer patience).apply w = (.ok deadline, (timer.now w).2) := by
    simp only [deadlineFrom, Action.apply_bind, Action.apply_step, Action.apply_ofExcept, hwait,
      hsum, Action.apply_pure]
  rw [confirmedReceipt, Action.apply_bind, hdeadline]
  simp only [Action.apply_bind, h.finds, Action.apply_ofExcept, h.mined]

/-- The wait for a receipt settles it after the first poll that finds it deep enough, though that
poll be past the deadline, and times out at the first poll that is, where none up to it does. Where
each pause lets the clock advance by `step` from its first reading on, one or the other comes within
`⌈timeout / step⌉₊ + 1` polls. -/
theorem confirmedReceipt_stops {w : ω} {start timeout : ℚ} {first : NodeValue}
    (polls : DepthPolls node timer patience.latency)
    (h : Begins node timer hash patience w start timeout first minedIn (polls.world 0))
    (journal : Journal ω) {least : Int} (hleast : patience.minConfirmations = .int least)
    {now : ℕ → ℚ} (hnow : ∀ k, (polls.time k).value? = some (now k)) :
    (∀ i, IsLeast (deepPolls least minedIn polls.seen) i →
      (∀ j ∈ latePolls (start + timeout) now, i ≤ j) → ∀ looks > i,
      (confirmedReceipt node timer journal hash patience looks).apply w =
        (settledReceipt node journal hash patience first).apply (polls.looked i)) ∧
    (∀ j, IsLeast (latePolls (start + timeout) now) j →
      (∀ i ∈ deepPolls least minedIn polls.seen, j < i) → ∀ looks > j,
      (confirmedReceipt node timer journal hash patience looks).apply w =
        (.error (.ledger (.timeout (shortfall hash patience
          (depthUnder (polls.seen j) minedIn)))), polls.timed j)) ∧
    ∀ step, 0 < step → start ≤ now 0 → (∀ k, now k + step ≤ now (k + 1)) →
      ∃ n ≤ ⌈timeout / step⌉₊, ∀ looks > n,
        (confirmedReceipt node timer journal hash patience looks).apply w =
          (settledReceipt node journal hash patience first).apply (polls.looked n) ∨
        (confirmedReceipt node timer journal hash patience looks).apply w =
          (.error (.ledger (.timeout (shortfall hash patience
            (depthUnder (polls.seen n) minedIn)))), polls.timed n) := by
  obtain ⟨deadline, hdue, hgoes⟩ := h.exists_deadline journal
  have settles (i : ℕ) (hi : IsLeast (deepPolls least minedIn polls.seen) i)
      (hlate : ∀ j ∈ latePolls (start + timeout) now, i ≤ j) (looks : ℕ) (hlooks : looks > i) :
      (confirmedReceipt node timer journal hash patience looks).apply w =
        (settledReceipt node journal hash patience first).apply (polls.looked i) := by
    have hdeep := confirmDepth_of_deep hash hleast hdue polls hnow hi.1
      (fun k hk deep => hk.not_ge (hi.2 deep)) (fun k hk late => hk.not_ge (hlate k late)) hlooks
    rw [hgoes, Action.apply_bind, hdeep]
  have timesOut (j : ℕ) (hj : IsLeast (latePolls (start + timeout) now) j)
      (hdeep : ∀ i ∈ deepPolls least minedIn polls.seen, j < i) (looks : ℕ) (hlooks : looks > j) :
      (confirmedReceipt node timer journal hash patience looks).apply w =
        (.error (.ledger (.timeout (shortfall hash patience
          (depthUnder (polls.seen j) minedIn)))), polls.timed j) := by
    have hlate := confirmDepth_of_latePoll hash hleast hdue polls hnow hj.1
      (fun k hk deep => hk.not_gt (hdeep k deep)) (fun k hk late => hk.not_ge (hj.2 late)) hlooks
    rw [hgoes, Action.apply_bind, hlate]
  refine ⟨settles, timesOut, fun step hstep hstart hadvance => ?_⟩
  obtain ⟨j, hj, hleastLate⟩ := exists_latePoll hstep hstart hadvance
  rcases decides_first hleastLate with hdeep | ⟨i, hij, hi, hlate⟩
  · exact ⟨j, hj, fun looks hlooks => .inr (timesOut j hleastLate hdeep looks hlooks)⟩
  · exact ⟨i, hij.trans hj, fun looks hlooks => .inl (settles i hi hlate looks hlooks)⟩

/-! ## A head that falls -/

/-- A node whose head falls with every call, with every transaction in block 10. -/
def falling : Node (List WaitCall) where
  balance _ := Action.fail .badValue
  tokenBalance _ _ := Action.fail .badValue
  chainId := Action.fail .badValue
  gasPrice := Action.fail .badValue
  blockNumber := Action.step fun calls => (.num (.int (11 - calls.length)), calls ++ [.head])
  latestBlock _ := Action.fail .badValue
  transactionCount _ := Action.fail .badValue
  estimateGas _ := Action.fail .badValue
  sendRaw _ := Action.fail .badValue
  waitForReceipt _ _ _ := pure (.obj [(Utf16.ofString "blockNumber", .num (.int 10))])
  receipt _ := Action.fail .badValue

/-- A timer whose clock advances with every call. -/
def ticking : Timer (List WaitCall) where
  now calls := (.int (100 + calls.length), calls ++ [.clock])
  sleep seconds := Action.update fun calls => calls ++ [.sleep seconds]

theorem length_roundsOf (latency : Json) (polls : ℕ) :
    (roundsOf latency polls).length = 3 * polls := by
  simp [roundsOf, Nat.mul_comm]

/-- The polls of a wait whose deadline was reckoned from the first reading of the clock. -/
def fallingPolls (latency : Json) : DepthPolls falling ticking latency where
  world k := .clock :: roundsOf latency k
  looked k := .clock :: roundsOf latency k ++ [.head]
  timed k := .clock :: roundsOf latency k ++ [.head, .clock]
  seen k := 10 - 3 * k
  time k := .int (102 + 3 * k)
  look k := by
    simp [readHead, falling, Action.apply_bind, length_roundsOf, NodeValue.toInteger,
      Number.toInteger]
    omega
  read k := by
    simp [ticking, length_roundsOf]
    omega
  pause k := by
    simp [ticking, Action.update, roundsOf_succ]

theorem value?_time_fallingPolls (latency : Json) (k : ℕ) :
    ((fallingPolls latency).time k).value? = some (102 + 3 * (k : ℚ)) := by
  simp [fallingPolls, Number.value?, Number.place]

theorem isLeast_latePolls_falling :
    IsLeast (latePolls (100 + 10) fun k => 102 + 3 * (k : ℚ)) 3 := by
  refine ⟨?_, fun k hk => ?_⟩
  · norm_num [latePolls]
  · have hpast : (100 + 10 : ℚ) ≤ 102 + 3 * k := hk
    have hthird : (2 : ℚ) < k := by linarith
    exact_mod_cast hthird

/-- A head that falls from the block of the transaction on is never deep enough. -/
theorem notMem_deepPolls_falling (latency : Json) (k : ℕ) :
    k ∉ deepPolls 3 10 (fallingPolls latency).seen := by
  intro hk
  have hdeep : (3 : Int) ≤ depthUnder (10 - 3 * k) 10 := hk
  simp only [depthUnder] at hdeep
  omega

/-- The deadline is 110, and the clock shows 102, 105, 108 and 111. -/
theorem confirmDepth_stops_falling :
    let patience : Patience :=
      { minConfirmations := .int 3, timeout := .int 10, latency := .int 1 }
    (deadlineFrom ticking patience).apply [] = (.ok (.int 110), [.clock]) ∧
    EndsAt falling ticking (.text "0x44") patience (.int 110) 10 [.clock] 3 [.head, .clock]
      (.error (.ledger (.timeout (shortfall (.text "0x44") patience (-8))))) ∧
    ∃ n ≤ ⌈(10 : ℚ) / 3⌉₊, ∃ last result,
      EndsAt falling ticking (.text "0x44") patience (.int 110) 10 [.clock] n last result := by
  intro patience
  have hdeadline : (Number.int 110).value? = some (100 + 10) := by
    norm_num [Number.value?, Number.place]
  have hleast : patience.minConfirmations = .int 3 := rfl
  obtain ⟨-, late, bounded⟩ := confirmDepth_stops (.text "0x44") 10 hleast hdeadline
    (fallingPolls patience.latency) (value?_time_fallingPolls patience.latency)
  refine ⟨rfl, late 3 isLeast_latePolls_falling fun k hk => ?_,
    bounded 3 (by norm_num) (by norm_num) fun k => ?_⟩
  · exact absurd hk (notMem_deepPolls_falling patience.latency k)
  · push_cast
    linarith

/-- The wait for a receipt begins at 100 and times out with it. -/
theorem confirmedReceipt_stops_falling (journal : Journal (List WaitCall)) {looks : ℕ}
    (hlooks : looks > 3) :
    let patience : Patience :=
      { minConfirmations := .int 3, timeout := .int 10, latency := .int 1 }
    ((confirmedReceipt falling ticking journal (.text "0x44") patience looks).apply []).1 =
      .error (.ledger (.timeout (shortfall (.text "0x44") patience (-8)))) := by
  intro patience
  have hbegins : Begins falling ticking (.text "0x44") patience [] 100 10
      (.obj [(Utf16.ofString "blockNumber", .num (.int 10))]) 10 [.clock] :=
    { reads := by simp [ticking, Number.value?, Number.place]
      due := ⟨.int 10, .int 110, rfl, by simp [Number.value?, Number.place], rfl,
        by norm_num [Number.value?, Number.place]⟩
      finds := rfl
      mined := by decide }
  obtain ⟨-, late, -⟩ := confirmedReceipt_stops (fallingPolls patience.latency) hbegins journal rfl
    (value?_time_fallingPolls patience.latency)
  have hends := late 3 isLeast_latePolls_falling
    (fun k hk => absurd hk (notMem_deepPolls_falling patience.latency k)) looks hlooks
  exact congrArg Prod.fst hends

end Ledger

end DepositGateway
