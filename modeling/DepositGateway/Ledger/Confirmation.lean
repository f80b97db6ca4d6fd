import DepositGateway.Action

/-!
# Waiting for depth

A transaction is as deep as the blocks from its own to the head of the chain, both counted. The
wait looks at the head, ends when the transaction is deep enough, gives up when the clock is past
the deadline, and otherwise pauses and looks again. A transaction that is deep enough when looked
at is accepted even past the deadline.

* `awaitDepth`: the wait, with any kind of clock.
-/

namespace DepositGateway

/-- How a wait for depth ends. -/
inductive DepthOutcome where
  /-- Deep enough. -/
  | reached
  /-- Not deep enough at the deadline. -/
  | late (depth : Int)
  /-- Not deep enough after as many looks as were allowed. -/
  | exhausted
  deriving DecidableEq

/-- The depth of a transaction of block `minedIn` under a head. -/
def depthUnder (head minedIn : Int) : Int := head - minedIn + 1

/-- Waits until the transaction of block `minedIn` is as deep as `isDeep` asks, for at most the
given number of looks. -/
def awaitDepth {ω τ : Type} (head : Action ω Int) (clock : Action ω τ) (isPast : τ → Bool)
    (pause : Action ω Unit) (minedIn : Int) (isDeep : Int → Except Fault Bool) :
    Nat → Action ω DepthOutcome
  | 0 => return .exhausted
  | looks + 1 => do
    let depth := depthUnder (← head) minedIn
    if ← Action.ofExcept (isDeep depth) then return .reached
    else if isPast (← clock) then return .late depth
    else do
      pause
      awaitDepth head clock isPast pause minedIn isDeep looks

end DepositGateway
