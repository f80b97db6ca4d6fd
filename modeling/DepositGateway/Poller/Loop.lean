import DepositGateway.Poller.Pass

/-!
# The polling loop

Pass follows pass with a pause between them until the poller is told to stop. A pass that fails is
reported, and the next one starts all the same.

* `Poller.runForever`: the loop, for at most a given number of passes; it tells whether it ended
  because the poller was told to stop.
-/

namespace DepositGateway

namespace Poller

variable {ω : Type} (poller : Poller ω)

/-- One pass whose failure is only reported. -/
def runPassSafely : Action ω Unit := do
  match ← Action.attempt poller.runPass with
  | .ok _ => return
  | .error fault => poller.journal.unhandled .poller "Reconciliation pass failed" fault

/-- The passes, until the poller is told to stop. -/
def runPasses : Nat → Action ω Bool
  | 0 => poller.isStopped
  | passes + 1 => do
    if ← poller.isStopped then return true
    else do
      poller.runPassSafely
      if ← poller.isStopped then return true
      else do
        poller.pause poller.pollerDelay
        runPasses passes

/-- The loop from its first line to its last. -/
def runForever (passes : Nat) : Action ω Bool := do
  poller.info "Starting polling payments"
  let ended ← poller.runPasses passes
  if ended then poller.info "Polling stopped"
  return ended

end Poller

end DepositGateway
