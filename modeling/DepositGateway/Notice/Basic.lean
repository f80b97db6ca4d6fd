import DepositGateway.Action
import DepositGateway.Invoice.View
import DepositGateway.Log.Entry
import DepositGateway.Store.Key

/-!
# Notices of settled invoices

A notifier hands a settled invoice to the application. Handing over is best effort: what goes
wrong is reported, never repeated, and never stops the caller.

* `deliver`: one attempt, which cannot fail.
-/

namespace DepositGateway

/-- A way to hand over settled invoices. -/
structure Notifier (ω : Type) where
  send : (key : InvoiceKey) → Invoice → Action ω Unit

namespace Notifier

/-- The notifier that was never given a way. -/
def unspecified {ω : Type} : Notifier ω where
  send _ _ := Action.fail (.other ⟨.notImplemented, some ""⟩)

end Notifier

/-- Hands an invoice over and tells whether that went well. -/
def deliver {ω : Type} (notifier : Notifier ω) (journal : Journal ω) (key : InvoiceKey)
    (invoice : Invoice) : Action ω Bool := do
  match ← Action.attempt (notifier.send key invoice) with
  | .ok _ => return true
  | .error (.other ⟨.queueFull, _⟩) => do
    journal.error .notice ("Failed sending invoice " ++ key.display ++ ": reflector queue is full")
    return false
  | .error fault => do
    journal.error .notice ("Failed sending invoice " ++ key.display ++ ": " ++ fault.text)
    return false

end DepositGateway
