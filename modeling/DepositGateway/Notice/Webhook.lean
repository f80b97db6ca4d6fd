import DepositGateway.Notice.Basic

/-!
# Notices by web hook

A settled invoice is posted as JSON. The event tells whether it carries the receipt of a sweep. The
key goes along only where it was asked for; without it, the receiver of an invoice that could not
be swept cannot recover the funds.

* `Webhook.payload`: what is posted.
-/

namespace DepositGateway

/-- Where and how notices are posted. -/
structure Webhook where
  url : String
  timeout : Json := .int 5
  includeKey : Bool := false
  deriving DecidableEq

namespace Webhook

/-- The event that an invoice stands for. -/
def event (invoice : Invoice) : String :=
  if invoice.hasReceipt then "invoice_settled" else "invoice_sweep_failed"

/-- What is posted of an invoice. -/
def payload (hook : Webhook) (key : InvoiceKey) (invoice : Invoice) : Json :=
  .object [("event", .text (event invoice)), ("id", key.toJson),
    ("invoice", invoice.shown hook.includeKey)]

/-- The fault that an answer of a status from 400 on stands for. -/
def checkStatus (status : Int) : Except Fault Unit :=
  if 400 ≤ status then
    .error (.other ⟨.requestStatus, some (Decimal.textInt status ++ " error")⟩)
  else .ok ()

end Webhook

/-- The notifier that posts to a web hook; `post` takes url, body and timeout and gives the status
of the answer. -/
def Notifier.ofWebhook {ω : Type} (hook : Webhook) (post : String → Json → Json → Action ω Int) :
    Notifier ω where
  send key invoice := do
    let status ← post hook.url (hook.payload key invoice) hook.timeout
    Action.ofExcept (Webhook.checkStatus status)

end DepositGateway
