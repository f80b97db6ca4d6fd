import DepositGateway.Log.Setup
import DepositGateway.Notice.Webhook
import DepositGateway.Settings.Basic
import DepositGateway.Store.Choice

/-!
# The gateway that settings ask for

* `GatewayPlan.ofSettings`: which parts a gateway is made of, and with which values.
* `GatewayPlan.announcement`: what is said when a gateway is put to work.
* `GatewaySettings.setUp`: the plan with what becomes of reports.
-/

namespace DepositGateway

/-- The parts of a gateway. -/
structure GatewayPlan where
  name : String
  rpcUrl : String
  sweeps : SweepSettings
  storeKind : StoreKind
  /-- The web hook for notices; a queue takes them where there is none. -/
  webhook : Option Webhook
  invoiceDelay : Json
  pollerDelay : Json
  port : Int

namespace GatewayPlan

/-- The web hook that settings ask for; an empty address stands for none. -/
def webhookOf (settings : GatewaySettings) : Option Webhook :=
  match settings.webhookUrl with
  | some url =>
    if url.isEmpty then none else some { url, includeKey := settings.webhookIncludesKey }
  | none => none

/-- The plan for settings; `isDirectory` tells which directories there are. -/
def ofSettings (isDirectory : Path → Bool) (settings : GatewaySettings) :
    Except Fault GatewayPlan := do
  let storeKind ← StoreKind.ofLocation isDirectory settings.databaseUrl
  return {
    name := settings.name
    rpcUrl := settings.rpcUrl
    sweeps := {
      treasury := settings.treasury
      kind := settings.kind
      patience := {
        minConfirmations := .int settings.minConfirmations
        timeout := .num settings.confirmationTimeout }
      gasLimit := match settings.gasLimit with
        | some limit => .int limit
        | none => .null
      feeRetries := .int settings.feeRetries
      feeRetryDelay := .num settings.feeRetryDelay }
    storeKind
    webhook := webhookOf settings
    invoiceDelay := .num settings.invoiceDelay
    pollerDelay := .num settings.pollerDelay
    port := settings.port }

/-- What is said when the gateway is put to work. -/
def announcement (plan : GatewayPlan) : String :=
  Json.display (.object [("gateway", .text plan.name), ("treasury", .text plan.sweeps.treasury),
    ("transaction_type", .text plan.sweeps.kind.name),
    ("store", .text (match plan.storeKind with
      | .memory => "memory"
      | .table => "sql")),
    ("port", .int plan.port)])

end GatewayPlan

/-- What is set up for settings: where reports go and what the gateway is made of. -/
def GatewaySettings.setUp (isDirectory : Path → Bool) (settings : GatewaySettings) :
    Except Fault (LogSetup × GatewayPlan) := do
  let setup ← LogSetup.configure isDirectory settings.logLevel settings.auditLog {}
  let plan ← GatewayPlan.ofSettings isDirectory settings
  return (setup, plan)

end DepositGateway
