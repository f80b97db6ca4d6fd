import DepositGateway.Settings.Plan
import DepositGateway.Simulation.Deployment

/-!
# Launching a planned gateway

A plan becomes a gateway in a world of its own, whose chain is held in memory.
-/

namespace DepositGateway

/-- The gateway of a plan; a web hook is taken to answer well. -/
def Deployment.ofPlan (plan : GatewayPlan) : Deployment where
  name := plan.name
  settings := plan.sweeps
  outlet := match plan.webhook with
    | some hook => .webhook hook 200 none
    | none => .queue
  invoiceDelay := plan.invoiceDelay
  pollerDelay := plan.pollerDelay

/-- The world that the gateway of a plan begins in. -/
def World.ofPlan (plan : GatewayPlan) : World :=
  { shelf := match plan.storeKind with
      | .memory => .memory {}
      | .table => .table {} }

/-- The world at a moment, with the key that is issued next and nothing recorded. -/
def World.atMoment (seconds : Int) (key : SecretKey) (world : World) : World :=
  { world with
    toScene := { world.toScene.unrecorded with clock := .int seconds, keys := [key], issued := 0 } }

end DepositGateway
