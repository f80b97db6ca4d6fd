import DepositGateway.Notice.Basic
import DepositGateway.Store.Basic

/-!
# Notices by queue

Settled invoices wait in a queue for the application. A queue with a limit refuses what would
exceed it.
-/

namespace DepositGateway

/-- A queue of settled invoices, the oldest first. -/
structure NoticeQueue where
  waiting : List (InvoiceKey × Invoice) := []
  limit : Option Nat := none

namespace NoticeQueue

/-- The queue with a limit, which need not be whole; zero and negative limits stand for none. -/
def withLimit (limit : Number) : NoticeQueue :=
  { limit := if Number.lt 0 limit then limit.ceilNat? else none }

/-- Whether the queue has reached its limit. -/
def isFull (queue : NoticeQueue) : Bool :=
  match queue.limit with
  | some limit => limit ≤ queue.waiting.length
  | none => false

/-- Adds an invoice at the end. -/
def push (queue : NoticeQueue) (key : InvoiceKey) (invoice : Invoice) : NoticeQueue :=
  { queue with waiting := queue.waiting ++ [(key, invoice)] }

/-- Takes out everything. -/
def drain (queue : NoticeQueue) : List (InvoiceKey × Invoice) × NoticeQueue :=
  (queue.waiting, { queue with waiting := [] })

end NoticeQueue

/-- The notifier that fills a queue in a part of the world. -/
def Notifier.ofQueue {ω : Type} (cell : Cell ω NoticeQueue) : Notifier ω where
  send key invoice := do
    if ← cell.read (·.isFull) then Action.fail (.other ⟨.queueFull, some ""⟩)
    else cell.update (·.push key invoice)

end DepositGateway
