import DepositGateway.Ledger.Request

/-!
# A node with prepared answers

Every question has a queue of prepared answers; the last one is given for ever, and a question
without any is answered with null. Questions and pauses are recorded, the latest first.
-/

namespace DepositGateway

/-- An answer, or the fault that is raised in its place. -/
abbrev NodeAnswer := Except Fault NodeValue

/-- The world around a node with prepared answers. -/
structure NodeWorld where
  answers : List (String × List NodeAnswer) := []
  calls : List Json := []
  now : Number := .double (Binary64.ofRatio false 1000 1)
  logs : List LogEntry := []

namespace NodeWorld

/-- Takes the next answer to a question. -/
def take (question : String) : List (String × List NodeAnswer) →
    NodeAnswer × List (String × List NodeAnswer)
  | [] => (.ok .null, [])
  | (other, queue) :: rest =>
    if other = question then
      match queue with
      | [] => (.ok .null, (other, queue) :: rest)
      | [last] => (last, (other, [last]) :: rest)
      | next :: later => (next, (other, later) :: rest)
    else
      let (answer, rest) := take question rest
      (answer, (other, queue) :: rest)

/-- Prepares the answers to a question anew. -/
def prepare (question : String) (queue : List NodeAnswer) (world : NodeWorld) : NodeWorld :=
  let others := world.answers.filter fun entry => entry.1 ≠ question
  { world with answers := (question, queue) :: others }

/-- Records a question and answers it. -/
def ask (question : String) (arguments : List Json) : Action NodeWorld NodeValue := do
  let answer ← Action.step fun world =>
    let (answer, answers) := take question world.answers
    (answer, { world with answers, calls := .arr (.text question :: arguments) :: world.calls })
  Action.ofExcept answer

/-- The node. -/
def node : Node NodeWorld where
  balance address := ask "balance" [.text address]
  tokenBalance token holder := ask "token_balance" [.text token, .text holder]
  chainId := ask "chain_id" []
  gasPrice := ask "gas_price" []
  blockNumber := ask "block_number" []
  latestBlock whole := ask "block" [.text "latest", .bool whole]
  transactionCount address := ask "nonce" [.text address]
  estimateGas draft := ask "gas" [draft]
  sendRaw raw := ask "sent_hash" [raw.toJson]
  waitForReceipt hash timeout latency := ask "receipt" [hash.toJson, timeout, latency]
  receipt hash := ask "receipt_again" [hash.toJson]

/-- A pause is recorded among the questions before its time passes. -/
def pause (seconds : Json) : Action NodeWorld Unit := do
  Action.update fun world =>
    { world with calls := .arr [.text "sleep", seconds] :: world.calls }
  match seconds.asNumber? with
  | none => Action.fail .badType
  | some seconds =>
    match (← Action.read NodeWorld.now).add? seconds with
    | some now => Action.update fun world => { world with now }
    | none => Action.fail .overflow

/-- Time passes only in pauses. -/
def timer : Timer NodeWorld := ⟨fun world => (world.now, world), pause⟩

/-- Records what is reported. -/
def journal : Journal NodeWorld := fun entry world => { world with logs := entry :: world.logs }

/-- The ledger of the node. -/
def ledger : Ledger NodeWorld := Ledger.ofNode node timer journal

/-- The answer to a request of a ledger operation. -/
def perform : String → List NodeValue → Action NodeWorld Json := Ledger.perform node timer journal

end NodeWorld

end DepositGateway
