import DepositGateway.Decimal.Integer

/-!
# Faults

What can go wrong falls into four families of the gateway, each with its text, and failures that
come from outside of them.

* `StoreFault`: keeping invoices.
* `LedgerFault`: reading the node or submitting to it.
* `TransferFault`: sweeping; its constructors tell how far the sweep had come.
* `Failure`: any other cause, with its text where the text is known.
-/

namespace DepositGateway

/-- A failure of the invoice store. -/
inductive StoreFault where
  /-- A failure of no more particular kind. -/
  | general (text : String)
  /-- The store has no such key; the key is empty where none was asked for. -/
  | notFound (key : String)
  /-- The store could not be reached or refused the operation. -/
  | communicate (text : String)
  /-- The invoice has no written form. -/
  | serialize (text : String)
  /-- The stored bytes are not a record. -/
  | deserialize (text : String)
  deriving DecidableEq

/-- A failure at the node. -/
inductive LedgerFault where
  /-- A failure of no more particular kind. -/
  | general (text : String)
  /-- The node could not be reached. -/
  | unreachable (text : String)
  /-- The answer has not the expected shape. -/
  | malformed (text : String)
  /-- The node answered with an error. -/
  | rejected (text : String)
  /-- The answer did not come in time. -/
  | timeout (text : String)
  deriving DecidableEq

/-- A failure of a sweep. -/
inductive TransferFault where
  /-- A failure of no more particular kind. -/
  | general (text : String)
  /-- The chain id could not be read; nothing was submitted. -/
  | chainIdUnavailable (text : String)
  /-- Fees could not be found out; nothing was submitted. -/
  | feeEstimationExhausted (text : String)
  /-- No transaction could be built or signed; nothing was submitted. -/
  | buildFailed (text : String)
  /-- The balance does not cover the gas; nothing was submitted. -/
  | nothingToSweep (text : String)
  /-- The submission was refused, or the transaction failed on the chain. -/
  | submissionFailed (text : String)
  /-- The transaction was submitted, but its confirmation is unknown. -/
  | confirmationTimeout (text : String)
  deriving DecidableEq

/-- What a failure from outside the families comes from. -/
inductive Cause where
  | computation
  | badValue
  | badType
  | missingKey
  | missingItem
  | missingAttribute
  | system
  | systemTimeout
  | connectionLost
  | requestConnection
  | requestTimeout
  | requestStatus
  | node
  | nodeValue
  | nodeType
  | blockNotFound
  | transactionNotFound
  | receiptTimeout
  | badOutput
  | queueFull
  | divisionByZero
  | overflow
  | unencodable
  | notImplemented
  /-- An integer of more digits than are written. -/
  | tooManyDigits
  /-- What is no number where an integer is asked for. -/
  | notANumber
  /-- The name of a host that is none. -/
  | badHost
  | missingFile
  /-- A directory where a file was asked for. -/
  | isDirectory
  /-- The location of a database that cannot be read. -/
  | badLocation
  /-- A kind of database that is not known. -/
  | unknownDatabase
  /-- A known kind of database without the means to reach it. -/
  | missingDatabase
  deriving DecidableEq

/-- A failure from outside the families; the text is absent where no wording is laid down. -/
structure Failure where
  cause : Cause
  text : Option String := none
  deriving DecidableEq

/-- Anything that can go wrong. -/
inductive Fault where
  /-- A failure of the gateway of no more particular family. -/
  | gateway (text : String)
  | store (fault : StoreFault)
  | ledger (fault : LedgerFault)
  | transfer (fault : TransferFault)
  | other (failure : Failure)
  deriving DecidableEq

namespace StoreFault

/-- The text of a store fault. -/
def text : StoreFault → String
  | general text => text
  | notFound key => if key.isEmpty then "No matches found" else "No matches found: " ++ key
  | communicate text => text
  | serialize text => text
  | deserialize text => text

end StoreFault

namespace LedgerFault

/-- The text of a ledger fault. -/
def text : LedgerFault → String
  | general text => text
  | unreachable text => text
  | malformed text => text
  | rejected text => text
  | timeout text => text

end LedgerFault

namespace TransferFault

/-- The text of a transfer fault. -/
def text : TransferFault → String
  | general text => text
  | chainIdUnavailable text => text
  | feeEstimationExhausted text => text
  | buildFailed text => text
  | nothingToSweep text => text
  | submissionFailed text => text
  | confirmationTimeout text => text

end TransferFault

namespace Cause

/-- A value of the right type that is out of range or malformed. -/
def isValue : Cause → Bool
  | .badValue => true
  | .nodeValue => true
  | .tooManyDigits => true
  | .notANumber => true
  | .badHost => true
  | _ => false

/-- A value of the wrong type. -/
def isType : Cause → Bool
  | .badType => true
  | .nodeType => true
  | _ => false

/-- The way to the node or the receiver broke down. -/
def isTransport : Cause → Bool
  | .requestConnection => true
  | .requestTimeout => true
  | .requestStatus => true
  | .connectionLost => true
  | .systemTimeout => true
  | _ => false

/-- The node answered with an error of its own. -/
def isNode : Cause → Bool
  | .node => true
  | .nodeValue => true
  | .nodeType => true
  | .blockNotFound => true
  | .transactionNotFound => true
  | .receiptTimeout => true
  | .badOutput => true
  | _ => false

end Cause

namespace Fault

/-- A value of the wrong type, in no laid down wording. -/
def badType : Fault := .other ⟨.badType, none⟩

/-- A malformed value, in no laid down wording. -/
def badValue : Fault := .other ⟨.badValue, none⟩

/-- A value that has no number. -/
def overflow : Fault := .other ⟨.overflow, none⟩

/-- An integer of more digits than are written. -/
def tooManyDigits : Fault := .other ⟨.tooManyDigits, none⟩

/-- What is no number where an integer is asked for. -/
def notANumber : Fault := .other ⟨.notANumber, none⟩

/-- A value is asked for what its kind does not have. -/
def missingAttribute : Fault := .other ⟨.missingAttribute, none⟩

/-- A malformed value with the given text. -/
def invalid (text : String) : Fault := .other ⟨.badValue, some text⟩

/-- The text of a fault, where one is laid down. -/
def text? : Fault → Option String
  | gateway text => some text
  | store fault => some fault.text
  | ledger fault => some fault.text
  | transfer fault => some fault.text
  | other failure => failure.text

/-- The text of a fault, empty where none is laid down. -/
def text (fault : Fault) : String := fault.text?.getD ""

/-- Whether the fault tells of a malformed value. -/
def isValue : Fault → Bool
  | other failure => failure.cause.isValue
  | _ => false

/-- Whether the fault tells of a value of the wrong type. -/
def isType : Fault → Bool
  | other failure => failure.cause.isType
  | _ => false

end Fault

/-! ## Steps that may fail -/

/-- A chain of steps that ends well has a first step that does. -/
theorem ok_of_bind {ε α β : Type} {first : Except ε α} {next : α → Except ε β} {result : β}
    (h : first >>= next = .ok result) :
    ∃ answer, first = .ok answer ∧ next answer = .ok result := by
  cases first with
  | error fault => cases h
  | ok answer => exact ⟨answer, rfl, h⟩

/-- A chain of steps that fails does so in its first step or after it. -/
theorem error_of_bind {ε α β : Type} {first : Except ε α} {next : α → Except ε β}
    {fault : ε} (h : first >>= next = .error fault) :
    first = .error fault ∨ ∃ answer, first = .ok answer ∧ next answer = .error fault := by
  cases first with
  | error inner =>
    cases h
    exact .inl rfl
  | ok answer => exact .inr ⟨answer, rfl, h⟩

theorem bind_eq_error {ε α β : Type} {first : Except ε α} {next : α → Except ε β} {fault : ε} :
    first >>= next = .error fault ↔
      first = .error fault ∨ ∃ answer, first = .ok answer ∧ next answer = .error fault := by
  refine ⟨error_of_bind, ?_⟩
  rintro (rfl | ⟨answer, rfl, h⟩)
  · rfl
  · exact h

theorem bind_eq_ok {ε α β : Type} {first : Except ε α} {next : α → Except ε β} {result : β} :
    first >>= next = .ok result ↔ ∃ answer, first = .ok answer ∧ next answer = .ok result := by
  refine ⟨ok_of_bind, ?_⟩
  rintro ⟨answer, rfl, h⟩
  exact h

theorem ok_of_map {α β : Type} {first : Except Fault α} {f : α → β} {result : β}
    (h : f <$> first = .ok result) : ∃ answer, first = .ok answer ∧ f answer = result := by
  cases first with
  | error fault => cases h
  | ok answer =>
    cases h
    exact ⟨answer, rfl, rfl⟩

end DepositGateway
