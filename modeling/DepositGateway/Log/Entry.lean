import DepositGateway.Action

/-!
# Log entries

Every part of the gateway that reports something does so under a source of its own.

An entry is put into words by the handler it is given to, and a number of too many digits cannot be.
What comes of such an entry is up to the handler: those that come with the language complain aside
and let the reporter go on, while one that only puts the entry into words passes the fault on to the
reporter. Here it is passed on, so that nothing which may come of it is left out.

* `Journal.report` reports a line that can be put into words.
* `Journal.infoWritten` reports a line with a number that may have too many digits.
-/

namespace DepositGateway

/-- How much an entry matters. -/
inductive LogLevel where
  | debug
  | info
  | warning
  | error
  | critical
  deriving DecidableEq

/-- The part of the gateway that reports. -/
inductive LogSource where
  | store
  | ledger
  | sweep
  | notice
  | poller
  | gateway
  | http
  deriving DecidableEq

namespace LogSource

/-- The name under which a part reports. -/
def name : LogSource → String
  | store => "evmpay.store"
  | ledger => "evmpay.ledger"
  | sweep => "evmpay.transfers"
  | notice => "evmpay.reflector"
  | poller => "evmpay.poller"
  | gateway => "evmpay.gateway"
  | http => "evmpay.api"

end LogSource

/-- One reported line, with the fault it reports where the line alone does not tell it. -/
structure LogEntry where
  level : LogLevel
  source : LogSource
  text : String
  fault : Option Fault := none
  deriving DecidableEq

/-- Where entries go. -/
abbrev Journal (ω : Type) := LogEntry → ω → ω

namespace Journal

variable {ω : Type} (journal : Journal ω) (source : LogSource)

/-- Reports a line of a level. -/
def report (level : LogLevel) (text : String) : Action ω Unit :=
  Action.update (journal { level, source, text })

/-- Reports what goes on. -/
def info (text : String) : Action ω Unit := journal.report source .info text

/-- Reports what goes on in a line with a value that may hold a number of too many digits. -/
def infoWritten (writable : Bool) (text : String) : Action ω Unit :=
  if writable then journal.info source text else Action.fail .tooManyDigits

/-- Reports what may need attention. -/
def warning (text : String) : Action ω Unit := journal.report source .warning text

/-- Reports what went wrong. -/
def error (text : String) : Action ω Unit := journal.report source .error text

/-- Reports a fault that nothing else handles. -/
def unhandled (text : String) (fault : Fault) : Action ω Unit :=
  Action.update (journal { level := .error, source, text, fault := some fault })

variable {journal source}

/-- A line that cannot be put into words ends its reporter. -/
theorem apply_infoWritten (writable : Bool) (text : String) (w : ω) :
    (journal.infoWritten source writable text).apply w =
      if writable then (.ok (), journal { level := .info, source, text } w)
      else (.error .tooManyDigits, w) := by
  cases writable <;> rfl

/-- A line that does not end its reporter can be put into words. -/
theorem writable_of_apply {writable : Bool} {text : String} {answer : Unit} {w w' : ω}
    (h : (journal.infoWritten source writable text).apply w = (.ok answer, w')) :
    writable = true := by
  cases writable with
  | false => cases h
  | true => rfl

end Journal

end DepositGateway
