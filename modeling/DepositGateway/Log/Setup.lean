import DepositGateway.Log.Entry
import DepositGateway.Text.Path
import DepositGateway.Text.Uppercase

/-!
# What becomes of log records

A record goes to the console and to every audit file if its level reaches a threshold. The
libraries that talk to the node have a threshold of their own, which is never below that of
warnings: what they report in detail would hold raw transactions.

* `LogSetup.configure`: sets the thresholds by the name of a level and may add an audit file.
* `LogSetup.passes`: which records go through.
-/

namespace DepositGateway

namespace LogThreshold

/-- The level of warnings. -/
def warning : Int := 30

/-- The levels that have names; of two names for one level the first is written. -/
def names : List (String × Int) :=
  [("CRITICAL", 50), ("FATAL", 50), ("ERROR", 40), ("WARNING", 30), ("WARN", 30), ("INFO", 20),
   ("DEBUG", 10), ("NOTSET", 0)]

/-- The names of other choices for logs, which are no levels, with the fault of taking them for
one: the layout of a line is malformed as a level, the table of layouts is of another kind. -/
def otherNames : List (String × Fault) := [("BASIC_FORMAT", .badValue), ("_STYLES", .badType)]

/-- The level of a name in letters of either case; a name that is none stands for `INFO`. -/
def ofName (name : String) : Except Fault Int :=
  match otherNames.lookup (upperCase name) with
  | some fault => .error fault
  | none => .ok ((names.lookup (upperCase name)).getD 20)

/-- What is written for a level. -/
def nameOf (level : Int) : String :=
  match names.find? fun entry => entry.2 = level with
  | some (name, _) => name
  | none => "Level " ++ Decimal.textInt level

end LogThreshold

/-- A record of any part of the program or of a library. -/
structure LogRecord where
  source : String
  level : Int
  text : String

namespace LogRecord

/-- The name of the source; a record without one comes from the root. -/
def sourceName (record : LogRecord) : String :=
  if record.source.isEmpty then "root" else record.source

/-- The line of a record, without its time. -/
def line (record : LogRecord) : String :=
  "[" ++ LogThreshold.nameOf record.level ++ "] " ++ record.sourceName ++ ": " ++ record.text

end LogRecord

/-- The number of a level. -/
def LogLevel.number : LogLevel → Int
  | debug => 10
  | info => 20
  | warning => 30
  | error => 40
  | critical => 50

/-- The record of an entry. -/
def LogEntry.toRecord (entry : LogEntry) : LogRecord :=
  ⟨entry.source.name, entry.level.number, entry.text⟩

/-- Where records go, and from which level on. -/
structure LogSetup where
  threshold : Int := LogThreshold.warning
  libraryThreshold : Int := 0
  hasConsole : Bool := false
  auditFiles : List String := []

namespace LogSetup

/-- The libraries that have a threshold of their own. -/
def libraries : List String := ["web3", "urllib3"]

/-- Refuses an audit file that cannot be one. -/
def checkFile (isDirectory : Path → Bool) (file : String) : Except Fault Unit :=
  match (Path.ofText file).obstacle? isDirectory with
  | none => .ok ()
  | some .noDirectory => .error (.other ⟨.missingFile, none⟩)
  | some .directory => .error (.other ⟨.isDirectory, none⟩)

/-- The audit files with one more, where one is named. -/
def addFile (isDirectory : Path → Bool) (files : List String) (file : Option String) :
    Except Fault (List String) :=
  match file with
  | none => .ok files
  | some file =>
    if file.isEmpty then .ok files
    else do
      checkFile isDirectory file
      return files ++ [file]

/-- Sets the thresholds and adds an audit file, where one is named. The console is set up once.
`isDirectory` tells which directories there are. -/
def configure (isDirectory : Path → Bool) (level : String) (auditFile : Option String)
    (setup : LogSetup) : Except Fault LogSetup := do
  let threshold ← LogThreshold.ofName level
  let auditFiles ← addFile isDirectory setup.auditFiles auditFile
  return {
    threshold
    libraryThreshold := max threshold LogThreshold.warning
    hasConsole := true
    auditFiles }

/-- Whether a source is a library of its own threshold or a part of one. -/
def isLibrary (source : String) : Bool :=
  libraries.contains (String.ofList (source.toList.takeWhile (· != '.')))

/-- The threshold of a source; a library without one of its own has that of all others. -/
def thresholdOf (setup : LogSetup) (source : String) : Int :=
  if isLibrary source && setup.libraryThreshold != 0 then setup.libraryThreshold
  else setup.threshold

/-- Whether a record goes through; a record without a level never does. -/
def passes (setup : LogSetup) (record : LogRecord) : Bool :=
  0 < record.level && setup.thresholdOf record.source ≤ record.level

/-- The lines on the console. -/
def consoleLines (setup : LogSetup) (records : List LogRecord) : List String :=
  if setup.hasConsole then (records.filter setup.passes).map LogRecord.line else []

/-- The lines in an audit file: one for each time that it was added. -/
def auditLines (setup : LogSetup) (file : String) (records : List LogRecord) : List String :=
  (records.filter setup.passes).flatMap fun record =>
    List.replicate (setup.auditFiles.count file) record.line

end LogSetup

end DepositGateway
