import DepositGateway.Settings.Basic
import DepositGateway.Settings.EnvFile

/-!
# Settings from the environment

The variables of the environment hold the settings as texts, and a file adds the variables that the
environment has not, unless the environment forbids it. A variable that is empty counts as absent,
but hides the one in the file.

* `GatewaySettings.ofEnvironment`: the settings of an environment and a file; there are none where
  the file holds what no environment can take.
-/

namespace DepositGateway

namespace GatewaySettings

/-- The variables that are set and not empty, as an object. -/
def gather (valueOf : String → Option String) : Json :=
  .object (variableNames.filterMap fun name =>
    match valueOf name with
    | some value => if value.isEmpty then none else some (name, .text value)
    | none => none)

/-- The variable that can forbid the file. -/
def fileSwitch : String := "PYTHON_DOTENV_DISABLED"

/-- Whether the environment forbids the file: its switch holds a word for yes. -/
def forbidsFile (environment : String → Option String) : Bool :=
  match environment fileSwitch with
  | some word => ["1", "TRUE", "T", "YES", "Y"].contains (upperCase word)
  | none => false

/-- The settings of an environment and a file, where there is one that may be read. -/
def ofEnvironment (environment : String → Option String) (file : Option String) :
    Except Fault (Checked GatewaySettings) :=
  match file with
  | none => .ok (ofJson (gather environment))
  | some text =>
    if forbidsFile environment then .ok (ofJson (gather environment))
    else do
      let extended ← EnvFile.extend environment text
      return ofJson (gather extended)

end GatewaySettings

end DepositGateway
