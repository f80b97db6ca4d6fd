import DepositGateway.Http.Line
import DepositGateway.Log.Setup
import DepositGateway.Settings.Environment
import DepositGateway.Simulation.Launch
import Std.Time.DateTime.Timestamp

/-!
# The program

Takes the settings from the environment and from the file `.env`, announces the gateway, sets the
poller to work and answers the requests on standard input, a line for each, until there are no
more. What is reported goes to standard error and to the audit file, where there is one.
-/

namespace DepositGateway

/-- The text of a file that can be read. -/
def readIfPresent (file : String) : IO (Option String) := do
  try return some (← IO.FS.readFile file) catch _ => return none

/-- The variables that are set, of those whose names are given. -/
def readVariables : List String → IO (List (String × String))
  | [] => return []
  | name :: rest => do
    let others ← readVariables rest
    match ← IO.getEnv name with
    | some value => return (name, value) :: others
    | none => return others

/-- The present moment in seconds. -/
def readSeconds : IO Int := return (← Std.Time.Timestamp.now).toSecondsSinceUnixEpoch.val

/-- A fresh key. -/
def drawKey : IO SecretKey := return ⟨(← IO.getRandomBytes 32).toList⟩

/-- Writes what is reported. -/
def writeLogs (setup : LogSetup) (world : World) : IO Unit := do
  let records := world.logs.reverse.map LogEntry.toRecord
  for line in setup.consoleLines records do IO.eprintln line
  for file in setup.auditFiles.eraseDups do
    IO.FS.withFile file .append fun handle => do
      for line in setup.auditLines file records do handle.putStrLn line

/-- Runs an action at the present moment and writes what it reports. -/
def runNow {α : Type} (setup : LogSetup) (action : Action World α) (world : World) :
    IO (Except Fault α × World) := do
  let (result, world) := action.apply (world.atMoment (← readSeconds) (← drawKey))
  writeLogs setup world
  return (result, world)

/-- Answers the requests of the lines that are left. -/
partial def answerLines (setup : LogSetup) (deployment : Deployment) (world : World) :
    IO World := do
  let line ← (← IO.getStdin).getLine
  if line.isEmpty then return world
  match Request.ofLine? line with
  | none =>
    IO.println (Response.toLine (.failure "bad_request"))
    answerLines setup deployment world
  | some request =>
    let (result, world) ← runNow setup (deployment.site.respond request) world
    let response := match result with
      | .ok response => response
      | .error _ => { status := 500 }
    IO.println response.toLine
    (← IO.getStdout).flush
    answerLines setup deployment world

/-- Whether there is a directory of a name. -/
def isDirectory (name : String) : IO Bool := do
  try
    let _ ← IO.FS.realPath (name ++ "/.")
    return true
  catch _ => return false

/-- The directories among paths. -/
def presentDirectories (paths : List Path) : IO (List Path) :=
  paths.filterM fun path => isDirectory path.text

/-- The paths whose directories matter: those of a file and of what it lies in. -/
def askedPaths (file : Path) : List Path := [file, file.parent]

/-- The paths that matter to settings. -/
def GatewaySettings.askedPaths (settings : GatewaySettings) : List Path :=
  let audit := (settings.auditLog.map Path.ofText).toList
  let table := (settings.databaseUrl.bind StoreKind.fileOfText?).toList
  (audit ++ table).flatMap DepositGateway.askedPaths

/-- Puts the gateway of the settings to work until its requests end. -/
def runGateway (settings : GatewaySettings) : IO UInt32 := do
  let directories ← presentDirectories settings.askedPaths
  match settings.setUp directories.contains with
  | .error fault =>
    IO.eprintln fault.text
    return 1
  | .ok (setup, plan) =>
    let deployment := Deployment.ofPlan plan
    let (_, world) ← runNow setup deployment.start (World.ofPlan plan)
    IO.println plan.announcement
    let world ← answerLines setup deployment world
    let _ ← runNow setup deployment.stop world
    return 0

/-- Reads the settings and runs the gateway, or says what is wrong with them. -/
def run : IO UInt32 := do
  let file ← readIfPresent ".env"
  let asked := GatewaySettings.fileSwitch :: GatewaySettings.variableNames
    ++ EnvFile.mentioned (file.getD "")
  let present ← readVariables asked
  match GatewaySettings.ofEnvironment (fun name => present.lookup name) file with
  | .ok (.good settings) => runGateway settings
  | .ok (.faulty faults) =>
    for (name, fault) in faults do IO.eprintln (name ++ " " ++ fault.text)
    return 1
  | .error fault =>
    IO.eprintln fault.text
    return 1

end DepositGateway

/-- The program. -/
def main : IO UInt32 := DepositGateway.run
