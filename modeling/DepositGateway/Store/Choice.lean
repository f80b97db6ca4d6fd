import DepositGateway.Store.Location
import DepositGateway.Text.Path

/-!
# The choice of a store

A location of a database chooses the durable store, its absence the volatile one. Of the kinds of
databases only the one that keeps everything in a file, or in memory, can be reached.

* `StoreKind.ofLocation`: the kind of store, or why there is none.
-/

namespace DepositGateway

/-- The two kinds of store. -/
inductive StoreKind where
  | memory
  | table
  deriving DecidableEq

namespace StoreKind

/-! ## Databases -/

/-- The drivers that reach a file. -/
def fileDrivers : List String := ["pysqlite", "base"]

/-- The kinds of databases, each with the drivers that are known but absent. A kind other than
files has none that is present, not even one of its own choice. -/
def absentDrivers : List (String × List String) :=
  [("sqlite", ["aiosqlite", "pysqlcipher"]),
   ("postgresql", ["base", "psycopg2", "psycopg", "asyncpg", "pg8000", "psycopg2cffi"]),
   ("mysql", ["base", "mysqldb", "pymysql", "mysqlconnector", "mariadbconnector", "aiomysql",
     "asyncmy", "cymysql", "pyodbc"]),
   ("mariadb", ["mysqldb", "pymysql", "mysqlconnector", "mariadbconnector", "aiomysql", "asyncmy",
     "cymysql", "pyodbc"]),
   ("oracle", ["base", "cx_oracle", "oracledb"]),
   ("mssql", ["base", "pyodbc", "pymssql", "aioodbc"])]

/-- Refuses a kind of database that is not known or cannot be reached. -/
def checkKind (kind : List Char) : Except Fault Unit :=
  let unknown : Except Fault Unit := .error (.other ⟨.unknownDatabase, none⟩)
  let missing : Except Fault Unit := .error (.other ⟨.missingDatabase, none⟩)
  match (partsBetween '+' kind).map String.ofList with
  | [name] =>
    if name = "sqlite" then .ok ()
    else if (absentDrivers.lookup name).isSome then missing
    else unknown
  | [name, driver] =>
    if name = "sqlite" && fileDrivers.contains driver then .ok ()
    else if ((absentDrivers.lookup name).getD []).contains driver then missing
    else unknown
  | _ => .error .badValue

/-! ## Parameters -/

/-- Whether a text is a word for a truth value. -/
def isFlag (text : String) : Bool :=
  ["true", "yes", "on", "y", "t", "1", "false", "no", "off", "n", "f", "0"].contains
    (lowerCase (String.ofList (trimBlanks isWordBlank text.toList)))

/-- Whether a text spells an integer. -/
def isInteger (text : String) : Bool := (integerOfText? text.toList).isSome

/-- Whether a text spells a double. -/
def isDouble (text : String) : Bool := (doubleOfText? text.toList).isSome

/-- Refuses a parameter whose value is malformed, or of which there are several numbers. -/
def checkParameter (location : Location) (name : String) (isNumber : Bool)
    (test : String → Bool) : Except Fault Unit :=
  match location.valuesOf name with
  | [] => .ok ()
  | [value] => if test value then .ok () else .error .badValue
  | _ => if isNumber then .error .badType else .ok ()

/-- Refuses malformed parameters of the connection to a file. -/
def checkParameters (location : Location) : Except Fault Unit := do
  checkParameter location "uri" false isFlag
  checkParameter location "timeout" true isDouble
  checkParameter location "detect_types" true isInteger
  checkParameter location "check_same_thread" false isFlag
  checkParameter location "cached_statements" true isInteger

/-! ## Files -/

/-- The file of a database; none for one that is kept in memory. -/
def fileOf? (location : Location) : Option Path :=
  let name := String.ofList location.database
  if name.isEmpty || name = ":memory:" then none else some (Path.ofText name)

/-- The file that a location names, where it names one. -/
def fileOfText? (text : String) : Option Path :=
  match Location.ofText text with
  | .ok location => fileOf? location
  | .error _ => none

/-- Refuses a file that cannot be one; `isDirectory` tells which directories there are. -/
def checkFile (isDirectory : Path → Bool) (location : Location) : Except Fault Unit :=
  match fileOf? location with
  | none => .ok ()
  | some path =>
    if location.database.contains '\x00' then .error .badValue
    else if (path.obstacle? isDirectory).isSome then
      .error (.store (.communicate "Could not initialise invoice table"))
    else .ok ()

/-! ## Choice -/

/-- Refuses a location at which no table can be kept. -/
def checkLocation (isDirectory : Path → Bool) (location : Location) : Except Fault Unit := do
  if (location.valuesOf "plugin").isEmpty then
    checkKind location.kind
    if location.isRemote then .error (.other ⟨.badLocation, none⟩)
    else
      checkParameters location
      checkFile isDirectory location
  else .error (.other ⟨.unknownDatabase, none⟩)

/-- The kind of store for a location; `isDirectory` tells which directories there are. -/
def ofLocation (isDirectory : Path → Bool) (text : Option String) : Except Fault StoreKind :=
  match text with
  | none => .ok memory
  | some text =>
    if text.isEmpty then .ok memory
    else do
      checkLocation isDirectory (← Location.ofText text)
      return table

end StoreKind

end DepositGateway
