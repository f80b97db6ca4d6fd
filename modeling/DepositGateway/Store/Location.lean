import DepositGateway.Json.Double
import DepositGateway.Text.Lowercase
import DepositGateway.Text.Parts
import DepositGateway.Text.Percent
import DepositGateway.Text.Visible

/-!
# Locations of databases

A location begins with the kind of the database, after which a driver may stand. Behind a colon and
two slashes follow, each where it is needed, a user with a password, a host with a port, the name of
the database and a query.

* `Location.ofText`: the parts of a location.
* `Location.parameters`: the query as names with their values.
-/

namespace DepositGateway

/-- A location in its parts. -/
structure Location where
  /-- The kind, perhaps with plus signs and drivers behind it. -/
  kind : List Char
  user : List Char
  password : List Char
  host : List Char
  port : Int
  database : List Char
  query : List Char

namespace Location

/-! ## Parts -/

/-- What may stand in the kind: letters, digits, underscores and plus signs. Beyond ASCII all that
can be seen is taken for a letter. -/
def isKindChar (c : Char) : Bool :=
  c.isAlphanum || c == '_' || c == '+' || (0x80 ≤ c.toNat && !Visible.isHidden c.toNat)

/-- User and password in front of an at sign, where there are any, and what follows. -/
def splitUser (text : List Char) : List Char × List Char × List Char :=
  let isOpen := fun c : Char => c != ':' && c != '/'
  let run := text.takeWhile isOpen
  let withoutPassword :=
    if run.contains '@' then
      let back := run.reverse
      ((back.dropWhile (· != '@')).drop 1 |>.reverse, [],
        (back.takeWhile (· != '@')).reverse ++ text.dropWhile isOpen)
    else ([], [], text)
  match text.dropWhile isOpen with
  | ':' :: rest =>
    match rest.dropWhile (· != '@') with
    | _ :: after => (run, rest.takeWhile (· != '@'), after)
    | [] => withoutPassword
  | _ => withoutPassword

/-- A host in brackets that a text begins with, and what follows it. -/
def bracketed? (text : List Char) : Option (List Char × List Char) :=
  match text with
  | '[' :: rest =>
    let isOpen := fun c : Char => c != '/' && c != '?'
    let back := (rest.takeWhile isOpen).reverse
    match back.dropWhile (· != ']') with
    | _ :: host =>
      if host.isEmpty then none
      else some (host.reverse, (back.takeWhile (· != ']')).reverse ++ rest.dropWhile isOpen)
    | [] => none
  | _ => none

/-- The host that a text begins with, where there is one, and what follows it. -/
def splitHost (text : List Char) : List Char × List Char :=
  match bracketed? text with
  | some result => result
  | none =>
    let isOpen := fun c : Char => c != '/' && c != ':' && c != '?'
    (text.takeWhile isOpen, text.dropWhile isOpen)

/-- The port that a text begins with behind a colon, where there is one, and what follows it. -/
def splitPort (text : List Char) : List Char × List Char :=
  match text with
  | ':' :: rest =>
    let isOpen := fun c : Char => c != '/' && c != '?'
    (rest.takeWhile isOpen, rest.dropWhile isOpen)
  | _ => ([], text)

/-- The number of a port, zero where there is none. -/
def portNumber (port : List Char) : Except Fault Int :=
  if port.isEmpty then .ok 0
  else
    match integerOfText? port with
    | some number => .ok number
    | none => .error .badValue

/-- The parts behind the kind. -/
def ofParts (kind text : List Char) : Except Fault Location := do
  let (user, password, text) := splitUser text
  let (host, text) := splitHost text
  let (port, text) := splitPort text
  let port ← portNumber port
  let database := match text with
    | '/' :: rest => rest.takeWhile (· != '?')
    | _ => []
  let query := ((text.dropWhile (· != '?')).drop 1).takeWhile (· != '\n')
  return { kind, user, password, host, port, database, query }

/-- The parts of a location. -/
def ofText (text : String) : Except Fault Location :=
  let kind := text.toList.takeWhile isKindChar
  match kind, text.toList.dropWhile isKindChar with
  | _ :: _, ':' :: '/' :: '/' :: rest => ofParts kind rest
  | _, _ => .error (.other ⟨.badLocation, none⟩)

/-- Whether the location is on another machine or asks for a user. -/
def isRemote (location : Location) : Bool :=
  !location.user.isEmpty || !location.password.isEmpty || !location.host.isEmpty
    || location.port != 0

/-! ## Query -/

/-- A name or a value in a query, in which a plus sign stands for a blank. -/
def queryText (text : List Char) : String :=
  String.ofList (Percent.decode (text.map fun c => if c = '+' then ' ' else c))

/-- The query as names with their values; a name without a value does not count. -/
def parameters (location : Location) : List (String × String) :=
  (partsBetween '&' location.query).filterMap fun part =>
    match part.dropWhile (· != '=') with
    | _ :: c :: rest => some (queryText (part.takeWhile (· != '=')), queryText (c :: rest))
    | _ => none

/-- The values of a name in the query. -/
def valuesOf (location : Location) (name : String) : List String :=
  (location.parameters.filter fun entry => entry.1 = name).map Prod.snd

end Location

end DepositGateway
