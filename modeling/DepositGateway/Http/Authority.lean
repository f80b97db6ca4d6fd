import DepositGateway.Fault
import DepositGateway.Http.NumericAddress
import DepositGateway.Text.Lowercase
import DepositGateway.Text.Parts

/-!
# Authorities

The authority of a target names a host, before which a user may stand and after which a port. A
host in square brackets is a numeric address.

* `Authority.ofText`: the parts of an authority.
* `Authority.check`: whether host and port can be.
-/

namespace DepositGateway

/-- An authority in its parts. -/
structure Authority where
  user : List Char
  host : List Char
  port : List Char
  deriving DecidableEq

namespace Authority

/-! ## Parts -/

/-- What stands after the last at sign. -/
def withoutUser (text : List Char) : List Char :=
  (text.reverse.takeWhile (· != '@')).reverse

/-- What stands in front of the last at sign. -/
def userOf (text : List Char) : List Char :=
  ((text.reverse.dropWhile (· != '@')).drop 1).reverse

/-- What stands behind the first of a character. -/
def behind (mark : Char) (text : List Char) : List Char :=
  (text.dropWhile (· != mark)).drop 1

/-- The parts of an authority. -/
def ofText (text : List Char) : Authority :=
  let place := withoutUser text
  if place.contains '[' then
    let inside := behind '[' place
    { user := userOf text, host := inside.takeWhile (· != ']'),
      port := behind ':' (behind ']' inside) }
  else
    { user := userOf text, host := place.takeWhile (· != ':'), port := behind ':' place }

/-! ## Text -/

/-- The characters that stand for a separator in another form, alone or among others. -/
def hiddenSeparators : List Nat :=
  [0x2047, 0x2048, 0x2049, 0x2100, 0x2101, 0x2105, 0x2106, 0x2a74, 0xfe13, 0xfe16, 0xfe55, 0xfe56,
   0xfe5f, 0xfe6b, 0xff03, 0xff0f, 0xff1a, 0xff1f, 0xff20]

/-- Whether a text in brackets is a numeric address. -/
def isNumeric (text : List Char) : Bool :=
  if text.head? = some 'v' then NumericAddress.isVersioned text
  else NumericAddress.isWritten text

/-- Whether brackets come in twos around a numeric address and no separator is hidden. -/
def isReadable (text : List Char) : Bool :=
  let opens := text.contains '['
  (opens == text.contains ']')
    && (!opens || isNumeric ((behind '[' text).takeWhile (· != ']')))
    && text.all fun c => !hiddenSeparators.contains c.toNat

/-! ## Host and port -/

/-- The labels of a host, which stand between dots. -/
def labels (host : List Char) : List (List Char) := partsBetween '.' host

/-- Whether a host can be: no label is too long, and only the last one may be empty. -/
def isHost (host : List Char) : Bool :=
  (labels host).all (fun label => label.length < 64)
    && (labels host).dropLast.all fun label => !label.isEmpty

/-- The number of a port, zero where there is none. -/
def portNumber? (port : List Char) : Option Nat :=
  if port.all Decimal.isDigit ∧ port.length ≤ Decimal.limit ∧ Decimal.value port < 65536
  then some (Decimal.value port)
  else none

/-- Refuses a host or a port that cannot be. -/
def check (authority : Authority) : Except Fault Unit :=
  if !isHost authority.host then .error (.other ⟨.badHost, none⟩)
  else if (portNumber? authority.port).isNone then .error .badValue
  else .ok ()

/-- The host in lower case, with the user before it and the port after it where they are any. -/
def plain (authority : Authority) : List Char :=
  let host := (lowerCase (String.ofList authority.host)).toList
  let user := if authority.user.isEmpty then [] else authority.user ++ ['@']
  let port := match portNumber? authority.port with
    | some (port + 1) => ':' :: (Decimal.text (port + 1)).toList
    | _ => []
  user ++ host ++ port

end Authority

end DepositGateway
