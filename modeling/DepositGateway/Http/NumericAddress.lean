import DepositGateway.Bytes.Hex
import DepositGateway.Decimal.Integer
import DepositGateway.Text.Parts

/-!
# Numeric addresses

A numeric address is eight groups of hexadecimal digits between colons. Two colons side by side
stand for as many groups of zeros as are missing, and the last two groups may be written as four
octets between dots. Behind a percent sign the name of a zone may follow.

* `NumericAddress.isWritten`: whether a text is one.
* `NumericAddress.isVersioned`: whether a text is one of a later version, which is named first.
-/

namespace DepositGateway

namespace NumericAddress

/-- A number below 256 without leading zeros. -/
def isOctet (text : List Char) : Bool :=
  !text.isEmpty && text.length ≤ 3 && text.all Decimal.isDigit
    && Decimal.value text < 256 && (text.length = 1 || text.head? != some '0')

/-- Up to four hexadecimal digits. -/
def isGroup (text : List Char) : Bool :=
  !text.isEmpty && text.length ≤ 4 && text.all isHexDigit

/-- Four octets between dots. -/
def areOctets (text : List Char) : Bool :=
  let octets := partsBetween '.' text
  octets.length = 4 && octets.all isOctet

/-- The groups of a text. Four octets at the end are two groups, whatever those are. -/
def groups? (text : List Char) : Option (List (List Char)) :=
  let parts := partsBetween ':' text
  let last := parts.getLastD []
  if parts.length < 3 then none
  else if last.contains '.' then
    if areOctets last then some (parts.dropLast ++ [['0'], ['0']]) else none
  else some parts

/-- The groups on one side of a gap, at the end of which there may be none. -/
def side? (groups : List (List Char)) : Option Nat :=
  if groups = [[]] then some 0
  else if groups.all isGroup then some groups.length
  else none

/-- Whether groups are eight, or fewer around a single gap. -/
def areGroups (groups : List (List Char)) : Bool :=
  let inner := (groups.drop 1).dropLast
  match inner.dropWhile (!·.isEmpty) with
  | [] => groups.length = 8 && groups.all isGroup
  | _ :: after =>
    match side? (groups.take 1 ++ inner.takeWhile (!·.isEmpty)),
      side? (after ++ [groups.getLastD []]) with
    | some before, some behind => before + behind < 8
    | _, _ => false

/-- Whether the name of a zone follows, where a percent sign announces one. -/
def hasZone (text : List Char) : Bool :=
  match text.dropWhile (· != '%') with
  | [] => true
  | _ :: zone => !zone.isEmpty && !zone.contains '%'

/-- Whether a text is a numeric address. -/
def isWritten (text : List Char) : Bool :=
  hasZone text && ((groups? (text.takeWhile (· != '%'))).map areGroups).getD false

/-- Whether a text is a numeric address of a later version: a number behind the letter, a dot and
what only that version knows. -/
def isVersioned (text : List Char) : Bool :=
  match text with
  | 'v' :: rest =>
    let version := rest.takeWhile (· != '.')
    !version.isEmpty && version.all isHexDigit && 1 < rest.length - version.length
  | _ => false

end NumericAddress

end DepositGateway
