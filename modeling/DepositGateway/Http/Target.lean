import DepositGateway.Http.Authority
import DepositGateway.Text.Parts
import DepositGateway.Text.Percent

/-!
# Request targets

A target is a path, which a scheme and an authority may stand in front of and a query or a fragment
may follow.

* `Target.path`: the characters of the path, beginning with one slash.
* `Target.namesServer`: whether the server is named by what can be a host.
* `Target.segments`: what stands between the slashes of a path.
-/

namespace DepositGateway

/-- A target in its parts; the rest is a path with all that follows it. -/
structure Target where
  scheme : List Char
  authority : List Char
  rest : List Char
  deriving DecidableEq

namespace Target

/-! ## Parts -/

/-- The target without blanks and control characters in front and without breaks and tabs. -/
def clean (target : List Char) : List Char :=
  (target.dropWhile fun c => c.toNat ≤ 0x20).filter fun c => c != '\t' && c != '\n' && c != '\r'

/-- What may stand in a scheme. -/
def isSchemeChar (c : Char) : Bool := c.isAlphanum || c == '+' || c == '-' || c == '.'

/-- The scheme in front of the first colon, where there is one, and what follows the colon. -/
def splitScheme (target : List Char) : List Char × List Char :=
  let scheme := target.takeWhile isSchemeChar
  match scheme, target.dropWhile isSchemeChar with
  | first :: _, ':' :: rest => if first.isAlpha then (scheme, rest) else ([], target)
  | _, _ => ([], target)

/-- The authority behind two slashes, where there is one, and what follows it. -/
def splitAuthority : List Char → List Char × List Char
  | '/' :: '/' :: rest =>
    let stop := fun c : Char => c != '/' && c != '?' && c != '#'
    (rest.takeWhile stop, rest.dropWhile stop)
  | target => ([], target)

/-- The parts of a target. -/
def split (target : List Char) : Except Fault Target :=
  let (scheme, behind) := splitScheme (clean target)
  let (authority, rest) := splitAuthority behind
  if Authority.isReadable authority then .ok { scheme, authority, rest }
  else .error .badValue

/-- The part before a query or a fragment. -/
def dropQuery (target : List Char) : List Char :=
  target.takeWhile fun c => c != '?' && c != '#'

/-! ## The path -/

/-- Refuses an authority that cannot be. -/
def checkAuthority (target : Target) : Except Fault Unit :=
  (Authority.ofText target.authority).check

/-- The parts of a target joined again, in lower case up to the path. -/
def join (target : Target) : List Char :=
  let authority := (Authority.ofText target.authority).plain
  let start := if authority.isEmpty then [] else ['/', '/'] ++ authority
  let scheme := if target.scheme.isEmpty then [] else target.scheme.map Char.toLower ++ [':']
  scheme ++ start ++ target.rest

/-- The text with one slash in front, unless it is empty. -/
def rooted : List Char → List Char
  | [] => []
  | text => '/' :: text.dropWhile (· == '/')

/-- The path with one slash in front. Scheme and authority of the server come first and then those
of a proxy; what would be another authority belongs to the path, but must be one that can be. -/
def path (target : String) : Except Fault (List Char) := do
  let server ← split target.toList
  let proxied ← split server.rest
  let last ← split (dropQuery proxied.rest)
  last.checkAuthority
  server.checkAuthority
  return rooted (Percent.decode last.join)

/-- Whether the text that a target names its server by, up to the first colon, can be a host. A
user is part of that text. -/
def namesServer (target : String) : Bool :=
  match split target.toList with
  | .ok server =>
    Authority.isHost ((Authority.ofText server.authority).plain.takeWhile (· != ':'))
  | .error _ => false

/-! ## Segments -/

/-- What stands between the slashes of a path, its first slash apart. -/
def segments (path : List Char) : List String :=
  (partsBetween '/' (path.drop 1)).map String.ofList

/-- The path with each run of slashes made one. -/
def mergeSlashes : List Char → List Char
  | '/' :: '/' :: rest => mergeSlashes ('/' :: rest)
  | c :: rest => c :: mergeSlashes rest
  | [] => []

end Target

end DepositGateway
