import DepositGateway.Http.Target

/-!
# Routes

Which resource a path names and which methods it has. Every resource also takes `OPTIONS`, and one
that takes `GET` takes `HEAD`.

* `Resource.ofSegments?`: the resource of a path.
* `Route.ofPath`: where a request goes.
-/

namespace DepositGateway

/-- What a path can name. -/
inductive Resource where
  | health
  | invoices
  | latestInvoice
  | invoice (id : String)
  /-- A file; there are none. -/
  | file
  deriving DecidableEq

/-- What a resource is asked to do. -/
inductive Verb where
  | get
  | head
  | post
  | options
  deriving DecidableEq

namespace Verb

/-- The verb of an upper-case method name. -/
def ofName? : String → Option Verb
  | "GET" => some get
  | "HEAD" => some head
  | "POST" => some post
  | "OPTIONS" => some options
  | _ => none

end Verb

namespace Resource

/-- The resource of a path; a part that must hold something is never empty. -/
def ofSegments? : List String → Option Resource
  | ["api", "v1", "health"] => some health
  | ["api", "v1", "invoices"] => some invoices
  | ["api", "v1", "invoices", "latest"] => some latestInvoice
  | ["api", "v1", "invoices", id] => if id.isEmpty then none else some (invoice id)
  | "static" :: name :: _ => if name.isEmpty then none else some file
  | _ => none

/-- Whether a resource has a verb. -/
def allows (resource : Resource) : Verb → Bool
  | .post => decide (resource = invoices)
  | _ => true

end Resource

/-- Where a request goes. -/
inductive Route where
  /-- To a resource. -/
  | reached (resource : Resource) (verb : Verb)
  /-- Nowhere: the path names nothing. -/
  | unknownPath
  /-- Nowhere: the resource has no such method. -/
  | unknownVerb
  /-- To the same path with fewer slashes. -/
  | elsewhere
  deriving DecidableEq

namespace Route

/-- Where a method goes at the resource of a path. -/
def ofResource (resource : Resource) (verb : Option Verb) : Route :=
  match verb with
  | some verb => if resource.allows verb then reached resource verb else unknownVerb
  | none => unknownVerb

/-- Where a request goes. A path that names nothing is tried once more with its slashes merged. -/
def ofPath (path : List Char) (verb : Option Verb) : Route :=
  match Resource.ofSegments? (Target.segments path) with
  | some resource => ofResource resource verb
  | none =>
    match Resource.ofSegments? (Target.segments (Target.mergeSlashes path)) with
    | some resource =>
      match ofResource resource verb with
      | reached _ _ => elsewhere
      | route => route
    | none => unknownPath

end Route

end DepositGateway
