import DepositGateway.Http.Api
import DepositGateway.Json.Printer

/-!
# Requests and answers in lines

A request is a JSON object on a line of its own, with its method, its target and, where there are
any, its body and the kind of its body. Its answer is a JSON object on a line of its own.
-/

namespace DepositGateway

/-- The text of a member that must be one. -/
def textMember? (value : Json) (name : String) : Option String :=
  match value.memberOrNull name with
  | .str units => Utf16.toString? units
  | _ => none

/-- The request of a line. A body without a kind is taken for JSON. -/
def Request.ofLine? (line : String) : Option Request := do
  let value ← Json.parse? line.toList
  let method ← textMember? value "method"
  let target ← textMember? value "path"
  match textMember? value "body" with
  | some body =>
    let contentType := (textMember? value "content_type").getD "application/json"
    some { method, target, contentType, body := body.toUTF8.toList }
  | none => some { method, target, contentType := (textMember? value "content_type").getD "" }

/-- The line of an answer. -/
def Response.toLine (response : Response) : String :=
  String.ofList (Json.print (.object [("status", .nat response.status),
    ("body", response.body.getD .null)]))

end DepositGateway
