import DepositGateway.Gateway
import DepositGateway.Http.Route
import DepositGateway.Invoice.View
import DepositGateway.Json.Display
import DepositGateway.Json.Parser
import DepositGateway.Json.Printer
import DepositGateway.Text.Encoding

/-!
# The HTTP interface

Invoices are created and looked up over HTTP with JSON bodies. Every answer of a resource says
whether the request went well; keys of deposit addresses are never in an answer.

* `Order.ofBody`: what a request for a new invoice asks for, or what is wrong with it.
* `Request.path`: the path of a request; it fails where the request cannot be.
* `Site.answer`: the answer to a request for a path. It never fails: a fault that has no answer of
  its own is reported and answered with status 500.
-/

namespace DepositGateway

/-- A request. -/
structure Request where
  method : String
  target : String
  contentType : String := ""
  body : Bytes := []

/-- An answer; the body is absent where there is no JSON to give. -/
structure Response where
  status : Nat
  body : Option Json := none

namespace Response

/-- An answer that all went well. -/
def success (members : List (String × Json)) (status : Nat := 200) : Response :=
  ⟨status, some (.object (("ok", .bool true) :: members))⟩

/-- An answer that names what is wrong. -/
def failure (error : String) (status : Nat := 400) (more : List (String × Json) := []) : Response :=
  ⟨status, some (.object (("ok", .bool false) :: ("error", .text error) :: more))⟩

end Response

namespace Request

/-- A blank in a header. -/
def isHeaderBlank (c : Char) : Bool := c.toNat < 0x80 && isWordBlank c

/-- Whether the body is said to be JSON. -/
def isJson (request : Request) : Bool :=
  let kind := ((trimBlanks isHeaderBlank (request.contentType.toList.takeWhile (· != ';'))).map
    Char.toLower)
  let json := "application/json".toList
  let start := "application/".toList
  let ending := "+json".toList
  kind == json || (start.isPrefixOf kind && ending.isSuffixOf kind)

/-- The JSON value of the body; nothing where there is none that can be read. -/
def json? (request : Request) : Option Json :=
  if request.isJson then
    ((TextEncoding.ofBytes request.body).read? request.body).bind fun text =>
      Json.parse? text.toList
  else none

/-- The path of a request; a target or a header that cannot be is refused. -/
def path (request : Request) : Except Fault (List Char) := do
  let path ← Target.path request.target
  let kind := request.contentType.toList
  if kind.contains '\n' || kind.contains '\r' then .error .badValue else .ok path

end Request

/-! ## Orders for invoices -/

/-- What a request for a new invoice asks for. -/
structure Order where
  amount : Int
  expiresIn : Int
  method : PaymentMethod
  message : Bytes

/-- What is wrong with a request. -/
inductive OrderFault where
  | badRequest
  | invalidAmount
  | invalidExpiry
  | invalidToken
  | invalidMessage
  /-- A number of more digits than can be read. -/
  | unreadable
  deriving DecidableEq

namespace Order

/-- A whole number from zero on, as a number or as digits. -/
def wholeNumber (fault : OrderFault) : Json → Except OrderFault Int
  | .num (.int value) => if 0 ≤ value then .ok value else .error fault
  | .str units =>
    let digits := (Utf16.toText units).toList
    if digits.isEmpty || !digits.all Decimal.isDigit then .error fault
    else if Decimal.limit < digits.length then .error .unreadable
    else .ok (Decimal.value digits)
  | _ => .error fault

/-- What the invoice is paid in: the coin of the chain where no token is named. -/
def methodOf (rule : Address.CaseRule) (token : Json) : Except OrderFault PaymentMethod :=
  if token.truthy then
    match PaymentMethod.ofJson token rule with
    | .ok method => .ok method
    | .error _ => .error .invalidToken
  else .ok .native

/-- The bytes of a message in hexadecimal digits, with or without a mark. -/
def messageOf (message : Json) : Except OrderFault Bytes :=
  let text := if message.truthy then message.display.toList else []
  let digits := match text with
    | '0' :: 'x' :: rest => rest
    | _ => text
  match Bytes.ofSpacedHex? digits with
  | some bytes => .ok bytes
  | none => .error .invalidMessage

/-- What a body asks for. A body that is absent or empty asks for nothing, not even an amount. -/
def ofBody (rule : Address.CaseRule) (body : Option Json) : Except OrderFault Order := do
  let body := match body with
    | some value => if value.truthy then value else .obj []
    | none => .obj []
  match body with
  | .obj _ =>
    let amount ← wholeNumber .invalidAmount (body.memberOrNull "amount")
    let expiresIn ←
      wholeNumber .invalidExpiry ((body.member? "expires_in_seconds").getD (.int 3600))
    let method ← methodOf rule (body.memberOrNull "token_address")
    let message ← messageOf (body.memberOrNull "message")
    return { amount, expiresIn, method, message }
  | _ => .error .badRequest

end Order

namespace OrderFault

/-- The answer to a faulty request, or the fault that no answer is laid down for. -/
def toResponse : OrderFault → Except Fault Response
  | badRequest => .ok (.failure "bad_request")
  | invalidAmount => .ok (.failure "invalid_amount")
  | invalidExpiry => .ok (.failure "invalid_expiry")
  | invalidToken => .ok (.failure "invalid_token_address")
  | invalidMessage => .ok (.failure "invalid_message" 400 [("detail", .text "message must be hex")])
  | unreadable => .error .badValue

end OrderFault

/-! ## Answers -/

/-- A gateway that is served over HTTP. -/
structure Site (ω : Type) where
  gateway : Gateway ω
  /-- Whether the poller is at work. -/
  isPolling : ω → Bool
  /-- What is asked of the letters of a token address. -/
  addressRule : Address.CaseRule

namespace Site

variable {ω : Type} (site : Site ω)

/-- An invoice with its id. -/
def entry (id : InvoiceKey) (invoice : Invoice) : List (String × Json) :=
  [("id", id.toJson), ("invoice", invoice.view)]

/-- What is said of a malformed value. -/
def detailOf (fault : Fault) : String :=
  if fault = .tooManyDigits then
    "Exceeds the limit (4300 digits) for integer string conversion; "
      ++ "use sys.set_int_max_str_digits() to increase the limit"
  else if fault = .notANumber then "cannot convert float NaN to integer"
  else fault.text

/-- Creates an invoice; an invoice with values that cannot be is refused. -/
def create (order : Order) : Action ω Response := do
  match ← Action.attempt (site.gateway.newInvoice (.int order.amount) order.method order.message
      (.int order.expiresIn)) with
  | .ok (id, invoice) => return .success (entry (.text id) invoice) 201
  | .error fault =>
    if fault.isValue then return .failure "invalid_amount" 400 [("detail", .text (detailOf fault))]
    else Action.fail fault

/-- Answers a request for a new invoice. -/
def order (request : Request) : Action ω Response :=
  match Order.ofBody site.addressRule request.json? with
  | .ok order => site.create order
  | .error fault => Action.ofExcept fault.toResponse

/-- Answers a request for what a resource holds. -/
def lookUp (resource : Resource) : Action ω Response :=
  match resource with
  | .health => do
    let polling ← Action.read site.isPolling
    return .success [("status", .text "ok"), ("gateway", .text site.gateway.name),
      ("polling", .bool polling)]
  | .invoices => do
    let invoices ← site.gateway.invoices
    return .success [("count", .nat invoices.length),
      ("invoices", .arr (invoices.map fun (id, invoice) => .object (entry id invoice)))]
  | .latestInvoice => do
    let (id, invoice) ← site.gateway.latestInvoice
    return .success (entry id invoice)
  | .invoice id => do
    return .success (entry (.text id) (← site.gateway.invoice (.text id)))
  | .file => return { status := 404 }

/-- An answer that can be written; one with a number of too many digits cannot. -/
def written (response : Response) : Except Fault Response :=
  match response.body with
  | some body => if body.isWritable then .ok response else .error .tooManyDigits
  | none => .ok response

/-- Answers a request that has reached its resource. -/
def serve (request : Request) (resource : Resource) : Verb → Action ω Response
  | .get => do
    Action.ofExcept (written (← site.lookUp resource))
  | .head => do
    let response ← Action.ofExcept (written (← site.lookUp resource))
    return { response with body := none }
  | .post => do
    Action.ofExcept (written (← site.order request))
  | .options => return { status := 200 }

/-- The answer that a fault of the store has. -/
def ofStoreFault (fault : StoreFault) : Response :=
  let detail := [("detail", Json.text fault.text)]
  match fault with
  | .notFound _ => .failure "not_found" 404
  | .communicate _ => .failure "store_unavailable" 503 detail
  | .deserialize _ => .failure "corrupt_record" 500 detail
  | .serialize _ => .failure "serialize_failed" 500 detail
  | .general _ => .failure "store_error" 500 detail

/-- Answers a request at a resource, whatever comes of it. -/
def serveSafely (request : Request) (path : List Char) (resource : Resource) (verb : Verb) :
    Action ω Response := do
  match ← Action.attempt (site.serve request resource verb) with
  | .ok response => return response
  | .error (.store fault) =>
    let response := ofStoreFault fault
    return if verb = .head then { response with body := none } else response
  | .error fault => do
    site.gateway.journal.unhandled .http
      ("Exception on " ++ String.ofList path ++ " [" ++ request.method.toUpper ++ "]") fault
    return { status := 500 }

/-- Answers a request for a path. -/
def answer (request : Request) (path : List Char) : Action ω Response :=
  match Route.ofPath path (Verb.ofName? request.method.toUpper) with
  | .reached resource verb => site.serveSafely request path resource verb
  | .unknownPath => return { status := 404 }
  | .unknownVerb => return { status := 405 }
  | .elsewhere => return { status := 308 }

/-- Answers a request, unless it is no request that can be. -/
def respond (request : Request) : Action ω Response := do
  let path ← Action.ofExcept request.path
  if Target.namesServer request.target then site.answer request path
  else return { status := 400 }

end Site

end DepositGateway
