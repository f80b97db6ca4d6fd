import DepositGateway.Http.Api
import DepositGateway.Proofs.Run.Log
import DepositGateway.Proofs.Store.Collects

/-!
# Looking invoices up

While new invoices are collected in the store, what is looked up is told by their list alone.

* `Invoice.isShowable`: an invoice whose view can be written. `Invoice.isShowable_eq`: a pending one
  can be shown if its last moment can be written.
* `Request.Reaches`: a request comes to a resource.
* `Site.told?`: what is told of a list of invoices. `Site.Serves.tells`: it is told.
* `Site.Serves.apply_passive`: a request that asks for nothing new leaves the list as it is.
-/

namespace DepositGateway

variable {ω : Type}

namespace Invoice

/-- Whether the view of an invoice can be written: whether its numbers are within the limit of
digits. -/
def isShowable (invoice : Invoice) : Bool := invoice.view.isWritable

/-- Of the numbers of a pending invoice the last moment alone can be too long. -/
theorem isShowable_eq {invoice : Invoice} {expires : Int} (hpaidAt : invoice.paidAt = .int 0)
    (hexpires : invoice.expires = .int expires) (hreceipt : invoice.receipt = .null)
    (hhash : invoice.hash = .null) :
    invoice.isShowable = (Number.int expires).isWritable := by
  have htoken : (Json.textOrNull invoice.method.tokenAddress?).isWritable = true := by
    cases invoice.method <;> rfl
  have hzero : (Number.int 0).isWritable = true := by decide +kernel
  simp only [isShowable, view, publicFields, Json.object, List.map_cons, List.map_nil,
    Json.isWritable, Json.membersAreWritable, Json.text, htoken, hpaidAt, hexpires, hreceipt,
    hhash, hzero, Bool.and_true, Bool.true_and]

theorem New.isShowable_eq {invoice : Invoice} {expires : Int} (h : invoice.New)
    (hexpires : invoice.expires = .int expires) :
    invoice.isShowable = (Number.int expires).isWritable :=
  Invoice.isShowable_eq h.paidAt hexpires h.receipt h.hash

end Invoice

/-! ## Requests -/

/-- A request comes to a resource. -/
structure Request.Reaches (request : Request) (path : List Char) (resource : Resource)
    (verb : Verb) : Prop where
  reads : request.path = .ok path
  server : Target.namesServer request.target = true
  route : Route.ofPath path (Verb.ofName? request.method.toUpper) = .reached resource verb

/-- A request comes to one resource. -/
theorem Request.Reaches.verb_unique {request : Request} {path other : List Char}
    {resource place : Resource} {verb name : Verb} (h : request.Reaches path resource verb)
    (hother : request.Reaches other place name) : verb = name := by
  obtain rfl : path = other := Except.ok.inj (h.reads.symm.trans hother.reads)
  cases h.route.symm.trans hother.route
  rfl

/-- A request that comes to a resource is served there. -/
theorem Site.apply_respond {site : Site ω} {w : ω} {request : Request} {path : List Char}
    {resource : Resource} {verb : Verb} (h : request.Reaches path resource verb) :
    (site.respond request).apply w = (site.serveSafely request path resource verb).apply w := by
  simp only [respond, Action.apply_bind, h.reads, Action.apply_ofExcept, h.server, if_true]
  rw [answer, h.route]

/-! ## What is told -/

namespace Site

variable {site : Site ω} {listing : Listing} {w : ω}

/-- The answer that shows a list of invoices with their number. -/
def shownAll (listing : Listing) : Response :=
  .success [("count", .nat listing.length),
    ("invoices", .arr (listing.map fun (id, invoice) => .object (entry (.text id) invoice)))]

/-- What is told of a single invoice, or status 500 where it cannot be written. -/
def toldOne (id : String) (invoice : Invoice) : Response :=
  if invoice.isShowable then .success (entry (.text id) invoice) else { status := 500 }

/-- What is told of a list of invoices: all of them with their number, the last one, or the one of
an id; nothing of them at any other resource. All are told only where each can be written, and
their number as well. -/
def told? (listing : Listing) : Resource → Option Response
  | .invoices => some <|
    if listing.all (·.2.isShowable) ∧ (Number.int listing.length).isWritable then
      shownAll listing
    else { status := 500 }
  | .latestInvoice => some <|
    match listing.getLast? with
    | some (id, invoice) => toldOne id invoice
    | none => .failure "not_found" 404
  | .invoice id => some <|
    match listing.find? id with
    | some invoice => toldOne id invoice
    | none => .failure "not_found" 404
  | .health | .file => none

/-- What is looked up, before it is written. -/
def lookedUp (site : Site ω) (listing : Listing) (w : ω) : Resource → Except Fault Response
  | .health => .ok (.success [("status", .text "ok"), ("gateway", .text site.gateway.name),
      ("polling", .bool (site.isPolling w))])
  | .invoices => .ok (shownAll listing)
  | .latestInvoice =>
    match listing.getLast? with
    | some (id, invoice) => .ok (.success (entry (.text id) invoice))
    | none => .error (.store (.notFound ""))
  | .invoice id =>
    match listing.find? id with
    | some invoice => .ok (.success (entry (.text id) invoice))
    | none => .error (.store (.notFound id))
  | .file => .ok { status := 404 }

/-- A store that collects new invoices, wherever `Holds` says which, is all of the world that
matters. -/
structure Serves (site : Site ω) (Holds : Listing → ω → Prop) : Prop where
  collects : site.gateway.store.Collects Holds
  keeps : site.gateway.Keeps fun w w' => ∀ listing, Holds listing w → Holds listing w'

variable {Holds : Listing → ω → Prop}

theorem Serves.apply_lookUp (hs : site.Serves Holds) (h : Holds listing w) (resource : Resource) :
    (site.lookUp resource).apply w = (site.lookedUp listing w resource, w) := by
  cases resource with
  | health => rfl
  | file => rfl
  | invoices =>
    simp only [lookUp, Gateway.invoices, Action.apply_bind, hs.collects.getAll h, Action.apply_pure,
      lookedUp, List.length_map, List.map_map]
    rfl
  | latestInvoice =>
    simp only [lookUp, Gateway.latestInvoice, Action.apply_bind, hs.collects.latest h, lookedUp]
    cases listing.getLast? <;> rfl
  | invoice id =>
    simp only [lookUp, Gateway.invoice, Action.apply_bind, hs.collects.get id h, lookedUp]
    cases listing.find? id <;> rfl

/-! ## Answers -/

/-- The answer to a request, given what was found for it. -/
def answerOf (found : Except Fault Response) : Response :=
  match found >>= written with
  | .ok response => response
  | .error (.store fault) => ofStoreFault fault
  | .error _ => { status := 500 }

/-- An answer that shows an invoice can be written if the invoice can. -/
theorem written_entry (id : String) (invoice : Invoice) (status : Nat) :
    written (.success (entry (.text id) invoice) status) =
      if invoice.isShowable then .ok (.success (entry (.text id) invoice) status)
      else .error .tooManyDigits := by
  simp only [written, Response.success, entry, Json.object, List.map_cons, List.map_nil,
    Json.isWritable, Json.membersAreWritable, Json.text, InvoiceKey.toJson, Bool.true_and,
    Bool.and_true, Invoice.isShowable]

/-- A list of invoices can be written if each of them can, and their number. -/
theorem written_shownAll (listing : Listing) :
    written (shownAll listing) =
      if listing.all (·.2.isShowable) ∧ (Number.int listing.length).isWritable then
        .ok (shownAll listing)
      else .error .tooManyDigits := by
  have hitems : Json.areWritable (listing.map fun (id, invoice) =>
      .object (entry (.text id) invoice)) = listing.all (·.2.isShowable) := by
    rw [Bool.eq_iff_iff, Json.areWritable_iff, List.forall_mem_map, List.all_eq_true]
    simp only [entry, Json.object, List.map_cons, List.map_nil, Json.isWritable,
      Json.membersAreWritable, Json.text, InvoiceKey.toJson, Bool.true_and, Bool.and_true,
      Invoice.isShowable]
  unfold shownAll
  generalize (listing.map fun (id, invoice) => Json.object (entry (.text id) invoice)) = items
    at hitems
  simp only [written, Response.success, Json.object, List.map_cons, List.map_nil,
    Json.isWritable, Json.membersAreWritable, hitems, Bool.true_and, Bool.and_true,
    Bool.and_eq_true, and_comm]

/-- An answer that cannot be written gives way to status 500. -/
theorem answerOf_ok {response : Response} {p : Prop} [Decidable p]
    (h : written response = if p then .ok response else .error .tooManyDigits) :
    answerOf (.ok response) = if p then response else { status := 500 } := by
  by_cases hp : p
  · rw [if_pos hp] at h
    simp only [answerOf, bind, Except.bind, h, if_pos hp]
  · rw [if_neg hp] at h
    simp only [answerOf, bind, Except.bind, h, if_neg hp, Fault.tooManyDigits]

/-- What is told is what is answered. -/
theorem answerOf_lookedUp {resource : Resource} {response : Response}
    (h : told? listing resource = some response) :
    answerOf (site.lookedUp listing w resource) = response := by
  have hone (id : String) (invoice : Invoice) :
      answerOf (.ok (.success (entry (.text id) invoice))) = toldOne id invoice :=
    answerOf_ok (written_entry id invoice 200)
  cases resource with
  | health => cases h
  | file => cases h
  | invoices =>
    cases h
    exact answerOf_ok (written_shownAll listing)
  | latestInvoice =>
    cases h
    rw [lookedUp]
    cases listing.getLast? with
    | none => rfl
    | some entry => exact hone entry.1 entry.2
  | invoice id =>
    cases h
    rw [lookedUp]
    cases listing.find? id with
    | none => rfl
    | some invoice => exact hone id invoice

/-- An answer that neither tells of a creation nor of a faulty request. -/
def Passive (response : Response) : Prop := response.status ≠ 201 ∧ response.status ≠ 400

theorem passive_ofStoreFault (fault : StoreFault) : Passive (ofStoreFault fault) := by
  cases fault <;> simp [Passive, ofStoreFault, Response.failure]

theorem passive_lookedUp {resource : Resource} {response : Response}
    (h : site.lookedUp listing w resource = .ok response) : Passive response := by
  cases resource with
  | latestInvoice | invoice id =>
    rw [lookedUp] at h
    split at h <;> cases h
    simp [Passive, Response.success]
  | _ =>
    cases h
    simp [Passive, Response.success, shownAll]

theorem eq_of_written {response sent : Response} (h : written response = .ok sent) :
    sent = response := by
  unfold written at h
  split at h
  · split at h <;> cases h
    rfl
  · cases h
    rfl

/-- A request for what there is is answered, and the list stays as it is. -/
theorem Serves.apply_get (hs : site.Serves Holds) (h : Holds listing w) (request : Request)
    (path : List Char) (resource : Resource) :
    ∃ w', (site.serveSafely request path resource .get).apply w =
      (.ok (answerOf (site.lookedUp listing w resource)), w') ∧ Holds listing w' := by
  have hserved : (site.serve request resource .get).apply w =
      (site.lookedUp listing w resource >>= written, w) := by
    simp only [serve, Action.apply_bind, hs.apply_lookUp h]
    cases site.lookedUp listing w resource <;> rfl
  rw [serveSafely, Action.apply_attempt_bind, hserved]
  unfold answerOf
  cases site.lookedUp listing w resource >>= written with
  | ok response => exact ⟨w, rfl, h⟩
  | error fault =>
    cases fault with
    | store fault => exact ⟨w, rfl, h⟩
    | _ => exact ⟨_, rfl, hs.keeps.journal _ w listing h⟩

/-- What is told of the list is the answer to who asks for it. -/
theorem Serves.tells (hs : site.Serves Holds) (h : Holds listing w) (request : Request)
    (path : List Char) {resource : Resource} {response : Response}
    (htold : told? listing resource = some response) :
    ((site.serveSafely request path resource .get).apply w).1 = .ok response := by
  obtain ⟨w', happly, -⟩ := hs.apply_get h request path resource
  rw [happly, answerOf_lookedUp htold]

theorem passive_answerOf (resource : Resource) :
    Passive (answerOf (site.lookedUp listing w resource)) := by
  unfold answerOf
  split
  · next response hwritten =>
    obtain ⟨found, hfound, hwritten⟩ := ok_of_bind hwritten
    rw [eq_of_written hwritten]
    exact passive_lookedUp hfound
  · exact passive_ofStoreFault _
  · simp [Passive]

/-- A request that asks for nothing new leaves the list as it is. -/
theorem Serves.apply_passive (hs : site.Serves Holds) (h : Holds listing w) (request : Request)
    (path : List Char) (resource : Resource) {verb : Verb} (hverb : verb ≠ .post) :
    ∃ response w', (site.serveSafely request path resource verb).apply w = (.ok response, w') ∧
      Holds listing w' ∧ Passive response := by
  cases verb with
  | post => exact absurd rfl hverb
  | get =>
    obtain ⟨w', happly, hholds⟩ := hs.apply_get h request path resource
    exact ⟨_, w', happly, hholds, passive_answerOf resource⟩
  | options => exact ⟨_, w, rfl, h, by simp [Passive]⟩
  | head =>
    have hserved : (site.serve request resource .head).apply w =
        (do
          let response ← site.lookedUp listing w resource >>= written
          return { response with body := none }, w) := by
      simp only [serve, Action.apply_bind, hs.apply_lookUp h]
      cases hfound : site.lookedUp listing w resource with
      | error fault => rfl
      | ok found =>
        simp only [Action.apply_ofExcept]
        cases hwritten : written found with
        | error fault => simp only [hwritten, bind, Except.bind]
        | ok response =>
          simp only [hwritten, bind, Except.bind]
          rfl
    rw [serveSafely, Action.apply_attempt_bind, hserved]
    cases hwritten : site.lookedUp listing w resource >>= written with
    | ok response =>
      obtain ⟨found, hfound, hwritten⟩ := ok_of_bind hwritten
      obtain rfl := eq_of_written hwritten
      have hpassive := passive_lookedUp hfound
      exact ⟨_, w, rfl, h, hpassive⟩
    | error fault =>
      cases fault with
      | store fault => exact ⟨_, w, rfl, h, passive_ofStoreFault fault⟩
      | _ => exact ⟨_, _, rfl, hs.keeps.journal _ w listing h, by simp [Passive]⟩

end Site

end DepositGateway
