import DepositGateway.Proofs.Http.Creation
import DepositGateway.Proofs.Http.Lookup

/-!
# Invoices are read back as they were announced

The answers of a site tell what it has in its store, whatever it is asked. One with status 201 shows
the invoice that was stored. A refusal leaves nothing, but for one kind: an invoice whose last
moment has too many digits is stored before it is refused, and what it belongs to cannot be shown
any more.

* `Gateway.Provides`: what is needed of a gateway that is asked for a new invoice.
  `Gateway.newInvoice_adds`: the creation is given up, or the invoice is added to the list.
* `Site.Leaves`: what an answer leaves in the store. `Site.Serves.respond_leaves`: one request.
* `Site.StartsEmpty`, `Site.read_back`: any requests, from an empty store of either kind.
-/

namespace DepositGateway

variable {ω : Type}

/-! ## Creation -/

/-- A gateway that is asked for a new invoice issues a key for an address in checksum form and does
not read a time below zero, and the invoice would be stored under an id that is not there. -/
structure Gateway.Provides (gateway : Gateway ω) (rule : Address.CaseRule) (given : Option Json)
    (w : ω) (address : String) (key : SecretKey) (w₁ : ω) : Prop where
  issues : gateway.issueKey.apply w = (.ok (address, key), w₁)
  checksum : Address.checksum? address = some address
  wallet : key.bytes ≠ []
  nonneg : ∀ seconds, (gateway.clock w₁).1.toInteger = .ok seconds → 0 ≤ seconds
  fresh : ∀ order millis, Order.ofBody rule given = .ok order → order.amount < Amount.bound →
    wholeMillis (gateway.clock (gateway.clock w₁).2).1 = .ok millis →
    ((gateway.store.get (.text (invoiceId address millis))).apply
      (gateway.clock (gateway.clock w₁).2).2).1 =
        .error (.store (.notFound (invoiceId address millis)))

theorem Number.toInteger_eq_error {number : Number} {fault : Fault}
    (h : number.toInteger = .error fault) : fault = .notANumber ∨ fault = .overflow := by
  unfold Number.toInteger at h
  split at h
  · cases h
  · split at h
    · cases h
    · cases h
      split
      · exact .inl rfl
      · exact .inr rfl

/-- What ends a creation before anything is stored. -/
inductive GivenUp : Fault → Prop
  | notANumber : GivenUp .notANumber
  | overflow : GivenUp .overflow
  | outOfRange : GivenUp (.invalid Amount.outOfRange)
  | unserializable : GivenUp Invoice.unserializable

theorem GivenUp.of_toInteger {number : Number} {fault : Fault}
    (h : number.toInteger = .error fault) : GivenUp fault := by
  rcases Number.toInteger_eq_error h with rfl | rfl
  · exact .notANumber
  · exact .overflow

theorem Json.text_inj {first second : String} :
    Json.text first = Json.text second ↔ first = second := by
  refine ⟨fun h => ?_, congrArg Json.text⟩
  rw [← Utf16.toText_ofString first, Json.str.inj h, Utf16.toText_ofString]

namespace Gateway

variable {gateway : Gateway ω} {Holds : Listing → ω → Prop} {listing : Listing} {w w₁ : ω}
  {rule : Address.CaseRule} {given : Option Json} {address : String} {key : SecretKey}

/-- A creation is given up before anything is stored, or an invoice is added to the list, which is
answered if it can be shown. -/
theorem newInvoice_adds (collects : gateway.store.Collects Holds)
    (keeps : gateway.Keeps fun w w' => ∀ listing, Holds listing w → Holds listing w')
    (h : Holds listing w) (provides : gateway.Provides rule given w address key w₁) {order : Order}
    (hread : Order.ofBody rule given = .ok order) :
    ∃ result w', (gateway.newInvoice (.int order.amount) order.method order.message
        (.int order.expiresIn)).apply w = (result, w') ∧
      ((∃ fault, result = .error fault ∧ GivenUp fault ∧ Holds listing w') ∨
        ∃ id invoice,
          result = (if invoice.isShowable then .ok (id, invoice) else .error .tooManyDigits) ∧
          Holds (listing ++ [(id, invoice)]) w') := by
  obtain ⟨body, -, hasked, -⟩ := Order.ofBody_eq_ok.1 hread
  have hnonneg := hasked.expiresIn.nonneg
  have hissued : Holds listing w₁ := by
    have hkept := keeps.issueKey w listing h
    rwa [provides.issues] at hkept
  have hclock := keeps.clock w₁ listing hissued
  have hclock' := keeps.clock (gateway.clock w₁).2 listing hclock
  have hfresh := provides.fresh order
  rw [newInvoice, if_neg (not_lt_zero hnonneg)]
  simp only [Action.apply_bind, provides.issues, readClock, Action.apply_step,
    Action.apply_ofExcept, Number.toInteger_int]
  cases hseconds : (gateway.clock w₁).1.toInteger with
  | error fault => exact ⟨_, _, rfl, .inl ⟨fault, rfl, .of_toInteger hseconds, hclock⟩⟩
  | ok seconds =>
    obtain ⟨moment, rfl⟩ := Int.eq_ofNat_of_zero_le (provides.nonneg seconds hseconds)
    dsimp only
    rcases Int.lt_or_le order.amount Amount.bound with hrange | hrange
    · obtain ⟨invoice, opens⟩ :=
        order.exists_opens address key moment hasked.amount.nonneg hrange
      have hamount : ((Json.int order.amount).toInteger >>= Amount.ofInt) = .ok invoice.amount :=
        Amount.ofInt_eq_ok opens.amount
      simp only [hamount]
      cases hmillis : wholeMillis (gateway.clock (gateway.clock w₁).2).1 with
      | error fault => exact ⟨_, _, rfl, .inl ⟨fault, rfl, .of_toInteger hmillis, hclock'⟩⟩
      | ok millis =>
        have new := opens.new provides.checksum provides.wallet hasked.method.checksum hnonneg
        have habsent : invoiceId address millis ∉ listing.map Prod.fst := by
          have hnone := hfresh millis hread hrange hmillis
          rw [collects.get _ hclock'] at hnone
          rw [← Listing.find?_eq_none_iff]
          cases hfind : listing.find? (invoiceId address millis) with
          | none => rfl
          | some found =>
            rw [hfind] at hnone
            cases hnone
        have hshowable := new.isShowable_eq opens.expires
        simp only [← opens.eq]
        rcases collects.set hclock' new habsent with ⟨w', hset, hholds⟩ | hset
        · simp only [hset, ← hshowable, Journal.apply_infoWritten]
          by_cases hshown : invoice.isShowable = true
          · rw [if_pos hshown]
            exact ⟨_, _, rfl, .inr ⟨_, invoice, (if_pos hshown).symm, keeps.journal _ w' _ hholds⟩⟩
          · rw [if_neg hshown]
            exact ⟨_, _, rfl, .inr ⟨_, invoice, (if_neg hshown).symm, hholds⟩⟩
        · simp only [hset]
          exact ⟨_, _, rfl, .inl ⟨_, rfl, .unserializable, hclock'⟩⟩
    · have hamount : ((Json.int order.amount).toInteger >>= Amount.ofInt) =
          .error (.invalid Amount.outOfRange) := Amount.ofInt_of_bound_le hrange
      simp only [hamount]
      exact ⟨_, _, rfl, .inl ⟨_, rfl, .outOfRange, hclock⟩⟩

end Gateway

namespace Site

variable {site : Site ω} {Holds : Listing → ω → Prop} {listing : Listing} {w : ω}

/-- The answer to a request for a new invoice that is stored, but whose last moment cannot be
written. -/
def overlong : Response :=
  .failure "invalid_amount" 400 [("detail", .text (detailOf .tooManyDigits))]

/-- What an answer leaves in the store: the invoice that it shows under its id, one that it does not
show, or nothing. -/
inductive Leaves : Except Fault Response → Option (String × Invoice) → Prop
  | created {id : String} {invoice : Invoice} (showable : invoice.isShowable = true) :
      Leaves (.ok (.success (entry (.text id) invoice) 201)) (some (id, invoice))
  | overlong {id : String} {invoice : Invoice} (long : invoice.isShowable = false) :
      Leaves (.ok overlong) (some (id, invoice))
  | nothing {answer : Except Fault Response}
      (other : ∀ response, answer = .ok response → response.status ≠ 201 ∧ response ≠ overlong) :
      Leaves answer none

theorem Leaves.of_passive {response : Response} (h : Passive response) :
    Leaves (.ok response) none := by
  refine .nothing ?_
  rintro _ ⟨⟩
  refine ⟨h.1, ?_⟩
  rintro rfl
  exact h.2 rfl

/-- No other answer tells that. -/
theorem Leaves.eq_none {response : Response} {kept : Option (String × Invoice)}
    (h : Leaves (.ok response) kept) (hpassive : Passive response) : kept = none := by
  cases h with
  | created => exact absurd rfl hpassive.1
  | overlong => exact absurd rfl hpassive.2
  | nothing => rfl

/-- A faulty request leaves nothing. -/
theorem Leaves.of_orderFault {fault : OrderFault} {response : Response}
    (h : fault.toResponse = .ok response) : Leaves (.ok response) none := by
  refine .nothing ?_
  rintro _ ⟨⟩
  cases fault <;> cases h <;> simp [Site.overlong, Response.failure, Json.object, Json.text_inj]

/-- So does a creation that was given up because of a value. -/
theorem Leaves.of_givenUp {fault : Fault} (h : GivenUp fault) :
    Leaves (.ok (.failure "invalid_amount" 400 [("detail", .text (detailOf fault))])) none := by
  have hdetail : detailOf fault ≠ detailOf .tooManyDigits := by
    cases h <;> decide +kernel
  refine .nothing ?_
  rintro _ ⟨⟩
  simp [Site.overlong, Response.failure, Json.object, Json.text_inj, hdetail]

/-- A fault of the store has an answer of its own. -/
theorem apply_serveSafely_store {request : Request} {path : List Char} {fault : StoreFault}
    {after : ω} (h : (site.order request).apply w = (.error (.store fault), after)) :
    (site.serveSafely request path .invoices .post).apply w =
      (.ok (ofStoreFault fault), after) := by
  rw [serveSafely, Action.apply_attempt_bind]
  simp only [serve, Action.apply_bind, h]
  rfl

/-- What a request for a new invoice leaves is told by its answer. -/
theorem Serves.apply_post (hs : site.Serves Holds) (h : Holds listing w) {request : Request}
    {address : String} {key : SecretKey} {w₁ : ω} (path : List Char)
    (provides : site.gateway.Provides site.addressRule request.json? w address key w₁) :
    ∃ response w' kept, (site.serveSafely request path .invoices .post).apply w =
      (.ok response, w') ∧ Leaves (.ok response) kept ∧ Holds (listing ++ kept.toList) w' := by
  rcases hread : Order.ofBody site.addressRule request.json? with fault | order
  · cases hresponse : fault.toResponse with
    | ok response =>
      have horder : (site.order request).apply w = (.ok response, w) := by
        rw [order, hread, ← hresponse]
        rfl
      exact ⟨response, w, none, apply_serveSafely horder (written_of_toResponse hresponse).1,
        .of_orderFault hresponse, (List.append_nil listing).symm ▸ h⟩
    | error _ =>
      have hfault : fault = .unreadable := by
        cases fault <;> cases hresponse
        rfl
      obtain ⟨line, hended⟩ := order_unreadable (hfault ▸ hread)
      exact ⟨_, _, none, hended, .of_passive (by simp [Passive]),
        (List.append_nil listing).symm ▸ hs.keeps.journal line w listing h⟩
  · obtain ⟨result, w', hresult, ⟨fault, rfl, hgiven, hholds⟩ | ⟨id, invoice, rfl, hholds⟩⟩ :=
      Gateway.newInvoice_adds hs.collects hs.keeps h provides hread
    · cases hgiven with
      | notANumber | outOfRange =>
        have horder := apply_order_error hread hresult rfl
        exact ⟨_, w', none, apply_serveSafely horder rfl, .of_givenUp (by constructor),
          (List.append_nil listing).symm ▸ hholds⟩
      | overflow =>
        have horder := apply_order_fail hread hresult rfl
        obtain ⟨line, hended⟩ := apply_serveSafely_error horder (by simp [Fault.overflow])
        exact ⟨_, _, none, hended, .of_passive (by simp [Passive]),
          (List.append_nil listing).symm ▸ hs.keeps.journal line w' listing hholds⟩
      | unserializable =>
        have horder := apply_order_fail hread hresult rfl
        exact ⟨_, w', none, apply_serveSafely_store horder, .of_passive (passive_ofStoreFault _),
          (List.append_nil listing).symm ▸ hholds⟩
    · by_cases hshowable : invoice.isShowable = true
      · rw [if_pos hshowable] at hresult
        have horder := apply_order_ok hread hresult
        refine ⟨_, w', some (id, invoice), apply_serveSafely horder ?_, .created hshowable, hholds⟩
        rw [written_entry, if_pos hshowable]
      · rw [if_neg hshowable] at hresult
        have horder := apply_order_error hread hresult rfl
        exact ⟨_, w', some (id, invoice), apply_serveSafely horder rfl,
          .overlong (Bool.eq_false_iff.2 hshowable), hholds⟩

/-! ## Any requests -/

/-- Only at the list of invoices there is something to be created. -/
theorem resource_of_post {path : List Char} {name : Option Verb} {resource : Resource}
    (h : Route.ofPath path name = .reached resource .post) : resource = .invoices := by
  have hreached {found : Resource} (h : Route.ofResource found name = .reached resource .post) :
      resource = .invoices := by
    unfold Route.ofResource at h
    split at h
    · split at h
      · next hallows =>
        cases h
        exact of_decide_eq_true hallows
      · cases h
    · cases h
  unfold Route.ofPath at h
  split at h
  · exact hreached h
  · split at h
    · split at h
      · cases h
      · exact hreached h
    · cases h

/-- What is asked of the gateway where a request comes to the creation of an invoice. -/
def Supplies (site : Site ω) (request : Request) (w : ω) : Prop :=
  ∀ path, request.Reaches path .invoices .post →
    ∃ address key w₁, site.gateway.Provides site.addressRule request.json? w address key w₁

/-- What a request leaves is told by its answer. -/
theorem Serves.respond_leaves (hs : site.Serves Holds) (h : Holds listing w) {request : Request}
    (supplies : site.Supplies request w) :
    ∃ answer w' kept, (site.respond request).apply w = (answer, w') ∧ Leaves answer kept ∧
      Holds (listing ++ kept.toList) w' := by
  have hnothing : Holds (listing ++ (none : Option (String × Invoice)).toList) w :=
    (List.append_nil listing).symm ▸ h
  cases hpath : request.path with
  | error fault =>
    refine ⟨.error fault, w, none, ?_, .nothing nofun, hnothing⟩
    simp only [respond, Action.apply_bind, hpath, Action.apply_ofExcept]
  | ok path =>
    by_cases hserver : Target.namesServer request.target = true
    · have hrespond : (site.respond request).apply w = (site.answer request path).apply w := by
        simp only [respond, Action.apply_bind, hpath, Action.apply_ofExcept, if_pos hserver]
      rw [hrespond, answer]
      cases hroute : Route.ofPath path (Verb.ofName? request.method.toUpper) with
      | reached resource verb =>
        have hreaches : request.Reaches path resource verb := ⟨hpath, hserver, hroute⟩
        by_cases hverb : verb = .post
        · subst hverb
          obtain rfl := resource_of_post hroute
          obtain ⟨address, key, w₁, provides⟩ := supplies path hreaches
          obtain ⟨response, w', kept, happly, hleaves, hholds⟩ := hs.apply_post h path provides
          exact ⟨.ok response, w', kept, happly, hleaves, hholds⟩
        · obtain ⟨response, w', happly, hholds, hpassive⟩ :=
            hs.apply_passive h request path resource hverb
          exact ⟨.ok response, w', none, happly, .of_passive hpassive,
            (List.append_nil listing).symm ▸ hholds⟩
      | unknownPath | unknownVerb | elsewhere =>
        exact ⟨_, w, none, rfl, .of_passive (by simp [Passive]), hnothing⟩
    · refine ⟨.ok { status := 400 }, w, none, ?_, .nothing ?_, hnothing⟩
      · simp only [respond, Action.apply_bind, hpath, Action.apply_ofExcept, if_neg hserver]
        rfl
      · rintro _ ⟨⟩
        simp [Site.overlong, Response.failure]

/-- The answers to requests, each in the world that the one before it left. -/
def answers (site : Site ω) : List Request → ω → List (Except Fault Response)
  | [], _ => []
  | request :: rest, w =>
    let (answer, after) := (site.respond request).apply w
    answer :: answers site rest after

/-- The world that requests leave. -/
def after (site : Site ω) (requests : List Request) (w : ω) : ω :=
  requests.foldl (fun w request => ((site.respond request).apply w).2) w

/-- What is told of the invoices at any time is told of those that the answers so far left. -/
theorem Serves.answers_tell (hs : site.Serves Holds) (h : Holds listing w)
    {requests : List Request} (supplies : ∀ place request, requests[place]? = some request →
      site.Supplies request (site.after (requests.take place) w)) :
    ∃ kept, List.Forall₂ Leaves (site.answers requests w) kept ∧
      ∀ place request path resource response, requests[place]? = some request →
        request.Reaches path resource .get →
        told? (listing ++ (kept.take place).filterMap id) resource = some response →
        (site.answers requests w)[place]? = some (.ok response) := by
  induction requests generalizing listing w with
  | nil => exact ⟨[], .nil, nofun⟩
  | cons first rest ih =>
    obtain ⟨answer, w', kept, happly, hleaves, hholds⟩ :=
      hs.respond_leaves h (supplies 0 first rfl)
    obtain ⟨others, hothers, htold⟩ := ih hholds fun place request hrequest => by
      have hnext := supplies (place + 1) request hrequest
      rwa [List.take_succ_cons, after, List.foldl_cons, happly] at hnext
    have hanswers : site.answers (first :: rest) w = answer :: site.answers rest w' := by
      rw [answers, happly]
    refine ⟨kept :: others, hanswers ▸ .cons hleaves hothers, ?_⟩
    rintro (_ | place) request path resource response hrequest hreaches hresponse
    · cases hrequest
      rw [List.take_zero, List.filterMap_nil, List.append_nil] at hresponse
      have htells := hs.tells h first path hresponse
      rw [← apply_respond hreaches, happly] at htells
      rw [hanswers, List.getElem?_cons_zero]
      exact congrArg some htells
    · rw [hanswers, List.getElem?_cons_succ]
      refine htold place request path resource response hrequest hreaches ?_
      rw [← hresponse, List.take_succ_cons, List.append_assoc]
      cases kept <;> rfl

/-- A gateway whose store is of either kind and empty, in a part of the world that is changed by
the store alone. -/
inductive StartsEmpty (gateway : Gateway ω) (w : ω) : Prop
  | memory {cell : Cell ω (Keyed InvoiceKey Invoice)} (lawful : cell.Lawful)
      (store : gateway.store = .ofMemory cell)
      (keeps : gateway.Keeps fun w w' => cell.look w' = cell.look w) (empty : cell.look w = {})
  | table {cell : Cell ω Table} {journal : Journal ω} (lawful : cell.Lawful)
      (store : gateway.store = .ofTable cell journal)
      (keeps : gateway.Keeps fun w w' => cell.look w' = cell.look w) (empty : cell.look w = {})

/-- What depends on a part of the world alone is kept where the part is. -/
theorem keeps_of_look {σ : Type} {gateway : Gateway ω} {cell : Cell ω σ} {P : Listing → σ → Prop}
    (h : gateway.Keeps fun w w' => cell.look w' = cell.look w) :
    gateway.Keeps fun w w' => ∀ listing, P listing (cell.look w) → P listing (cell.look w') where
  refl _ _ := id
  trans first second listing held := second listing (first listing held)
  clock w _ held := (h.clock w).symm ▸ held
  journal line w _ held := (h.journal line w).symm ▸ held
  issueKey w _ held := (h.issueKey w).symm ▸ held

theorem StartsEmpty.serves (h : StartsEmpty site.gateway w) :
    ∃ Holds, site.Serves Holds ∧ Holds [] w := by
  cases h with
  | @memory cell lawful store keeps empty =>
    refine ⟨_, ⟨store ▸ Store.ofMemory_collects lawful, ?_⟩, ?_⟩
    · exact keeps_of_look (P := fun listing map => map.entries = listing.map Listing.keyed) keeps
    · rw [empty]
      rfl
  | @table cell journal lawful store keeps empty =>
    refine ⟨_, ⟨store ▸ Store.ofTable_collects lawful journal, ?_⟩, ?_⟩
    · exact keeps_of_look (P := fun listing table => Store.HoldsNew table listing) keeps
    · rw [empty]
      exact ⟨⟨rfl, Rows.ascending_empty, .nil⟩, nofun⟩

/-- Begun empty and asked for anything, a site has kept what its answers tell: the invoices that it
announced with status 201, and those that it refused as overlong. Whoever asks for all of them, for
the last one or for the one of an id is told what was announced, and status 404 where there is
nothing; a refused one makes that status 500 wherever it belongs to what is asked for. -/
theorem read_back {requests : List Request} (starts : StartsEmpty site.gateway w)
    (supplies : ∀ place request, requests[place]? = some request →
      site.Supplies request (site.after (requests.take place) w)) :
    ∃ kept, List.Forall₂ Leaves (site.answers requests w) kept ∧
      ∀ place request path resource response, requests[place]? = some request →
        request.Reaches path resource .get →
        told? ((kept.take place).filterMap id) resource = some response →
        (site.answers requests w)[place]? = some (.ok response) := by
  obtain ⟨Holds, hs, h⟩ := starts.serves
  exact hs.answers_tell h supplies

/-- A request for what there is. -/
def lookUpAt (target : String) : Request where
  method := "GET"
  target

theorem reaches_invoices :
    (lookUpAt "/api/v1/invoices").Reaches "/api/v1/invoices".toList .invoices .get where
  reads := rfl
  server := by decide +kernel
  route := by decide +kernel

theorem reaches_latest : (lookUpAt "/api/v1/invoices/latest").Reaches
    "/api/v1/invoices/latest".toList .latestInvoice .get where
  reads := rfl
  server := by decide +kernel
  route := by decide +kernel

theorem steady_startsEmpty (now : Nat) : StartsEmpty (steady now).gateway Keyed.empty := by
  refine .memory Cell.lawful_whole rfl ?_ rfl
  constructor <;> intros
  case trans h h' => exact h'.trans h
  all_goals rfl

/-- The first invoice that is asked for finds no other. -/
theorem steady_provides (now : Nat) (given : Option Json) :
    (steady now).gateway.Provides .strict given Keyed.empty
      (Address.checksum (List.replicate 20 0)) ⟨[1]⟩ Keyed.empty where
  issues := rfl
  checksum := Address.checksum?_checksum rfl
  wallet := by decide
  nonneg := by
    rintro _ ⟨⟩
    exact Int.natCast_nonneg now
  fresh _ _ _ _ _ := rfl

/-- Five are asked for, and then what there is. -/
def fiveVisits : List Request :=
  [.creation fiveBody, lookUpAt "/api/v1/invoices", lookUpAt "/api/v1/invoices/latest"]

theorem status_fiveBody : ∃ response,
    (((steady 100).respond (.creation fiveBody)).apply Keyed.empty).1 = .ok response ∧
      response.status = 201 := by
  have hkeeps : (steady 100).gateway.Keeps fun w w' => w'.entries = w.entries := by
    constructor <;> intros
    case trans h h' => exact h'.trans h
    all_goals rfl
  have hread : Order.ofBody .strict (Request.creation fiveBody).json? = .ok fiveOrder :=
    Order.ofBody_eq_ok.2 ⟨_, json?_fiveBody, fiveAsked_asked, fiveAsked_readable⟩
  obtain ⟨invoice, opens⟩ := Order.exists_opens fiveOrder
    (Address.checksum (List.replicate 20 0)) ⟨[1]⟩ 100 (by decide) (by decide)
  have new := opens.new (Address.checksum?_checksum rfl) (by decide)
    fiveAsked_asked.method.checksum (by decide)
  obtain ⟨after, happly, -⟩ := order_inRange hkeeps (Store.ofMemory_appends Cell.lawful_whole)
    (steady_ready 100) hread (by decide) opens new (by rw [steady, Store.apply_ofMemory_set])
  rw [apply_respond_creation, happly]
  refine ⟨_, rfl, ?_⟩
  rw [if_pos ((Number.isWritable_int (by decide)).1 (by decide +kernel))]
  rfl

/-- One invoice is created, and read back in the list and as the last one. -/
theorem read_back_five : ∃ id invoice, (steady 100).answers fiveVisits Keyed.empty =
    [.ok (.success (entry (.text id) invoice) 201), .ok (shownAll [(id, invoice)]),
      .ok (.success (entry (.text id) invoice))] := by
  obtain ⟨kept, hkept, htold⟩ := read_back (steady_startsEmpty 100)
    (show ∀ place request, fiveVisits[place]? = some request → (steady 100).Supplies request
        ((steady 100).after (fiveVisits.take place) Keyed.empty) by
      rintro (_ | _ | _ | place) request hrequest path hreaches
      · exact ⟨_, _, _, steady_provides 100 _⟩
      · cases hrequest
        cases hreaches.verb_unique reaches_invoices
      · cases hrequest
        cases hreaches.verb_unique reaches_latest
      · cases hrequest)
  obtain ⟨response, hresponse, hstatus⟩ := status_fiveBody
  obtain ⟨second, third, htold'⟩ : ∃ second third,
      (steady 100).answers fiveVisits Keyed.empty = [.ok response, second, third] :=
    ⟨_, _, congrArg (· :: _) hresponse⟩
  rw [htold'] at hkept htold ⊢
  cases hkept with
  | @cons _ _ _ others hfirst hrest =>
    cases hfirst with
    | overlong => cases hstatus
    | nothing other => exact absurd hstatus (other _ rfl).1
    | @created id invoice showable =>
      have hall : told? [(id, invoice)] .invoices = some (shownAll [(id, invoice)]) := by
        have hone : (Number.int 1).isWritable = true := by decide +kernel
        simp [told?, showable, hone]
      have hlist := htold 1 _ _ .invoices _ rfl reaches_invoices hall
      cases hlist
      cases hrest with
      | @cons _ kept _ others hsecond _ =>
        cases hsecond.eq_none (by simp [Passive, shownAll, Response.success])
        have hone : told? [(id, invoice)] .latestInvoice =
            some (.success (entry (.text id) invoice)) := by
          simp [told?, toldOne, showable]
        have hlast := htold 2 _ _ .latestInvoice _ rfl reaches_latest hone
        cases hlast
        exact ⟨id, invoice, rfl⟩

end Site

end DepositGateway
