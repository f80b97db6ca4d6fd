import DepositGateway.Proofs.Http.ReadBack
import DepositGateway.Proofs.Http.Spelling

/-!
# What is shown asks for the same again

The public view of an invoice is itself one of the ways to ask for what it shows, and whichever way
is taken, the same is shown. Only the lifetime is no part of the view, and it alone can be too long.

* `Order.Shown`: the one form in which the values of an order are shown. `Order.Proper.written`:
  it is an accepted way to ask for them.
* `Site.creation_of_status`: only an invoice that was created is answered with status 201.
* `Site.Receives.respond`: when the values of an order are asked for, in any accepted way, they are
  shown in this form. `Site.view_asks_again`: so it goes with the view of any invoice.
-/

namespace DepositGateway

variable {ω : Type}

/-! ## Views -/

/-- The values of an order that an invoice can have: an amount in range, and for a token an address
in checksum form. -/
structure Order.Proper (order : Order) : Prop where
  nonneg : 0 ≤ order.amount
  inRange : order.amount < Amount.bound
  checksum : Invoice.checksumMethod? order.method = some order.method

/-- The form in which the values of an order are shown. -/
structure Order.Shown (order : Order) (view : Json) : Prop where
  amount : view.memberOrNull "amount" = .text (Decimal.text order.amount.toNat)
  method : view.memberOrNull "token_address" = .textOrNull order.method.tokenAddress?
  message : view.memberOrNull "message" = .text (Bytes.toHexMarked order.message)

/-- A body has the amount, the token and the message of another. -/
structure Json.Repeats (body other : Json) : Prop where
  amount : body.memberOrNull "amount" = other.memberOrNull "amount"
  token : body.memberOrNull "token_address" = other.memberOrNull "token_address"
  message : body.memberOrNull "message" = other.memberOrNull "message"

namespace Json

/-- An amount has far fewer digits than the limit. -/
theorem counts_text {number : Nat} (h : number < Amount.bound) :
    (text (Decimal.text number)).Counts number := by
  have hlt : number < Nat.pow 10 78 := Nat.lt_of_lt_of_le h (by decide)
  have hlength : ¬ 78 < (Decimal.digits number).length := fun hlong =>
    absurd ((Decimal.lt_length_digits_iff number (by decide)).1 hlong) (Nat.not_le.2 hlt)
  have hshort : 0 + (Decimal.digits number).length ≤ Decimal.limit := by
    rw [Decimal.limit]
    omega
  have hcounts := Counts.digits hshort
  rwa [List.replicate_zero, List.nil_append] at hcounts

/-- The checksum form of an address is one of its spellings, under any rule. -/
theorem designates_of_checksum (rule : Address.CaseRule) {method : PaymentMethod}
    (h : Invoice.checksumMethod? method = some method) :
    (textOrNull method.tokenAddress?).Designates rule method := by
  cases method with
  | native => exact .coin rfl
  | token address =>
    rw [Invoice.checksumMethod?, Option.map_eq_some_iff] at h
    obtain ⟨text, htext, heq⟩ := h
    obtain rfl : text = address := PaymentMethod.token.inj heq
    refine names_iff.1 (.token ?_)
    rw [Utf16.toText_ofString]
    exact Address.accepted?_self rule htext

/-- Marked digits spell their bytes, even where there are none. -/
theorem spells_toHexMarked (bytes : Bytes) : (text (Bytes.toHexMarked bytes)).Spells bytes := by
  have hchars : (Bytes.toHexMarked bytes).toList = '0' :: 'x' :: Bytes.hexDigits bytes := by
    rw [Bytes.toHexMarked, Bytes.toHex, String.toList_append]
    exact congrArg (['0', 'x'] ++ ·) String.toList_ofList
  refine .marked ?_ ?_ (Bytes.hexPairs_hexDigits bytes)
  · rw [text, Utf16.ofString, hchars]
    rfl
  · rw [text, display, Utf16.toText_ofString, hchars]

end Json

namespace Order

variable {order : Order} {body other : Json}

theorem Shown.of_repeats (h : order.Shown other) (hrepeats : body.Repeats other) :
    order.Shown body where
  amount := hrepeats.amount.trans h.amount
  method := hrepeats.token.trans h.method
  message := hrepeats.message.trans h.message

theorem Shown.repeats (h : order.Shown body) (hother : order.Shown other) : body.Repeats other where
  amount := h.amount.trans hother.amount.symm
  token := h.method.trans hother.method.symm
  message := h.message.trans hother.message.symm

/-- The form in which proper values are shown is an accepted way to ask for them. -/
theorem Proper.written (rule : Address.CaseRule) (proper : order.Proper) (h : order.Shown body) :
    order.Written rule body where
  amount := by
    refine ⟨order.amount.toNat, (Int.toNat_of_nonneg proper.nonneg).symm, ?_⟩
    have hrange := proper.inRange
    have hnonneg := proper.nonneg
    rw [h.amount]
    exact Json.counts_text (by omega)
  method := by
    rw [h.method]
    exact Json.designates_of_checksum rule proper.checksum
  message := by
    rw [h.message]
    exact Json.spells_toHexMarked order.message

/-- The view of an invoice that an order opens shows the order. -/
theorem shown_view {amount : Amount} (hamount : (amount.toNat : Int) = order.amount)
    (address : String) (key : SecretKey) (seconds : Int) :
    order.Shown (order.invoice amount address key seconds).view where
  amount := by
    rw [← hamount, Int.toNat_natCast]
    rfl
  method := rfl
  message := rfl

end Order

/-! ## Creation -/

namespace Gateway

variable {gateway : Gateway ω} {w after : ω}

/-- Where a creation ends well, the invoice is the one that the order opens. -/
theorem newInvoice_eq_ok {order : Order} {id : String} {invoice : Invoice}
    (h : (gateway.newInvoice (.int order.amount) order.method order.message
      (.int order.expiresIn)).apply w = (.ok (id, invoice), after)) :
    ∃ (amount : Amount) (address : String) (key : SecretKey) (seconds : Int) (w' : ω),
      (amount.toNat : Int) = order.amount ∧ gateway.Issues w address key seconds id w' ∧
      invoice = order.invoice amount address key seconds ∧
      (Number.int (seconds + order.expiresIn)).isWritable = true := by
  unfold newInvoice at h
  split at h
  · cases h
  obtain ⟨⟨address, key⟩, w₁, hissue, h⟩ := Action.ok_of_apply_bind h
  obtain ⟨first, w₂, hfirst, h⟩ := Action.ok_of_apply_bind h
  cases hfirst
  obtain ⟨seconds, w₃, hread, h⟩ := Action.ok_of_apply_bind h
  obtain ⟨hseconds, rfl⟩ := Action.ok_of_apply_ofExcept hread
  obtain ⟨lifetime, w₃, hlifetime, h⟩ := Action.ok_of_apply_bind h
  cases hlifetime
  obtain ⟨amount, w₃, hasked, h⟩ := Action.ok_of_apply_bind h
  obtain ⟨hamount, rfl⟩ := Action.ok_of_apply_ofExcept hasked
  obtain ⟨second, w₃, hsecond, h⟩ := Action.ok_of_apply_bind h
  cases hsecond
  obtain ⟨millis, w₃, hwhole, h⟩ := Action.ok_of_apply_bind h
  obtain ⟨hmillis, rfl⟩ := Action.ok_of_apply_ofExcept hwhole
  obtain ⟨-, w₃, -, h⟩ := Action.ok_of_apply_bind h
  obtain ⟨_, w₄, hreport, h⟩ := Action.ok_of_apply_bind h
  cases h
  exact ⟨amount, address, key, seconds, _, Amount.toNat_of_ofInt hamount,
    ⟨w₁, millis, hissue, hseconds, hmillis, rfl, rfl⟩, rfl, Journal.writable_of_apply hreport⟩

/-- One key is issued, at one moment, for one id. -/
theorem Issues.unique {address address' : String} {key key' : SecretKey} {seconds seconds' : Int}
    {id id' : String} {w' w'' : ω} (h : gateway.Issues w address key seconds id w')
    (hother : gateway.Issues w address' key' seconds' id' w'') : seconds' = seconds ∧ id' = id := by
  obtain ⟨w₁, millis, hissue, hseconds, hmillis, rfl, -⟩ := h
  obtain ⟨w₂, millis', hissue', hseconds', hmillis', rfl, -⟩ := hother
  cases hissue.symm.trans hissue'
  cases hmillis.symm.trans hmillis'
  exact ⟨Except.ok.inj (hseconds'.symm.trans hseconds), rfl⟩

/-- The gateway issues a key and reads its clock, and its store takes the invoice that an order
opens if its last moment can be written at all. -/
def Furnishes (gateway : Gateway ω) (w : ω) (order : Order) (seconds : Int) (id : String) : Prop :=
  ∃ address key w', gateway.Issues w address key seconds id w' ∧
    ((Number.int (seconds + order.expiresIn)).isWritable = true → ∀ amount : Amount,
      (amount.toNat : Int) = order.amount →
      ((gateway.store.set (.text id) (order.invoice amount address key seconds)).apply w').1 =
        .ok ())

/-- What is furnished is created. -/
theorem Furnishes.newInvoice {order : Order} {seconds : Int} {id : String} (proper : order.Proper)
    (hnonneg : 0 ≤ order.expiresIn) (h : gateway.Furnishes w order seconds id)
    (hwritable : (Number.int (seconds + order.expiresIn)).isWritable = true) :
    ∃ invoice after, (gateway.newInvoice (.int order.amount) order.method order.message
        (.int order.expiresIn)).apply w = (.ok (id, invoice), after) ∧
      invoice.isShowable = true := by
  obtain ⟨address, key, w', issues, htakes⟩ := h
  obtain ⟨amount, hamount⟩ := Amount.exists_of_inRange proper.nonneg proper.inRange
  obtain ⟨line, hcreate⟩ := newInvoice_issued issues hamount hnonneg
  obtain ⟨after, hset⟩ : ∃ after, (gateway.store.set (.text id)
      (order.invoice amount address key seconds)).apply w' = (.ok (), after) :=
    ⟨_, Prod.ext (htakes hwritable amount hamount) rfl⟩
  rw [hset] at hcreate
  refine ⟨_, _, hcreate.trans (if_pos hwritable), ?_⟩
  rw [Invoice.isShowable_eq rfl rfl rfl rfl, hwritable]

end Gateway

namespace Site

variable {site : Site ω} {w after : ω} {request : Request} {response : Response}

/-- What is looked up is never announced as new. -/
theorem lookUp_status {resource : Resource}
    (h : (site.lookUp resource).apply w = (.ok response, after)) : response.status ≠ 201 := by
  cases resource with
  | health | file =>
    cases h
    simp [Response.success]
  | invoices | latestInvoice | invoice id =>
    obtain ⟨found, w', -, h⟩ := Action.ok_of_apply_bind h
    cases h
    simp [Response.success]

/-- An order that is answered with status 201 was read, and its invoice created. -/
theorem order_status (h : (site.order request).apply w = (.ok response, after))
    (hstatus : response.status = 201) :
    ∃ order id invoice, Order.ofBody site.addressRule request.json? = .ok order ∧
      response = .success (entry (.text id) invoice) 201 ∧
      (site.gateway.newInvoice (.int order.amount) order.method order.message
        (.int order.expiresIn)).apply w = (.ok (id, invoice), after) := by
  unfold order at h
  split at h
  · next order hread =>
    rw [create, Action.apply_attempt_bind] at h
    rcases hcreate : (site.gateway.newInvoice (.int order.amount) order.method order.message
      (.int order.expiresIn)).apply w with ⟨fault | ⟨id, invoice⟩, w'⟩
    · rw [hcreate] at h
      dsimp only at h
      split at h
      · cases h
        cases hstatus
      · cases h
    · rw [hcreate] at h
      cases h
      exact ⟨order, id, invoice, hread, rfl, hcreate⟩
  · next fault hread =>
    obtain ⟨hresponse, rfl⟩ := Action.ok_of_apply_ofExcept h
    obtain ⟨-, error, more, rfl⟩ := written_of_toResponse hresponse
    cases hstatus

/-- What is served with status 201 is the answer to an order. -/
theorem serve_status {resource : Resource} {verb : Verb}
    (h : (site.serve request resource verb).apply w = (.ok response, after))
    (hstatus : response.status = 201) :
    verb = .post ∧ (site.order request).apply w = (.ok response, after) := by
  cases verb with
  | options =>
    cases h
    cases hstatus
  | get =>
    obtain ⟨found, w', hfound, h⟩ := Action.ok_of_apply_bind h
    obtain ⟨hwritten, rfl⟩ := Action.ok_of_apply_ofExcept h
    rw [eq_of_written hwritten] at hstatus
    exact (lookUp_status hfound hstatus).elim
  | head =>
    obtain ⟨found, w', hfound, h⟩ := Action.ok_of_apply_bind h
    obtain ⟨sent, w'', hsent, h⟩ := Action.ok_of_apply_bind h
    obtain ⟨hwritten, rfl⟩ := Action.ok_of_apply_ofExcept hsent
    cases h
    rw [eq_of_written hwritten] at hstatus
    exact (lookUp_status hfound hstatus).elim
  | post =>
    obtain ⟨found, w', hfound, h⟩ := Action.ok_of_apply_bind h
    obtain ⟨hwritten, rfl⟩ := Action.ok_of_apply_ofExcept h
    rw [eq_of_written hwritten]
    exact ⟨rfl, hfound⟩

/-- No fault is answered with status 201. -/
theorem serveSafely_status {path : List Char} {resource : Resource} {verb : Verb}
    (h : (site.serveSafely request path resource verb).apply w = (.ok response, after))
    (hstatus : response.status = 201) :
    verb = .post ∧ (site.order request).apply w = (.ok response, after) := by
  rw [serveSafely, Action.apply_attempt_bind] at h
  rcases hserve : (site.serve request resource verb).apply w with ⟨fault | sent, w'⟩
  · rw [hserve] at h
    cases fault with
    | store fault =>
      have hother := (passive_ofStoreFault fault).1
      cases h
      split at hstatus <;> exact absurd hstatus hother
    | _ =>
      cases h
      cases hstatus
  · rw [hserve] at h
    cases h
    exact serve_status hserve hstatus

/-- Status 201 is the answer where an order was read and its invoice created, and nowhere else. -/
theorem creation_of_status (h : (site.respond request).apply w = (.ok response, after))
    (hstatus : response.status = 201) :
    ∃ order id invoice, Order.ofBody site.addressRule request.json? = .ok order ∧
      response = .success (entry (.text id) invoice) 201 ∧
      (site.gateway.newInvoice (.int order.amount) order.method order.message
        (.int order.expiresIn)).apply w = (.ok (id, invoice), after) := by
  obtain ⟨path, w', hpath, h⟩ := Action.ok_of_apply_bind h
  obtain ⟨-, rfl⟩ := Action.ok_of_apply_ofExcept hpath
  split at h
  · unfold answer at h
    split at h
    · exact order_status (serveSafely_status h hstatus).2 hstatus
    all_goals
      cases h
      cases hstatus
  · cases h
    cases hstatus

/-- Whatever is asked of a resource, there is an answer. -/
theorem exists_serveSafely (site : Site ω) (request : Request) (path : List Char)
    (resource : Resource) (verb : Verb) (w : ω) : ∃ answer after,
      (site.serveSafely request path resource verb).apply w = (.ok answer, after) := by
  rw [serveSafely, Action.apply_attempt_bind]
  rcases (site.serve request resource verb).apply w with ⟨fault | sent, w'⟩
  · cases fault <;> exact ⟨_, _, rfl⟩
  · exact ⟨_, _, rfl⟩

/-- A request comes to a site and asks, in an accepted way, for an order with a lifetime; and the
gateway has what that takes. -/
structure Receives (site : Site ω) (w : ω) (request : Request) (order : Order)
    (members : List (Utf16 × Json)) (seconds : Int) (id : String) : Prop where
  reaches : ∃ path, request.Reaches path .invoices .post
  given : request.json? = some (.obj members)
  asked : order.Written site.addressRule (.obj members)
  lifetime : (Order.lifetime (.obj members)).Whole order.expiresIn
  furnishes : site.gateway.Furnishes w order seconds id

/-- However an order is asked for, it is answered with status 201 exactly if the digits of its
lifetime can be read and its last moment can be written, and then it is shown in the one form. -/
theorem Receives.respond {order : Order} {members : List (Utf16 × Json)} {seconds : Int}
    {id : String} (proper : order.Proper) (h : site.Receives w request order members seconds id) :
    ∃ answer after, (site.respond request).apply w = (.ok answer, after) ∧
      (answer.status = 201 ↔ ¬ (Order.lifetime (.obj members)).Long ∧
        (seconds + order.expiresIn).natAbs < Nat.pow 10 Decimal.limit) ∧
      (answer.status = 201 → ∃ invoice, answer = .success (entry (.text id) invoice) 201 ∧
        order.Shown invoice.view) := by
  obtain ⟨⟨path, hreaches⟩, hgiven, hasked, hlifetime, hfurnishes⟩ := h
  have hread (hshort : ¬ (Order.lifetime (.obj members)).Long) :
      Order.ofBody site.addressRule request.json? = .ok order :=
    Order.ofBody_eq_ok_iff.2 ⟨members, hgiven, hasked, hlifetime, hshort⟩
  obtain ⟨answer, after, hserve⟩ := exists_serveSafely site request path .invoices .post w
  have hanswer : (site.respond request).apply w = (.ok answer, after) :=
    (apply_respond hreaches).trans hserve
  have hcreated (hstatus : answer.status = 201) :
      (¬ (Order.lifetime (.obj members)).Long ∧
        (Number.int (seconds + order.expiresIn)).isWritable = true) ∧
      ∃ invoice, answer = .success (entry (.text id) invoice) 201 ∧
        order.Shown invoice.view := by
    obtain ⟨found, id', invoice, hfound, hshown, hcreate⟩ := creation_of_status hanswer hstatus
    obtain ⟨others, hothers, -, -, hshort⟩ := Order.ofBody_eq_ok_iff.1 hfound
    cases hgiven.symm.trans hothers
    obtain rfl : order = found := Except.ok.inj ((hread hshort).symm.trans hfound)
    obtain ⟨amount, address, key, seconds', w', hamount, hissues, rfl, hwritable⟩ :=
      Gateway.newInvoice_eq_ok hcreate
    obtain ⟨_, _, _, issues, -⟩ := hfurnishes
    obtain ⟨rfl, rfl⟩ := issues.unique hissues
    exact ⟨⟨hshort, hwritable⟩, _, hshown, Order.shown_view hamount address key seconds'⟩
  refine ⟨answer, after, hanswer, ⟨?_, ?_⟩, fun hstatus => (hcreated hstatus).2⟩
  · intro hstatus
    exact (hcreated hstatus).1.imp_right Number.isWritable_iff.1
  · rintro ⟨hshort, hsize⟩
    obtain ⟨invoice, final, hcreate, hshowable⟩ :=
      hfurnishes.newInvoice proper hlifetime.nonneg (Number.isWritable_iff.2 hsize)
    have horder := apply_order_ok (hread hshort) hcreate
    have hsent : written (.success (entry (.text id) invoice) 201) =
        .ok (.success (entry (.text id) invoice) 201) := by rw [written_entry, if_pos hshowable]
    cases hserve.symm.trans (apply_serveSafely horder hsent)
    rfl

/-- What is shown of an invoice that was created asks for it again. The form in which values are
shown is an accepted way to ask for them; and whoever asks for the same values as an invoice, be it
with its view or in any other accepted way, is shown the same of them. -/
theorem view_asks_again (h : (site.respond request).apply w = (.ok response, after))
    (hstatus : response.status = 201) :
    (∀ (rule : Address.CaseRule) (order : Order) (body : Json), order.Proper → order.Shown body →
      order.Written rule body) ∧
    ∃ (order : Order) (id : String) (invoice : Invoice) (members : List (Utf16 × Json)),
      response = .success (entry (.text id) invoice) 201 ∧
      request.json? = some (.obj members) ∧ order.Written site.addressRule (.obj members) ∧
      order.Proper ∧ order.Shown invoice.view ∧
      (∀ (rule : Address.CaseRule) (body : Json), body.Repeats invoice.view →
        order.Written rule body) ∧
      ∀ {υ : Type} (other : Site υ) (v : υ) (again : Request) (expiresIn seconds : Int)
        (fields : List (Utf16 × Json)) (name : String),
        other.Receives v again { order with expiresIn } fields seconds name →
        ∃ answer v', (other.respond again).apply v = (.ok answer, v') ∧
          (answer.status = 201 ↔ ¬ (Order.lifetime (.obj fields)).Long ∧
            (seconds + expiresIn).natAbs < Nat.pow 10 Decimal.limit) ∧
          (answer.status = 201 → ∃ shown, answer = .success (entry (.text name) shown) 201 ∧
            shown.view.Repeats invoice.view) := by
  refine ⟨fun rule _ _ proper shown => proper.written rule shown, ?_⟩
  obtain ⟨order, id, invoice, hread, hresponse, hcreate⟩ := creation_of_status h hstatus
  obtain ⟨members, hgiven, hwritten, -, -⟩ := Order.ofBody_eq_ok_iff.1 hread
  obtain ⟨amount, address, key, seconds, w', hamount, -, rfl, -⟩ :=
    Gateway.newInvoice_eq_ok hcreate
  have hshown := Order.shown_view hamount address key seconds
  have proper : order.Proper := by
    have hlt := amount.isLt
    exact ⟨by omega, by omega, (Json.names_iff.2 hwritten.method).checksum⟩
  refine ⟨order, id, _, members, hresponse, hgiven, hwritten, proper, hshown,
    fun rule body hrepeats => proper.written rule (hshown.of_repeats hrepeats), ?_⟩
  intro υ other v again expiresIn seconds fields name hreceives
  have hproper : Order.Proper { order with expiresIn } :=
    ⟨proper.nonneg, proper.inRange, proper.checksum⟩
  obtain ⟨answer, v', hanswer, hstatus, hshows⟩ := hreceives.respond hproper
  refine ⟨answer, v', hanswer, hstatus, fun hcreated => ?_⟩
  obtain ⟨shown, hsuccess, hview⟩ := hshows hcreated
  have hagain : Order.Shown { order with expiresIn } _ :=
    ⟨hshown.amount, hshown.method, hshown.message⟩
  exact ⟨shown, hsuccess, hview.repeats hagain⟩

/-- A body that repeats what is shown of five, with a lifetime of its own. -/
def fiveRepeated : Json :=
  .object [("amount", .text "5"),
    ("token_address", .text "0x000000000000000000000000000000000000bEEF"),
    ("message", .text "0xabcd"), ("expires_in_seconds", .int 60)]

/-- Its bytes. -/
def repeatedBody : Bytes :=
  ("\x7b\"amount\": \"5\", " ++
    "\"token_address\": \"0x000000000000000000000000000000000000bEEF\", " ++
    "\"message\": \"0xabcd\", \"expires_in_seconds\": 60\x7d").toUTF8.data.toList

theorem json?_repeatedBody : (Request.creation repeatedBody).json? = some fiveRepeated := by
  decide +kernel

/-- It shows five as they were asked for. -/
theorem shown_fiveRepeated : fiveOrder.Shown fiveRepeated where
  amount := by decide +kernel
  method := by
    have hform : Address.checksum (List.replicate 18 0 ++ [0xbe, 0xef]) =
        "0x000000000000000000000000000000000000bEEF" := by decide +kernel
    rw [fiveOrder, hform]
    rfl
  message := by decide +kernel

/-- Five of a token are asked for, and asked for again with what was shown of them. -/
theorem view_asks_again_five : ∃ response after answer later id invoice name shown,
    ((steady 100).respond (.creation fiveBody)).apply Keyed.empty = (.ok response, after) ∧
    response = .success (entry (.text id) invoice) 201 ∧
    ((steady 100).respond (.creation repeatedBody)).apply after = (.ok answer, later) ∧
    answer = .success (entry (.text name) shown) 201 ∧ shown.view.Repeats invoice.view := by
  obtain ⟨response, hresponse, hstatus⟩ := status_fiveBody
  obtain ⟨-, order, id, invoice, members, hsuccess, hgiven, hwritten, -, hshown, hrepeats,
    hagain⟩ := view_asks_again (Prod.ext hresponse rfl) hstatus
  obtain rfl : _ = members :=
    Json.obj.inj (Option.some.inj (json?_fiveBody.symm.trans hgiven))
  have hfirst : Order.Written .strict fiveOrder fiveAsked := by
    obtain ⟨members, hobject, hasked, -⟩ := Order.ofBody_eq_ok_iff.1
      (Order.ofBody_eq_ok.2 ⟨fiveAsked, rfl, fiveAsked_asked, fiveAsked_readable⟩)
    rwa [← Option.some.inj hobject] at hasked
  obtain ⟨hamount, hmethod, hmessage⟩ := hwritten.unique hfirst
  have hagainShown : order.Shown fiveRepeated := by
    have h := shown_fiveRepeated
    exact ⟨hamount ▸ h.amount, hmethod ▸ h.method, hmessage ▸ h.message⟩
  have hasked := hrepeats .strict fiveRepeated (hagainShown.repeats hshown)
  obtain ⟨answer, later, hanswer, hcreated, hshows⟩ :=
    hagain (steady 100) ((steady 100).after [.creation fiveBody] Keyed.empty)
      (.creation repeatedBody) 60 100 _ _
      { reaches := ⟨_, Request.creation_reaches repeatedBody⟩
        given := json?_repeatedBody
        asked := ⟨hasked.amount, hasked.method, hasked.message⟩
        lifetime := .int (by decide)
        furnishes := ⟨_, _, _, ⟨_, 100 * 1000, rfl, rfl, rfl, rfl, rfl⟩, fun _ _ _ => by
          rw [steady, Store.apply_ofMemory_set]⟩ }
  have hshort : ¬ (Json.int 60).Long := fun hlong => by cases hlong
  have hstatus : answer.status = 201 :=
    hcreated.2 ⟨hshort, Number.isWritable_iff.1 (by decide +kernel)⟩
  obtain ⟨shown, hanother, hview⟩ := hshows hstatus
  exact ⟨response, _, answer, later, id, invoice, _, shown, Prod.ext hresponse rfl, hsuccess,
    hanswer, hanother, hview⟩

end Site

end DepositGateway
