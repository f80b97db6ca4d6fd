import DepositGateway.Http.Api
import DepositGateway.Notice.Webhook
import DepositGateway.Proofs.Secrecy.Stores

/-!
# What is told of twin invoices

Passes over twins, and answers to whoever looks them up, are the same, since only a sweep makes use
of a key.

* `Poller.Blind`: what a poller calls does not tell twins apart. `Poller.Blind.runPass`: its passes
  end alike.
* `Site.Blind.respond`: requests other than orders are answered alike.
-/

namespace DepositGateway

variable {ω : Type} {R : ω → ω → Prop} {invoice twin : Invoice}

namespace Invoice.Twins

theorem exists_wallet (h : invoice.Twins twin) : ∃ wallet, twin = { invoice with wallet } :=
  ⟨twin.wallet, h.same⟩

theorem settled (h : invoice.Twins twin) (hash : String) (receipt : Json) :
    Twins { invoice with hash := .text hash, receipt }
      { twin with hash := .text hash, receipt } where
  same := by rw [h.same]
  valid := h.valid
  validTwin := h.validTwin

theorem paid (h : invoice.Twins twin) (moment : Int) :
    Twins { invoice with paidAt := .int moment } { twin with paidAt := .int moment } where
  same := by rw [h.same]
  valid := h.valid
  validTwin := h.validTwin

/-- The public view is the same. -/
theorem view_eq (h : invoice.Twins twin) : twin.view = invoice.view := by
  rw [h.same]
  rfl

end Invoice.Twins

/-! ## Passes -/

namespace Poller

/-- What a poller calls does not tell twins apart. -/
structure Blind (R : ω → ω → Prop) (poller : Poller ω) : Prop where
  store : poller.store.Blind R
  nativeBalance : ∀ address, Action.Blind R (poller.ledger.nativeBalance address)
  tokenBalance : ∀ token holder, Action.Blind R (poller.ledger.tokenBalance token holder)
  sweep : ∀ {invoice twin : Invoice}, invoice.Twins twin →
    Action.Concur R Eq (poller.sweep invoice) (poller.sweep twin)
  send : ∀ key {invoice twin : Invoice}, invoice.Twins twin →
    Action.Concur R Eq (poller.notifier.send key invoice) (poller.notifier.send key twin)
  journal : poller.journal.Blind R
  clock : ∀ w v, R w v → (poller.clock w).1 = (poller.clock v).1 ∧
    R (poller.clock w).2 (poller.clock v).2
  stopped : ∀ w v, R w v → (poller.stopped w).1 = (poller.stopped v).1 ∧
    R (poller.stopped w).2 (poller.stopped v).2
  sleep : ∀ seconds w v, R w v → R (poller.sleep seconds w) (poller.sleep seconds v)

namespace Blind

variable {poller : Poller ω} (h : poller.Blind R)

include h

theorem now : Action.Blind R poller.now := (Action.Blind.step h.clock).bind fun _ => .ofExcept _

theorem remove (key : InvoiceKey) : Action.Blind R (poller.remove key) := by
  refine (h.store.delete key).attempt_bind fun answer => ?_
  split
  · exact .pure _
  · exact h.journal.report _ _ _
  · exact h.journal.report _ _ _
  · exact .fail _

theorem isPaid (htwins : invoice.Twins twin) :
    Action.Concur R Eq (poller.isPaid invoice) (poller.isPaid twin) := by
  obtain ⟨wallet, rfl⟩ := htwins.exists_wallet
  have hbalance : Action.Blind R (poller.balanceOf invoice) := by
    unfold balanceOf
    split
    · exact h.nativeBalance _
    · exact h.tokenBalance _ _
  exact hbalance.bind fun _ => .ofExcept _

/-- The invoice of a settled status comes back as it was, but for hash and receipt. -/
theorem settle (key : InvoiceKey) (htwins : invoice.Twins twin) :
    Action.Concur R (fun left right => left.1 = right.1 ∧ left.2.Twins right.2)
      (poller.settle key invoice) (poller.settle key twin) := by
  refine (h.sweep htwins).attempt_bind fun x y hend => ?_
  obtain rfl := hend.eq
  split
  · exact .pure ⟨rfl, htwins.settled _ _⟩
  · exact (h.journal.report _ _ _).then_concur fun _ => .pure ⟨rfl, htwins⟩
  · exact .ofExcept (.error _)

theorem warnOfTokens (key : InvoiceKey) (htwins : invoice.Twins twin) :
    Action.Concur R Eq (poller.warnOfTokens key invoice) (poller.warnOfTokens key twin) := by
  obtain ⟨wallet, rfl⟩ := htwins.exists_wallet
  show Action.Blind R (poller.warnOfTokens key invoice)
  unfold Poller.warnOfTokens
  split
  · exact .pure _
  · exact h.journal.report _ _ _

theorem deliver (key : InvoiceKey) (htwins : invoice.Twins twin) :
    Action.Concur R Eq (deliver poller.notifier poller.journal key invoice)
      (DepositGateway.deliver poller.notifier poller.journal key twin) := by
  refine (h.send key htwins).attempt_bind fun x y hend => ?_
  obtain rfl := hend.eq
  split
  · exact .pure rfl
  · exact (h.journal.report _ _ _).then_concur fun _ => .pure rfl
  · exact (h.journal.report _ _ _).then_concur fun _ => .pure rfl

theorem handlePaid (key : InvoiceKey) (htwins : invoice.Twins twin) :
    Action.Concur R Eq (poller.handlePaid key invoice) (poller.handlePaid key twin) := by
  refine h.now.then_concur fun seen => (h.journal.report _ _ _).then_concur fun _ => ?_
  refine (h.settle key htwins).bind fun left right hsettled => ?_
  obtain ⟨status, left⟩ := left
  obtain ⟨status', right⟩ := right
  obtain ⟨rfl, hleft⟩ := hsettled
  refine (h.warnOfTokens key hleft).bind fun _ _ _ => (h.remove key).then_concur fun _ => ?_
  exact (h.deliver key (hleft.paid seen)).bind fun _ _ _ => .pure rfl

theorem process (key : InvoiceKey) (htwins : invoice.Twins twin) :
    Action.Concur R Eq (poller.process key invoice) (poller.process key twin) := by
  refine h.now.then_concur fun now => ?_
  have hexpired : twin.isExpired (.int now) = invoice.isExpired (.int now) := by
    rw [htwins.same]
    rfl
  rw [hexpired]
  refine (Action.Blind.ofExcept _).then_concur fun expired => ?_
  split
  · refine (h.journal.report _ _ _).then_concur fun _ => ?_
    exact (h.remove key).then_concur fun _ => .pure rfl
  · refine (h.isPaid htwins).attempt_bind fun x y hend => ?_
    obtain rfl := hend.eq
    have haddress : twin.address = invoice.address := by rw [htwins.same]
    rw [haddress]
    split
    · exact h.handlePaid key htwins
    · exact .pure rfl
    · exact (h.journal.report _ _ _).then_concur fun _ => .pure rfl
    · exact .ofExcept (.error _)

theorem processAll {entries twins : List (InvoiceKey × Invoice)}
    (htwins : List.Forall₂ TwinEntries entries twins) :
    Action.Concur R Eq (poller.processAll entries) (poller.processAll twins) := by
  induction htwins with
  | nil => exact .pure rfl
  | @cons entry twin entries twins hentry hrest ih =>
    obtain ⟨key, invoice⟩ := entry
    obtain ⟨key', twin⟩ := twin
    obtain ⟨hkey, hinvoices⟩ := hentry
    obtain rfl : key' = key := hkey
    refine (Action.Blind.step h.stopped).then_concur fun stopped => ?_
    cases stopped with
    | true => exact .pure rfl
    | false =>
      refine (h.process key' hinvoices).bind fun status _ hstatus => ?_
      obtain rfl := hstatus
      refine (Action.Blind.update (h.sleep _)).then_concur fun _ => ?_
      refine ih.bind fun others _ hothers => ?_
      obtain rfl := hothers
      exact .pure rfl

/-- A pass over twins ends alike. -/
theorem runPass : Action.Blind R poller.runPass := by
  refine h.store.getAll.attempt_bind fun x y hend => ?_
  cases hend with
  | ok htwins =>
    dsimp only
    rw [htwins.length_eq]
    exact (h.journal.report _ _ _).then_concur fun _ => h.processAll htwins
  | error fault =>
    split
    · next heq => cases heq
    · exact (h.journal.report _ _ _).then_concur fun _ => .pure rfl
    · exact .ofExcept (.error _)

end Blind

end Poller

/-! ## Answers -/

theorem Verb.eq_of_ofName?_post {name : String} (h : Verb.ofName? name = some .post) :
    name = "POST" := by
  unfold Verb.ofName? at h
  split at h <;> first | rfl | cases h

/-- A resource is reached with the verb of the request. -/
theorem Route.verb_of_reached {path : List Char} {verb? : Option Verb} {resource : Resource}
    {verb : Verb} (h : Route.ofPath path verb? = .reached resource verb) : verb? = some verb := by
  have hresource {found : Resource} (h : Route.ofResource found verb? = .reached resource verb) :
      verb? = some verb := by
    unfold Route.ofResource at h
    split at h
    · split at h
      · cases h
        rfl
      · cases h
    · cases h
  unfold Route.ofPath at h
  split at h
  · exact hresource h
  · split at h
    · split at h
      · cases h
      · exact hresource h
    · cases h

namespace Site

/-- A site whose parts do not tell twins apart. -/
structure Blind (R : ω → ω → Prop) (site : Site ω) : Prop where
  store : site.gateway.store.Blind R
  journal : site.gateway.journal.Blind R
  isPolling : ∀ w v, R w v → site.isPolling w = site.isPolling v

theorem entry_eq {found twin : InvoiceKey × Invoice} (h : TwinEntries found twin) :
    entry found.1 found.2 = entry twin.1 twin.2 := by
  unfold entry
  rw [h.key, h.invoices.view_eq]

theorem shown_eq {entries twins : List (InvoiceKey × Invoice)}
    (h : List.Forall₂ TwinEntries entries twins) :
    (entries.map fun (id, invoice) => Json.object (entry id invoice)) =
      twins.map fun (id, invoice) => Json.object (entry id invoice) := by
  induction h with
  | nil => rfl
  | cons hentry _ ih => exact congrArg₂ List.cons (congrArg Json.object (entry_eq hentry)) ih

namespace Blind

variable {site : Site ω} (h : site.Blind R)

include h

theorem lookUp (resource : Resource) : Action.Blind R (site.lookUp resource) := by
  cases resource with
  | health =>
    have hpolling : Action.Blind R (Action.read site.isPolling) :=
      .step fun w v hr => ⟨h.isPolling w v hr, hr⟩
    exact hpolling.bind fun _ => .pure _
  | invoices =>
    refine h.store.getAll.bind fun entries twins htwins => .pure ?_
    rw [htwins.length_eq, shown_eq htwins]
  | latestInvoice =>
    refine h.store.latest.bind fun found twin htwins => .pure ?_
    exact congrArg Response.success (entry_eq htwins)
  | invoice id =>
    refine (h.store.get _).bind fun invoice twin htwins => .pure ?_
    have hentries : TwinEntries (.text id, invoice) (.text id, twin) := ⟨rfl, htwins⟩
    exact congrArg Response.success (entry_eq hentries)
  | file => exact .pure _

theorem serve (request : Request) (resource : Resource) {verb : Verb} (hverb : verb ≠ .post) :
    Action.Blind R (site.serve request resource verb) := by
  cases verb with
  | get => exact (h.lookUp resource).bind fun _ => .ofExcept _
  | head => exact (h.lookUp resource).bind fun _ => (Action.Blind.ofExcept _).bind fun _ => .pure _
  | post => exact absurd rfl hverb
  | options => exact .pure _

theorem serveSafely (request : Request) (path : List Char) (resource : Resource) {verb : Verb}
    (hverb : verb ≠ .post) : Action.Blind R (site.serveSafely request path resource verb) := by
  refine (h.serve request resource hverb).attempt_bind fun answer => ?_
  split
  · exact .pure _
  · exact .pure _
  · exact (Action.Blind.update (h.journal _)).bind fun _ => .pure _

/-- A request that is no order is answered alike. -/
theorem respond {request : Request} (hmethod : request.method.toUpper ≠ "POST") :
    Action.Blind R (site.respond request) := by
  refine (Action.Blind.ofExcept _).bind fun path => ?_
  split
  · unfold Site.answer
    split
    · next resource verb hroute =>
      refine h.serveSafely request path resource fun hpost => hmethod ?_
      rw [hpost] at hroute
      exact Verb.eq_of_ofName?_post (Route.verb_of_reached hroute)
    · exact .pure _
    · exact .pure _
    · exact .pure _
  · exact .pure _

end Blind

end Site

end DepositGateway
