import DepositGateway.Proofs.Poller.Orderly
import DepositGateway.Proofs.Run.Account

/-!
# At most one sweep, one notice and one removal

The store is a set of keys in which what is there can be deleted, and sweeps fail only as sweeps
do. Then a treatment leaves the keys of the store alone, or it takes its own key out and closes it;
an order only adds the key it issued. As keys are issued once, a key that was closed never comes
back.

* `Moves`, `Evolves`: an entry of a log, and a whole log, as changes of the keys that are stored.
* `Evolves.settled`: such a log settles every key.
* `Service.at_most_once`: what that says of whole runs.
-/

namespace DepositGateway

variable {ω : Type} {keys : ω → List InvoiceKey}

/-- What an entry of a log does to the keys that were stored in `w`. -/
inductive Moves (keys : ω → List InvoiceKey) (w : ω) : Happening ω → Prop
  | ordered {events : List Event} {w' : ω}
      (added : ∀ key ∈ keys w', key ∈ keys w ∨ key ∈ events.filterMap Event.issued?)
      (quiet : ∀ key, (Happening.ordered events w').Effect key 0 0) :
      Moves keys w (.ordered events w')
  | left {turn : Turn ω} (issues : issued [.treated turn] = []) (stored : turn.key ∈ keys w)
      (same : keys turn.world = keys w)
      (quiet : ∀ key, (Happening.treated turn).Effect key 0 0)
      (pending : ∀ status, turn.result = .ok status → status = .pending) :
      Moves keys w (.treated turn)
  | closed {turn : Turn ω} {status : InvoiceStatus} (swept : Nat)
      (issues : issued [.treated turn] = []) (stored : turn.key ∈ keys w)
      (removed : ∀ key, key ∈ keys turn.world ↔ key ≠ turn.key ∧ key ∈ keys w)
      (effect : (Happening.treated turn).Effect turn.key swept 1) (once : swept ≤ 1)
      (others : ∀ key, key ≠ turn.key → (Happening.treated turn).Effect key 0 0)
      (result : turn.result = .ok status) (final : status ≠ .pending)
      (expired : status = .expired → swept = 0) :
      Moves keys w (.treated turn)

/-- A log as a sequence of such changes, from one world to another. -/
inductive Evolves (keys : ω → List InvoiceKey) : ω → List (Happening ω) → ω → Prop
  | nil {w w' : ω} (same : keys w' = keys w) : Evolves keys w [] w'
  | cons {w w₁ w' : ω} {happening : Happening ω} {log : List (Happening ω)}
      (same : keys w₁ = keys w) (moves : Moves keys w₁ happening)
      (rest : Evolves keys happening.world log w') : Evolves keys w (happening :: log) w'

namespace Moves

variable {w : ω} {happening : Happening ω} {key : InvoiceKey}

theorem concerns (h : Moves keys w happening) (key : InvoiceKey) : happening.Concerns key := by
  cases h with
  | ordered _ quiet =>
    refine .leaves (quiet key) ?_
    rintro ⟨status, -, turn, h, -⟩
    cases h
  | left _ _ _ quiet pending =>
    refine .leaves (quiet key) ?_
    rintro ⟨status, hs, turn, h, -, hr⟩
    cases h
    exact hs (pending status hr)
  | @closed turn status _ _ _ _ effect once others result final expired =>
    by_cases hk : key = turn.key
    · subst hk
      refine .closes ⟨status, final, turn, rfl, rfl, result⟩ once effect ?_
      rintro ⟨turn', h, -, hr⟩
      cases h
      rw [result] at hr
      cases hr
      exact expired rfl
    · refine .leaves (others key hk) ?_
      rintro ⟨status', -, turn', h, hk', -⟩
      cases h
      exact hk hk'.symm

/-- A key that is stored after an entry was stored before, or was issued by the entry. -/
theorem stored_before (h : Moves keys w happening) (hm : key ∈ keys happening.world) :
    key ∈ keys w ∨ key ∈ issued [happening] := by
  cases h with
  | ordered added => simpa [issued, Happening.events] using added key hm
  | left _ _ same =>
    left
    rw [← same]
    exact hm
  | closed _ _ _ removed => exact .inl ((removed key).1 hm).2

/-- A treatment leaves every other key stored. -/
theorem stays {turn : Turn ω} (h : Moves keys w (.treated turn)) (hk : key ≠ turn.key)
    (hm : key ∈ keys w) : key ∈ keys turn.world := by
  cases h with
  | left _ _ same => rwa [same]
  | closed _ _ _ removed => exact (removed key).2 ⟨hk, hm⟩

theorem issued_eq_nil {turn : Turn ω} (h : Moves keys w (.treated turn)) :
    issued [.treated turn] = [] := by
  cases h with
  | left issues => exact issues
  | closed _ issues => exact issues

theorem stored_of_treated (h : Moves keys w happening) (ht : happening.key? = some key) :
    key ∈ keys w := by
  cases h with
  | ordered => cases ht
  | left _ stored =>
    cases ht
    exact stored
  | closed _ _ stored =>
    cases ht
    exact stored

/-- A key that an entry closes was stored, and is no longer. -/
theorem gone_of_closes (h : Moves keys w happening) (hc : happening.Closes key) :
    key ∈ keys w ∧ key ∉ keys happening.world := by
  refine ⟨h.stored_of_treated hc.key?, fun hm => ?_⟩
  obtain ⟨status, hs, turn, rfl, rfl, hr⟩ := hc
  cases h with
  | left _ _ _ _ pending => exact hs (pending status hr)
  | closed _ _ _ removed => exact ((removed turn.key).1 hm).1 rfl

end Moves

namespace Evolves

variable {w w₁ w₂ : ω} {log log' : List (Happening ω)} {key : InvoiceKey}

theorem of_alike (h : Evolves keys w log w₁) {w₀ : ω} (same : keys w = keys w₀) :
    Evolves keys w₀ log w₁ := by
  cases h with
  | nil same' => exact .nil (same'.trans same)
  | cons same' moves rest => exact .cons (same'.trans same) moves rest

theorem append (h : Evolves keys w log w₁) (h' : Evolves keys w₁ log' w₂) :
    Evolves keys w (log ++ log') w₂ := by
  induction h with
  | nil same => exact h'.of_alike same
  | cons same moves _ ih => exact .cons same moves (ih h')

/-- A key that is stored in the end was stored at first, or was issued. -/
theorem stored_before (h : Evolves keys w log w₁) (hm : key ∈ keys w₁) :
    key ∈ keys w ∨ key ∈ issued log := by
  induction h with
  | nil same => exact .inl (same ▸ hm)
  | @cons w w₁ w' happening log same moves _ ih =>
    rw [issued_cons, List.mem_append, ← same]
    rcases ih hm with h | h
    · exact (moves.stored_before h).imp_right .inl
    · exact .inr (.inr h)

/-- Treatments issue nothing. -/
theorem issued_treated {turns : List (Turn ω)} (h : Evolves keys w (turns.map .treated) w₁) :
    issued (turns.map Happening.treated) = [] := by
  induction turns generalizing w with
  | nil => rfl
  | cons turn rest ih =>
    cases h with
    | cons _ moves hrest =>
      rw [List.map_cons, issued_cons, moves.issued_eq_nil, ih hrest]
      rfl

/-- A key that is not stored and never issued again does not come back. -/
theorem gone (h : Evolves keys w log w₁) (hs : key ∉ keys w) (hi : key ∉ issued log) :
    key ∉ keys w₁ ∧
      ∀ happening ∈ log, happening.key? ≠ some key ∧ key ∉ keys happening.world := by
  induction h with
  | nil same =>
    rw [same]
    exact ⟨hs, by simp⟩
  | @cons w w₁ w' happening log same moves _ ih =>
    rw [← same] at hs
    rw [issued_cons, List.mem_append, not_or] at hi
    have hgone : key ∉ keys happening.world := fun hm => (moves.stored_before hm).elim hs hi.1
    obtain ⟨hlast, hrest⟩ := ih hgone hi.2
    refine ⟨hlast, fun other hm => ?_⟩
    rcases List.mem_cons.1 hm with rfl | hm
    · exact ⟨fun ht => hs (moves.stored_of_treated ht), hgone⟩
    · exact hrest other hm

/-- After a key was closed no entry treats it, and it is not stored. -/
theorem final (h : Evolves keys w log w₁) (hd : (issued log).Nodup)
    (hs : ∀ key ∈ keys w, key ∉ issued log) :
    log.Pairwise (fun earlier later => ∀ key, earlier.Closes key →
      later.key? ≠ some key ∧ key ∉ keys later.world) ∧
    ∀ happening ∈ log, ∀ key, happening.Closes key → key ∉ keys w₁ := by
  induction h with
  | nil => exact ⟨.nil, by simp⟩
  | @cons w w₁ w' happening log same moves rest ih =>
    rw [← same] at hs
    rw [issued_cons, List.nodup_append] at hd
    obtain ⟨-, hdrest, hdisjoint⟩ := hd
    simp only [issued_cons happening log, List.mem_append, not_or] at hs
    have hstored : ∀ key ∈ keys happening.world, key ∉ issued log := by
      intro key hm hi
      rcases moves.stored_before hm with hk | hk
      · exact (hs key hk).2 hi
      · exact hdisjoint key hk key hi rfl
    obtain ⟨hpair, hlast⟩ := ih hdrest hstored
    have hclosed : ∀ key, happening.Closes key → key ∉ keys w' ∧
        ∀ other ∈ log, other.key? ≠ some key ∧ key ∉ keys other.world := by
      intro key hc
      obtain ⟨hin, hout⟩ := moves.gone_of_closes hc
      exact rest.gone hout (hs key hin).2
    refine ⟨List.pairwise_cons.2 ⟨fun other hm key hc => (hclosed key hc).2 other hm, hpair⟩, ?_⟩
    intro other hm key hc
    rcases List.mem_cons.1 hm with rfl | hm
    · exact (hclosed key hc).1
    · exact hlast other hm key hc

theorem gone_at (h : Evolves keys w log w₁) {happening : Happening ω} (hm : happening ∈ log)
    (hc : happening.Closes key) : key ∉ keys happening.world := by
  induction h with
  | nil => cases hm
  | cons _ moves _ ih =>
    rcases List.mem_cons.1 hm with rfl | hm
    · exact (moves.gone_of_closes hc).2
    · exact ih hm

theorem concerns (h : Evolves keys w log w₁) (key : InvoiceKey) :
    ∀ happening ∈ log, happening.Concerns key := by
  induction h with
  | nil => simp
  | cons _ moves _ ih =>
    intro happening hm
    rcases List.mem_cons.1 hm with rfl | hm
    · exact moves.concerns key
    · exact ih happening hm

/-- A log in which no key is issued twice settles every key. -/
theorem settled (h : Evolves keys w log w₁) (hd : (issued log).Nodup)
    (hs : ∀ key ∈ keys w, key ∉ issued log) (key : InvoiceKey) : Settled key log where
  concerns := h.concerns key
  final := (h.final hd hs).1.imp fun hp hc => (hp key hc).1

end Evolves

/-! ## The log of a run is such a chain -/

/-- All stored keys are texts. -/
def Texts (keys : ω → List InvoiceKey) (w : ω) : Prop := ∀ key ∈ keys w, ∃ id, key = .text id

/-- A change of the surroundings leaves the store alone. -/
def Step.Respects (keys : ω → List InvoiceKey) : Step ω → Prop
  | .change update => ∀ w, keys (update w) = keys w
  | _ => True

/-- The step is an order. -/
def Step.isOrder : Step ω → Bool
  | .order .. => true
  | _ => false

/-- The same keys are stored. -/
def Alike (keys : ω → List InvoiceKey) (w w' : ω) : Prop := keys w' = keys w

section

variable {poller : Poller ω} {gateway : Gateway ω}

theorem removes_stored (hs : poller.store.Shelves keys) {id : String} {w w' : ω}
    {answer : Except Fault Unit} (hm : .text id ∈ keys w)
    (h : poller.Removes (Alike keys) (.text id) w answer w') :
    answer = .ok () ∧ ∀ key, key ∈ keys w' ↔ key ≠ .text id ∧ key ∈ keys w := by
  obtain ⟨w₁, w₂, hbefore, hdelete, hafter⟩ := h
  have hd := hs.delete id (w := w₁) (by rw [hbefore]; exact hm)
  rw [hdelete] at hd
  refine ⟨hd.1, fun key => ?_⟩
  rw [hafter, hd.2, hbefore]

/-- The treatment of a stored invoice, whose sweep can only fail as sweeps do. -/
theorem turn_moves (hs : poller.store.Shelves keys) (hk : poller.Keeps (Alike keys))
    (he : poller.SweepsEnd)
    {id : String} (invoice : Invoice) {w : ω} (hm : .text id ∈ keys w) :
    Moves keys w (.treated (poller.turn poller.silentSweep (.text id, invoice) w)) := by
  have hc := (Poller.turn_course hk poller.notes_silent (.text id, invoice) w).2
  have hkey := Poller.turn_key poller poller.silentSweep (.text id, invoice) w
  generalize poller.turn poller.silentSweep (.text id, invoice) w = turn at hc hkey
  obtain ⟨key, _, result, events, w'⟩ := turn
  simp only at hc hkey
  subst hkey
  cases hc with
  | undated _ _ same =>
    refine .left rfl hm same (fun key => Happening.effect_treated ?_ ?_ ?_) (by simp) <;>
      simp [Event.isSwept, Event.isSent, Event.isDeleted]
  | @expired reading answer w' _ _ removes =>
    obtain ⟨rfl, hremoved⟩ := removes_stored hs hm removes
    refine .closed 0 rfl hm hremoved (Happening.effect_treated ?_ ?_ ?_) (by decide)
      (fun key hkey => Happening.effect_treated ?_ ?_ ?_) rfl (by decide) (fun _ => rfl) <;>
      simp [Event.isSwept, Event.isSent, Event.isDeleted]
    exact fun h => hkey h.symm
  | unpaid _ _ _ _ same =>
    refine .left rfl hm same (fun key => Happening.effect_treated ?_ ?_ ?_)
      (fun status => Poller.unpaidResult_ok) <;>
      simp [Event.isSwept, Event.isSent, Event.isDeleted]
  | undetected _ _ _ _ _ _ same =>
    refine .left rfl hm same (fun key => Happening.effect_treated ?_ ?_ ?_) (by simp) <;>
      simp [Event.isSwept, Event.isSent, Event.isDeleted]
  | abandoned _ sweeps foreign =>
    exact absurd foreign (Poller.settlement_ne_error (sweeps.ends he) _)
  | unremoved _ _ _ removes foreign =>
    obtain ⟨rfl, -⟩ := removes_stored hs hm removes
    cases foreign
  | handedOver _ detects sweeps ended removes =>
    obtain ⟨rfl, hremoved⟩ := removes_stored hs hm removes
    obtain ⟨reading, answer, reading', -, -, -, -, -, -, rfl⟩ := detects
    rw [sweeps.silent]
    have hstatus := Poller.settlement_status ended
    refine .closed 1 rfl hm hremoved (Happening.effect_treated ?_ ?_ ?_) (by decide)
      (fun key hkey => Happening.effect_treated ?_ ?_ ?_) rfl ?_ ?_
    · rw [if_pos rfl]
      rfl
    · simp [Event.isSent]
    · simp [Event.isDeleted]
    · simp [hkey.symm]
    · simp [Event.isSent, hkey.symm]
    · simp [Event.isDeleted, hkey.symm]
    · rintro rfl
      simp at hstatus
    · rintro rfl
      simp at hstatus

/-- The treatment of distinct stored invoices. -/
theorem turns_evolves (hs : poller.store.Shelves keys) (hk : poller.Keeps (Alike keys))
    (he : poller.SweepsEnd) (entries : List (InvoiceKey × Invoice)) {w : ω} (ht : Texts keys w)
    (hd : (entries.map Prod.fst).Nodup) (hm : ∀ entry ∈ entries, entry.1 ∈ keys w) :
    Evolves keys w ((poller.turns poller.silentSweep entries w).1.map .treated)
      (poller.turns poller.silentSweep entries w).2 := by
  induction entries generalizing w with
  | nil => exact .nil rfl
  | cons entry rest ih =>
    obtain ⟨key, invoice⟩ := entry
    have hstop : keys (poller.stopped w).2 = keys w := hk.stopped w
    rcases h : poller.stopped w with ⟨_ | _, w₁⟩
    · rw [h] at hstop
      have hstored : key ∈ keys w₁ := by
        rw [hstop]
        exact hm _ (List.mem_cons_self ..)
      obtain ⟨id, rfl⟩ := ht key (hm _ (List.mem_cons_self ..))
      have hmoves := turn_moves hs hk he invoice hstored
      simp only [Poller.turns, h]
      generalize hturn : poller.turn poller.silentSweep (.text id, invoice) w₁ = turn at hmoves
      have hkey : turn.key = .text id := by rw [← hturn]; rfl
      cases turn.result with
      | error fault => exact .cons hstop hmoves (.nil rfl)
      | ok status =>
        have hsleep : keys (poller.sleep poller.invoiceDelay turn.world) = keys turn.world :=
          hk.sleep _ _
        rw [List.map_cons, List.nodup_cons] at hd
        have hrest := ih (w := poller.sleep poller.invoiceDelay turn.world) ?_ hd.2 ?_
        · exact .cons hstop hmoves (hrest.of_alike hsleep)
        · intro k hk'
          rw [hsleep] at hk'
          have := hmoves.stored_before hk'
          rw [hmoves.issued_eq_nil] at this
          exact ht k (hstop ▸ this.resolve_right List.not_mem_nil)
        · intro other hother
          rw [hsleep]
          refine hmoves.stays ?_ (hstop ▸ hm other (List.mem_cons_of_mem _ hother))
          rintro hsame
          exact hd.1 (List.mem_map.2 ⟨other, hother, hsame.trans hkey⟩)
    · rw [h] at hstop
      simp only [Poller.turns, h]
      exact .nil hstop

/-- One pass. -/
theorem passTurns_evolves (hs : poller.store.Shelves keys) (hk : poller.Keeps (Alike keys))
    (he : poller.SweepsEnd) {w : ω} (ht : Texts keys w) :
    Evolves keys w ((poller.passTurns poller.silentSweep w).1.map .treated)
      (poller.passTurns poller.silentSweep w).2 := by
  have hlist := hs.getAll w
  unfold Poller.passTurns
  rcases h : poller.store.getAll.apply w with ⟨fault | entries, w₁⟩
  · rw [h] at hlist
    rcases fault with _ | fault | _ | _ | _
    case store => exact .nil ((hk.journal _ w₁).trans hlist)
    all_goals exact .nil hlist
  · rw [h] at hlist
    have hentries := hs.listed h
    have hjournal : keys ((poller.info
        ("Pending invoices: " ++ Decimal.text entries.length)).apply w₁).2 = keys w :=
      (hk.journal _ w₁).trans hlist
    refine (turns_evolves hs hk he entries ?_ (hentries.nodup (hs.distinct w)) ?_).of_alike hjournal
    · intro key hm
      exact ht key (hjournal ▸ hm)
    · intro entry hm
      rw [hjournal]
      exact hentries.subset (List.mem_map_of_mem hm)

theorem passTurns_issued (hs : poller.store.Shelves keys) (hk : poller.Keeps (Alike keys))
    (he : poller.SweepsEnd) {w : ω} (ht : Texts keys w) :
    issued ((poller.passTurns poller.silentSweep w).1.map Happening.treated) = [] :=
  (passTurns_evolves hs hk he ht).issued_treated

/-- One order. -/
theorem creation_moves (hs : gateway.store.Shelves keys) {Made : Invoice → Prop} {w w' : ω}
    {events : List Event} (h : gateway.Creation (Alike keys) Made w events w') (ht : Texts keys w) :
    Moves keys w (.ordered events w') ∧ Texts keys w' := by
  cases h with
  | refused readings same =>
    refine ⟨.ordered (fun key hm => .inl (same ▸ hm)) fun key => ⟨rfl, ?_, ?_⟩, ?_⟩
    · simp [deliveries, Happening.events, List.countP_map, Function.comp_def, Event.isSent]
    · simp [removals, Happening.events, List.countP_map, Function.comp_def, Event.isDeleted]
    · intro key hm
      exact ht key (same ▸ hm)
  | @stored readings id invoice answer w₁ w₂ _ before _ set after =>
    have hadded : ∀ key ∈ keys w', key = .text id ∨ key ∈ keys w := by
      intro key hm
      rw [after] at hm
      have := hs.set id invoice (w := w₁) (k := key) (by rwa [set])
      rwa [before] at this
    refine ⟨.ordered (fun key hm => ?_) fun key => ⟨rfl, ?_, ?_⟩, ?_⟩
    · rcases hadded key hm with rfl | hm
      · exact .inr (by simp [Event.issued?])
      · exact .inl hm
    · simp [deliveries, Happening.events, List.countP_map, Function.comp_def, Event.isSent]
    · simp [removals, Happening.events, List.countP_map, Function.comp_def, Event.isDeleted]
    · intro key hm
      exact (hadded key hm).elim (fun h => ⟨id, h⟩) (ht key)

end

namespace Service

variable {service : Service ω}

/-- What a service needs for its store to be a set of keys that nothing else touches, and for its
sweeps to end. -/
structure Sound (service : Service ω) (keys : ω → List InvoiceKey) : Prop where
  silent : service.sweep = service.poller.silentSweep
  sameStore : service.gateway.store = service.poller.store
  store : service.poller.store.Shelves keys
  poller : service.poller.Keeps (Alike keys)
  gateway : service.gateway.Keeps (Alike keys)
  sweep : service.poller.SweepsEnd

theorem happenings_evolves (hs : service.Sound keys) {step : Step ω} (hr : step.Respects keys)
    {w : ω} (ht : Texts keys w) :
    Evolves keys w (service.happenings step w).1 (service.happenings step w).2 ∧
      Texts keys (service.happenings step w).2 := by
  cases step with
  | order amount method message expiresIn =>
    obtain ⟨result, events, w', hshows, hcreation⟩ :=
      Gateway.newInvoice_shows hs.gateway amount method message expiresIn w
    obtain ⟨hmoves, ht'⟩ := creation_moves (hs.sameStore ▸ hs.store) hcreation ht
    have hlog : service.happenings (.order amount method message expiresIn) w =
        ([.ordered events w'], w') := by simp [happenings, hshows.traced]
    rw [hlog]
    exact ⟨.cons rfl hmoves (.nil rfl), ht'⟩
  | change update =>
    refine ⟨.nil (hr w), fun key hm => ht key ?_⟩
    exact hr w ▸ hm
  | pass =>
    have hevolves := passTurns_evolves hs.store hs.poller hs.sweep ht
    have hlog : service.happenings .pass w =
        ((service.poller.passTurns service.poller.silentSweep w).1.map .treated,
          (service.poller.passTurns service.poller.silentSweep w).2) := by
      rw [← hs.silent]
      rfl
    rw [hlog]
    refine ⟨hevolves, fun key hm => ht key ?_⟩
    have := hevolves.stored_before hm
    rw [passTurns_issued hs.store hs.poller hs.sweep ht] at this
    exact this.resolve_right List.not_mem_nil

/-- A run issues at most one key for each order. -/
theorem issued_length_le (hs : service.Sound keys) {steps : List (Step ω)}
    (hr : ∀ step ∈ steps, step.Respects keys) {w : ω} (ht : Texts keys w) :
    (issued (service.log steps w).1).length ≤ steps.countP Step.isOrder := by
  induction steps generalizing w with
  | nil => simp [log, issued]
  | cons step rest ih =>
    obtain ⟨hevolves, ht'⟩ := happenings_evolves hs (hr step (List.mem_cons_self ..)) ht
    have hrest := ih (fun other hm => hr other (List.mem_cons_of_mem _ hm)) ht'
    have hlog : issued (service.log (step :: rest) w).1 =
        issued (service.happenings step w).1 ++
          issued (service.log rest (service.happenings step w).2).1 := by
      simp [log, issued]
    rw [hlog, List.length_append, List.countP_cons, Nat.add_comm]
    refine Nat.add_le_add hrest ?_
    cases step with
    | order amount method message expiresIn =>
      obtain ⟨result, events, w', hshows, hcreation⟩ :=
        Gateway.newInvoice_shows hs.gateway amount method message expiresIn w
      have hevents : issued (service.happenings (.order amount method message expiresIn) w).1 =
          events.filterMap Event.issued? := by
        simp [happenings, hshows.traced, issued, Happening.events]
      rw [hevents]
      cases hcreation with
      | refused readings =>
        simp [List.filterMap_map, Function.comp_def, Event.issued?]
      | stored readings =>
        simp [List.filterMap_map, Function.comp_def, Event.issued?, Step.isOrder]
    | change update => simp [happenings, issued]
    | pass =>
      have hnone := passTurns_issued hs.store hs.poller hs.sweep ht
      rw [← hs.silent] at hnone
      simp [happenings, hnone]

theorem log_evolves (hs : service.Sound keys) {steps : List (Step ω)}
    (hr : ∀ step ∈ steps, step.Respects keys) {w : ω} (ht : Texts keys w) :
    Evolves keys w (service.log steps w).1 (service.log steps w).2 := by
  induction steps generalizing w with
  | nil => exact .nil rfl
  | cons step rest ih =>
    obtain ⟨hfirst, ht'⟩ := happenings_evolves hs (hr step (List.mem_cons_self ..)) ht
    exact hfirst.append (ih (fun other hm => hr other (List.mem_cons_of_mem _ hm)) ht')

/-- In a run that begins with an empty store and issues no key twice, each invoice is swept, handed
over and removed at most once, and at each point it was swept as often as it was handed over. One
that was reported as expired is neither swept nor handed over in the whole run. After an invoice was
reported as expired, settled or not settled it is not stored and not treated again. -/
theorem at_most_once (hs : service.Sound keys) {steps : List (Step ω)}
    (hr : ∀ step ∈ steps, step.Respects keys) {w : ω} (hempty : keys w = [])
    (hd : (issued (service.log steps w).1).Nodup) :
    (∀ key, sweeps key (service.log steps w).1 ≤ 1 ∧ deliveries key (service.log steps w).1 ≤ 1 ∧
      removals key (service.log steps w).1 ≤ 1) ∧
    (∀ before after, (service.log steps w).1 = before ++ after →
      ∀ key, sweeps key before = deliveries key before) ∧
    (∀ happening ∈ (service.log steps w).1, ∀ key, happening.Reports key .expired →
      sweeps key (service.log steps w).1 = 0 ∧ deliveries key (service.log steps w).1 = 0) ∧
    (service.log steps w).1.Pairwise (fun earlier later => ∀ key, earlier.Closes key →
      later.key? ≠ some key ∧ key ∉ keys later.world) ∧
    ∀ happening ∈ (service.log steps w).1, ∀ key, happening.Closes key →
      key ∉ keys happening.world ∧ key ∉ keys (service.log steps w).2 := by
  have hevolves := log_evolves hs hr (w := w) fun key hm => by simp [hempty] at hm
  have hnone : ∀ key ∈ keys w, key ∉ issued (service.log steps w).1 := by simp [hempty]
  have hsettled := hevolves.settled hd hnone
  obtain ⟨hpair, hlast⟩ := hevolves.final hd hnone
  refine ⟨fun key => (hsettled key).counts, ?_, ?_, hpair, ?_⟩
  · intro before after hlog key
    have h := hsettled key
    rw [hlog] at h
    exact h.initial.balanced
  · intro happening hm key he
    exact (hsettled key).expired hm he
  · intro happening hm key hc
    exact ⟨hevolves.gone_at hm hc, hlast happening hm key hc⟩

/-- The steady poller with a gateway that gives out one and the same address. -/
def steady (balance now : Int) : Service (Keyed InvoiceKey Invoice) where
  gateway :=
    { store := Store.ofMemory Cell.whole
      journal := fun _ w => w
      clock := fun w => (.int now, w)
      issueKey := pure ("0x00", ⟨[]⟩) }
  poller := Poller.steady balance now

theorem steady_sound (balance now : Int) : (steady balance now).Sound Keyed.keys where
  silent := rfl
  sameStore := rfl
  store := Store.ofMemory_shelves Cell.lawful_whole
  poller := by
    constructor <;> intros
    case trans h h' => exact h'.trans h
    all_goals rfl
  gateway := by
    constructor <;> intros
    case trans h h' => exact h'.trans h
    all_goals rfl
  sweep := (Poller.steady_orderly balance now).sweep

/-- One order and two passes. -/
def orderAndPasses : List (Step (Keyed InvoiceKey Invoice)) :=
  [.order (.int 5) .native [] 60, .pass, .pass]

theorem at_most_once_steady :
    (issued ((steady 7 100).log orderAndPasses Keyed.empty).1).Nodup ∧
      ∀ key, sweeps key ((steady 7 100).log orderAndPasses Keyed.empty).1 ≤ 1 := by
  have hr : ∀ step ∈ orderAndPasses, step.Respects Keyed.keys := by
    simp [orderAndPasses, Step.Respects]
  have hd : (issued ((steady 7 100).log orderAndPasses Keyed.empty).1).Nodup := by
    have : (issued ((steady 7 100).log orderAndPasses Keyed.empty).1).length ≤ 1 :=
      issued_length_le (steady_sound 7 100) hr fun key hm => nomatch hm
    match h : issued ((steady 7 100).log orderAndPasses Keyed.empty).1 with
    | [] => exact List.nodup_nil
    | [key] => simp
    | first :: second :: rest =>
      rw [h] at this
      simp at this
  exact ⟨hd, fun key => ((at_most_once (steady_sound 7 100) hr rfl hd).1 key).1⟩

end Service

end DepositGateway
