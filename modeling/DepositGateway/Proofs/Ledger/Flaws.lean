import DepositGateway.Ledger.Node
import DepositGateway.Proofs.Text.RoundTrip

/-!
# Flaws of a node's reply

A node may reply with a value of any shape. What is read from it is given, unless it has a flaw; the
flaw that is met first tells the fault in which the reading ends. Two flaws are told by faults that
are none of a ledger: what is no object is asked for a key, and an infinite double for an integer.

* `Flaw`: what can be wrong with a reply, and `LedgerMethod.fault`: the fault that tells of it.
* `EndsBy`: a reading ends well or by a fault of its only flaw. `EndsBy.bind`: one in two steps.
* `NodeValue.toInteger_ends`, `NodeValue.get_ends`, `NodeValue.index_ends`,
  `NodeValue.elements_ends`: an integer, a key, a key that must be there, and the elements of a
  value.
-/

namespace DepositGateway

/-! ## Flaws -/

/-- What can be wrong with a reply. -/
inductive Flaw where
  /-- It is not of the shape that is expected. -/
  | wrongShape
  /-- It is of that shape, but stands for no integer. -/
  | unreadable
  /-- It is asked for a key and is no object. -/
  | noObject
  /-- It is infinite where an integer is expected. -/
  | infinite
  deriving DecidableEq

/-- The fault of an operation that tells of a flaw in the reply. -/
def LedgerMethod.fault (method : LedgerMethod) : Flaw → Fault
  | .wrongShape => .ledger (.malformed method.name)
  | .unreadable => .ledger (.rejected method.name)
  | .noObject => .missingAttribute
  | .infinite => .overflow

/-- The faults that a flaw shows itself by before the operation is blamed. -/
inductive Flaw.Raises : Flaw → Fault → Prop
  | badType : Raises .wrongShape .badType
  | missingKey : Raises .wrongShape NodeValue.missingKey
  | badValue : Raises .unreadable .badValue
  | notANumber : Raises .unreadable .notANumber
  | missingAttribute : Raises .noObject .missingAttribute
  | overflow : Raises .infinite .overflow

theorem Flaw.Raises.translate {flaw : Flaw} {fault : Fault} (h : flaw.Raises fault)
    (method : LedgerMethod) : method.translate fault = method.fault flaw := by
  cases h <;> rfl

theorem LedgerMethod.fault_injective (method : LedgerMethod) {flaw other : Flaw}
    (h : method.fault flaw = method.fault other) : flaw = other := by
  cases flaw <;> cases other <;> first | rfl | cases h

/-- A reading of a reply ends well where the reply has no flaw, and by a fault of its only flaw
otherwise. -/
def EndsBy {α : Type} (flawed : Flaw → Prop) : Except Fault α → Prop
  | .ok _ => ∀ flaw, ¬ flawed flaw
  | .error fault => ∃ flaw, flaw.Raises fault ∧ ∀ other, flawed other ↔ other = flaw

namespace EndsBy

variable {α β : Type} {flawed : Flaw → Prop}

theorem error {fault : Fault} {flaw : Flaw} (raises : flaw.Raises fault)
    (only : ∀ other, flawed other ↔ other = flaw) :
    EndsBy flawed (.error fault : Except Fault α) := ⟨flaw, raises, only⟩

theorem map {result : Except Fault α} (h : EndsBy flawed result) (f : α → β) :
    EndsBy flawed (f <$> result) := by
  cases result <;> exact h

/-- Without a flaw there is an answer. -/
theorem ok_iff {result : Except Fault α} (h : EndsBy flawed result) :
    (∃ answer, result = .ok answer) ↔ ∀ flaw, ¬ flawed flaw := by
  cases result with
  | ok answer => exact iff_of_true ⟨answer, rfl⟩ h
  | error fault =>
    obtain ⟨flaw, -, only⟩ := h
    exact iff_of_false nofun fun hnone => hnone flaw ((only flaw).2 rfl)

/-- The flaws of a reading in two steps are those of the first step and, where it ends well, those
of the second. -/
theorem bind {first : Except Fault α} {next : α → Except Fault β} {earlier : Flaw → Prop}
    (hfirst : EndsBy earlier first) (later : α → Flaw → Prop)
    (hnext : ∀ answer, first = .ok answer → EndsBy (later answer) (next answer))
    (h : ∀ flaw, flawed flaw ↔ earlier flaw ∨ ∃ answer, first = .ok answer ∧ later answer flaw) :
    EndsBy flawed (first >>= next) := by
  cases first with
  | error fault =>
    obtain ⟨flaw, raises, only⟩ := hfirst
    exact .error raises fun other => by simp [h, only]
  | ok answer =>
    have hflawed : flawed = later answer := by
      funext flaw
      have hnone : ¬ earlier flaw := hfirst flaw
      simp [h, hnone]
    rw [hflawed]
    exact hnext answer rfl

end EndsBy

/-! ## Replies -/

namespace NodeValue

/-- A value that stands for integers or could: a truth value, a number, a text or bytes. -/
inductive IsNumeral : NodeValue → Prop
  | bool (value : Bool) : IsNumeral (.bool value)
  | num (value : Number) : IsNumeral (.num value)
  | str (units : Utf16) : IsNumeral (.str units)
  | bytes (value : Bytes) : IsNumeral (.bytes value)

/-- A value that is an object. -/
inductive IsObject : NodeValue → Prop
  | obj (members : List (Utf16 × NodeValue)) : IsObject (.obj members)

/-- A value that can be run through: a list, an object, a text or bytes. -/
inductive IsSequence : NodeValue → Prop
  | arr (items : List NodeValue) : IsSequence (.arr items)
  | obj (members : List (Utf16 × NodeValue)) : IsSequence (.obj members)
  | str (units : Utf16) : IsSequence (.str units)
  | bytes (value : Bytes) : IsSequence (.bytes value)

/-- The value of a key of an object. -/
def member? (name : String) : NodeValue → Option NodeValue
  | obj members => lookup (Utf16.ofString name) members
  | _ => none

/-- An object that can be asked for a key has a value other than null under it. -/
structure Shows (value : NodeValue) (name : String) (shown : NodeValue) : Prop where
  free : value.member? "get" = none
  member : value.member? name = some shown
  given : shown ≠ .null

end NodeValue

/-- The flaw of a value that an integer is asked of. -/
inductive NumberFlaw : NodeValue → Flaw → Prop
  | shape {value : NodeValue} (other : ¬ value.IsNumeral) : NumberFlaw value .wrongShape
  | undefined {x : Binary64} (undefined : x.isNaN = true) :
      NumberFlaw (.num (.double x)) .unreadable
  | text {units : Utf16}
      (none : (Utf16.toString? units).bind (fun text => integerOfText? text.toList) = none) :
      NumberFlaw (.str units) .unreadable
  | bytes {digits : Bytes}
      (none : digits.all (· < 0x80) = true →
        integerOfText? (digits.map fun byte => Char.ofNat byte.toNat) = none) :
      NumberFlaw (.bytes digits) .unreadable
  | infinite {x : Binary64} (infinite : x.isInfinite = true) :
      NumberFlaw (.num (.double x)) .infinite

/-- The flaw of a value that a key is asked of: it is no object, or one of its keys stands in the
way of asking. -/
inductive KeyFlaw (value : NodeValue) : Flaw → Prop
  | noObject (other : ¬ value.IsObject) : KeyFlaw value .noObject
  | hidden {found : NodeValue} (hides : value.member? "get" = some found) :
      KeyFlaw value .wrongShape

/-! ## Reading a reply -/

theorem Binary64.truncate?_eq_none {x : Binary64} :
    x.truncate? = none ↔ x.isNaN = true ∨ x.isInfinite = true := by
  unfold truncate? isFinite isNaN isInfinite
  by_cases hexponent : x.exponentField = 2047 <;> by_cases hfraction : x.fractionField = 0 <;>
    simp [hexponent, hfraction]

theorem Binary64.not_isInfinite {x : Binary64} (h : x.isNaN = true) : x.isInfinite = false := by
  unfold isNaN at h
  unfold isInfinite
  simp_all

section NumberFlaw

variable {flaw : Flaw}

theorem numberFlaw_shape {value : NodeValue} (h : ¬ value.IsNumeral) :
    NumberFlaw value flaw ↔ flaw = .wrongShape := by
  refine ⟨fun hflaw => ?_, fun hflaw => hflaw ▸ .shape h⟩
  cases hflaw with
  | shape => rfl
  | undefined | infinite => exact absurd (.num _) h
  | text => exact absurd (.str _) h
  | bytes => exact absurd (.bytes _) h

theorem numberFlaw_double {x : Binary64} :
    NumberFlaw (.num (.double x)) flaw ↔
      flaw = .unreadable ∧ x.isNaN = true ∨ flaw = .infinite ∧ x.isInfinite = true := by
  constructor
  · rintro (hnone | hnan | _ | _ | hinfinite)
    · exact absurd (.num _) hnone
    · exact .inl ⟨rfl, hnan⟩
    · exact .inr ⟨rfl, hinfinite⟩
  · rintro (⟨rfl, hnan⟩ | ⟨rfl, hinfinite⟩)
    · exact .undefined hnan
    · exact .infinite hinfinite

theorem numberFlaw_str {units : Utf16} :
    NumberFlaw (.str units) flaw ↔ flaw = .unreadable ∧
      (Utf16.toString? units).bind (fun text => integerOfText? text.toList) = none := by
  constructor
  · rintro (hnone | _ | hnone)
    · exact absurd (.str _) hnone
    · exact ⟨rfl, hnone⟩
  · rintro ⟨rfl, hnone⟩
    exact .text hnone

theorem numberFlaw_bytes {digits : Bytes} :
    NumberFlaw (.bytes digits) flaw ↔ flaw = .unreadable ∧
      (digits.all (· < 0x80) = true →
        integerOfText? (digits.map fun byte => Char.ofNat byte.toNat) = none) := by
  constructor
  · rintro (hnone | _ | _ | hnone)
    · exact absurd (.bytes _) hnone
    · exact ⟨rfl, hnone⟩
  · rintro ⟨rfl, hnone⟩
    exact .bytes hnone

end NumberFlaw

namespace NodeValue

/-- An integer is read from a value unless the value has a flaw. -/
theorem toInteger_ends (value : NodeValue) : EndsBy (NumberFlaw value) value.toInteger := by
  cases value with
  | null | arr | obj | opaqueValue =>
    exact .error .badType fun _ => numberFlaw_shape nofun
  | bool value =>
    rintro flaw (hnone | _)
    exact hnone (.bool value)
  | num number =>
    cases number with
    | int value =>
      rintro flaw (hnone | _)
      exact hnone (.num _)
    | double x =>
      rw [toInteger, Number.toInteger]
      split
      · next whole hwhole =>
        have hfinite : ¬ (x.isNaN = true ∨ x.isInfinite = true) := by
          simp [← Binary64.truncate?_eq_none, hwhole]
        simp_all [EndsBy, numberFlaw_double]
      · next hwhole =>
        by_cases hnan : x.isNaN = true
        · rw [if_pos hnan]
          exact .error .notANumber fun other => by
            simp [numberFlaw_double, hnan, Binary64.not_isInfinite hnan]
        · have hinfinite := (Binary64.truncate?_eq_none.1 hwhole).resolve_left hnan
          rw [if_neg hnan]
          exact .error .overflow fun other => by simp [numberFlaw_double, hnan, hinfinite]
  | str units =>
    unfold toInteger Json.toInteger
    dsimp only
    split
    · next hread => simp [EndsBy, numberFlaw_str, hread]
    · next hread => exact .error .badValue fun other => by simp [numberFlaw_str, hread]
  | bytes digits =>
    unfold toInteger
    dsimp only
    split
    · next hread =>
      split
      · next hascii => simp [EndsBy, numberFlaw_bytes, hread, hascii]
      · next hascii => exact .error .badValue fun other => by simp [numberFlaw_bytes, hascii]
    · next hread => exact .error .badValue fun other => by simp [numberFlaw_bytes, hread]

/-- A key is asked of a value unless the value has a flaw, and then its value is given, null where
it has none. -/
theorem get_ends (name : String) (value : NodeValue) :
    EndsBy (KeyFlaw value) (value.get name) := by
  cases value with
  | obj members =>
    unfold get
    dsimp only
    split
    · next found hhides =>
      refine .error .badType fun other => ⟨?_, fun h => h ▸ .hidden hhides⟩
      rintro (hnone | _)
      · exact absurd (.obj members) hnone
      · rfl
    · next hfree =>
      rintro flaw (hnone | hhides)
      · exact hnone (.obj members)
      · rw [member?, hfree] at hhides
        cases hhides
  | _ =>
    refine .error .missingAttribute fun other => ⟨?_, fun h => h ▸ .noObject nofun⟩
    rintro (_ | hhides)
    · rfl
    · cases hhides

/-- A key that must be there is found, or its value is of a wrong shape. -/
theorem index_ends (name : String) (value : NodeValue) :
    EndsBy (fun flaw => flaw = .wrongShape ∧ value.member? name = none) (value.index name) := by
  cases value with
  | obj members =>
    unfold index
    dsimp only
    split
    · next found hfound => simp [EndsBy, member?, hfound]
    · next hnone => exact .error .missingKey fun other => and_iff_left hnone
  | _ => exact .error .badType fun other => and_iff_left rfl

theorem index_eq_ok {name : String} {value found : NodeValue} :
    value.index name = .ok found ↔ value.member? name = some found := by
  cases value with
  | obj members =>
    unfold index
    dsimp only
    split
    · next other hother => rw [member?, hother, Except.ok.injEq, Option.some.injEq]
    · next hnone => simp [member?, hnone]
  | _ => exact iff_of_false nofun nofun

theorem elements_ends (value : NodeValue) :
    EndsBy (fun flaw => flaw = .wrongShape ∧ ¬ value.IsSequence) value.elements := by
  cases value with
  | arr items => exact fun _ h => h.2 (.arr items)
  | obj members => exact fun _ h => h.2 (.obj members)
  | str units => exact fun _ h => h.2 (.str units)
  | bytes value => exact fun _ h => h.2 (.bytes value)
  | _ => exact .error .badType fun other => and_iff_left nofun

/-- What an object shows under a key is what it gives when asked, if that is not null. -/
theorem shows_iff {name : String} {value shown : NodeValue} :
    value.Shows name shown ↔ value.get name = .ok shown ∧ shown ≠ .null := by
  cases value with
  | obj members =>
    unfold get
    dsimp only
    split
    · next found hhides =>
      refine iff_of_false (fun h => ?_) nofun
      have hfree := h.free
      rw [member?, hhides] at hfree
      cases hfree
    · next hfree =>
      rw [Except.ok.injEq]
      constructor
      · rintro ⟨-, hmember, hgiven⟩
        rw [member?] at hmember
        rw [hmember]
        exact ⟨rfl, hgiven⟩
      · rintro ⟨rfl, hgiven⟩
        cases hmember : lookup (Utf16.ofString name) members with
        | none => exact absurd (by rw [hmember]; rfl) hgiven
        | some found => exact ⟨hfree, hmember, by rwa [hmember] at hgiven⟩
  | _ => exact iff_of_false (fun h => nomatch h.member) nofun

end NodeValue

end DepositGateway
