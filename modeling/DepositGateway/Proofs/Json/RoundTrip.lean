import DepositGateway.Json.Parser
import DepositGateway.Proofs.Decimal.Shortest
import DepositGateway.Proofs.Json.Plain
import DepositGateway.Proofs.Text.RoundTrip
import Mathlib.Data.List.Forall2
import Mathlib.Tactic.Choose

/-!
# Written values are read back

The written form of a value is read from the front of any text in which a comma, a closing bracket
or nothing follows it, and what follows is left. Every depth of the reader takes one of its fuel,
and every depth of a value at least one character, so as much fuel as there are characters is
enough.

* `Json.textBody?_printUnits`: a text is read back up to its closing quote.
* `Json.ReadsAs`: what a value is read as, whatever may follow a value. `Json.Plain.readsBack`: a
  plain value is read as it is. `Json.exists_readsAs`: any other is read as well, its doubles and
  its objects perhaps as others.
* `Json.parse?_render`: the written form of a plain value is read as the value with its keys in
  order. `Json.exists_parse?_render`: that of any value is read.
* `Json.isAscii_print`: the written form of a value is ASCII.
-/

namespace DepositGateway

/-! ## Digits -/

namespace Decimal

theorem ne_of_isDigit {c other : Char} (h : isDigit c = true) (hother : isDigit other = false) :
    c ≠ other := by
  rintro rfl
  simp [hother] at h

/-- An integer begins with a digit or a minus sign. -/
theorem ofInt_opens (value : Int) :
    ∃ first rest, ofInt value = first :: rest ∧ (isDigit first = true ∨ first = '-') := by
  obtain ⟨first, rest, hdigits, hfirst⟩ := digits_cons value.natAbs
  rw [ofInt, hdigits]
  split
  · exact ⟨_, _, rfl, .inr rfl⟩
  · exact ⟨_, _, rfl, .inl hfirst⟩

theorem digits_zero : digits 0 = ['0'] := digits_of_lt (by omega)

/-- Digits before a point begin with one. -/
theorem Whole.opens {whole : List Char} (h : Whole whole) :
    ∃ first rest, whole = first :: rest ∧ isDigit first = true := by
  cases h with
  | zero => exact ⟨_, _, rfl, rfl⟩
  | digits leading _ _ => exact ⟨_, _, rfl, leading⟩

/-- A number that is not written as an integer begins with a digit. -/
theorem Spelled.opens {text : List Char} (h : Spelled text) :
    ∃ first rest, text = first :: rest ∧ isDigit first = true := by
  cases h with
  | fraction before _ | exponent before _ _ | both before _ _ _ =>
    obtain ⟨first, rest, rfl, hfirst⟩ := before.opens
    exact ⟨first, _, rfl, hfirst⟩

end Decimal

namespace Json

/-! ## What may follow a value -/

/-- What stands behind a value inside a text, or at its end. -/
inductive Closes : List Char → Prop
  | nil : Closes []
  | comma (rest : List Char) : Closes (',' :: rest)
  | bracket (rest : List Char) : Closes (']' :: rest)
  | brace (rest : List Char) : Closes ('\x7d' :: rest)

theorem Closes.takeWhile_isDigit {rest : List Char} (h : Closes rest) :
    rest.takeWhile Decimal.isDigit = [] := by
  cases h <;> rfl

theorem Closes.dropWhile_isDigit {rest : List Char} (h : Closes rest) :
    rest.dropWhile Decimal.isDigit = rest := by
  cases h <;> rfl

theorem Closes.fractionDigits {rest : List Char} (h : Closes rest) :
    fractionDigits rest = ([], rest) := by
  cases h <;> rfl

theorem Closes.exponentPart {rest : List Char} (h : Closes rest) :
    Decimal.exponentPart rest = (none, rest) := by
  cases h <;> simp [Decimal.exponentPart]

/-! ## Integers -/

/-- The digits of a natural within the limit are read back. -/
theorem unsignedNumber?_digits (negative : Bool) {value : Nat} {rest : List Char}
    (hlimit : (Decimal.digits value).length ≤ Decimal.limit) (hrest : Closes rest) :
    unsignedNumber? negative (Decimal.digits value ++ rest) =
      some (.int (if negative then -(value : Int) else value), rest) := by
  have hvalue := Decimal.value_digits value
  have hdigit : ∀ c ∈ Decimal.digits value, Decimal.isDigit c = true :=
    fun c hc => Decimal.isDigit_of_mem_digits hc
  rcases Nat.eq_zero_or_pos value with rfl | hpos
  · rw [Decimal.digits_zero] at hvalue ⊢
    have hshort : ¬ Decimal.limit < ['0'].length := by decide
    simp only [unsignedNumber?, List.cons_append, List.nil_append, Option.bind_eq_bind,
      Option.bind_some, hrest.fractionDigits, hrest.exponentPart, hvalue, if_neg hshort]
    rfl
  · obtain ⟨first, tail, hdigits, hfirst, hzero⟩ := Decimal.digits_pos hpos
    rw [hdigits] at hlimit hvalue hdigit ⊢
    have htail : ∀ c ∈ tail, Decimal.isDigit c = true :=
      fun c hc => hdigit c (List.mem_cons_of_mem _ hc)
    simp only [List.cons_append, unsignedNumber?, hfirst, if_true, Option.bind_eq_bind,
      Option.bind_some, List.takeWhile_append_of_pos htail, List.dropWhile_append_of_pos htail,
      hrest.takeWhile_isDigit, hrest.dropWhile_isDigit, List.append_nil, hrest.fractionDigits,
      hrest.exponentPart, hvalue, if_neg (Nat.not_lt.mpr hlimit)]
    rfl

theorem number?_of_digit {first : Char} {tail : List Char} (h : Decimal.isDigit first = true) :
    number? (first :: tail) = unsignedNumber? false (first :: tail) := by
  rw [number?]
  -- it begins none of the words that are numbers, nor is it a sign
  all_goals exact fun _ hword => Decimal.ne_of_isDigit h (by decide) (List.cons.inj hword).1

theorem number?_of_minus {first : Char} {tail : List Char} (h : Decimal.isDigit first = true) :
    number? ('-' :: first :: tail) = unsignedNumber? true (first :: tail) := by
  rw [number?]
  rintro _ hword
  cases (List.cons.inj hword).1
  exact absurd h (by decide)

/-- An integer within the limit is read back. -/
theorem number?_ofInt {value : Int} {rest : List Char}
    (hlimit : (Decimal.digits value.natAbs).length ≤ Decimal.limit) (hrest : Closes rest) :
    number? (Decimal.ofInt value ++ rest) = some (.int value, rest) := by
  obtain ⟨first, tail, hdigits, hfirst⟩ := Decimal.digits_cons value.natAbs
  have hread := fun negative => unsignedNumber?_digits negative hlimit hrest
  rw [Decimal.ofInt]
  simp only [hdigits, List.cons_append] at hread ⊢
  split
  · next hnegative =>
    have hvalue : -(value.natAbs : Int) = value := by omega
    rw [List.cons_append, List.cons_append, number?_of_minus hfirst, hread, if_pos rfl, hvalue]
  · next hnatural =>
    have hvalue : (value.natAbs : Int) = value := by omega
    rw [List.cons_append, number?_of_digit hfirst, hread, if_neg Bool.false_ne_true, hvalue]

/-! ## Doubles -/

/-- What does not begin with a digit ends a run of them. -/
theorem span_run {run tail : List Char} (hrun : ∀ c ∈ run, Decimal.isDigit c = true)
    (htail : tail.takeWhile Decimal.isDigit = []) :
    (run ++ tail).takeWhile Decimal.isDigit = run ∧
      (run ++ tail).dropWhile Decimal.isDigit = tail := by
  have hdrop : tail.dropWhile Decimal.isDigit = tail := by
    simpa [htail] using List.takeWhile_append_dropWhile (p := Decimal.isDigit) (l := tail)
  rw [List.takeWhile_append_of_pos hrun, List.dropWhile_append_of_pos hrun, htail, hdrop,
    List.append_nil]
  exact ⟨rfl, rfl⟩

theorem fractionDigits_run {run tail : List Char} (hrun : Decimal.Run run)
    (htail : tail.takeWhile Decimal.isDigit = []) :
    fractionDigits ('.' :: (run ++ tail)) = (run, tail) := by
  obtain ⟨htake, hdrop⟩ := span_run hrun.digits htail
  have hsome : ¬ run.isEmpty := by simpa using hrun.nonempty
  simp only [fractionDigits, htake, hdrop, if_neg hsome]

theorem fractionDigits_exponent (rest : List Char) :
    fractionDigits ('e' :: rest) = ([], 'e' :: rest) := rfl

theorem exponentPart_run {sign : Char} {run rest : List Char} (hsign : sign = '+' ∨ sign = '-')
    (hrun : Decimal.Run run) (hrest : Closes rest) :
    Decimal.exponentPart ('e' :: sign :: (run ++ rest)) =
      (some (if sign = '-' then -(Decimal.value run : Int) else Decimal.value run), rest) := by
  obtain ⟨htake, hdrop⟩ := span_run hrun.digits hrest.takeWhile_isDigit
  have hsome : ¬ run.isEmpty := by simpa using hrun.nonempty
  rcases hsign with rfl | rfl <;> simp [Decimal.exponentPart, htake, hdrop, hsome]

/-- Digits with a fraction or an exponent behind them are read as a double. -/
theorem unsignedNumber?_of_whole (negative : Bool) {whole tail fraction middle rest : List Char}
    {exponent? : Option Int} (hwhole : Decimal.Whole whole)
    (htail : tail.takeWhile Decimal.isDigit = [])
    (hfraction : fractionDigits tail = (fraction, middle))
    (hexponent : Decimal.exponentPart middle = (exponent?, rest))
    (hdouble : (fraction.isEmpty && exponent?.isNone) = false) :
    unsignedNumber? negative (whole ++ tail) =
      some (.double (Binary64.ofDecimal negative (Decimal.value (whole ++ fraction))
        (exponent?.getD 0 - (fraction.length : Int))), rest) := by
  cases hwhole with
  | zero =>
    simp only [unsignedNumber?, List.cons_append, List.nil_append, Option.bind_eq_bind,
      Option.bind_some, hfraction, hexponent, hdouble]
    rfl
  | digits leading other others =>
    obtain ⟨htake, hdrop⟩ := span_run others htail
    simp only [List.cons_append, unsignedNumber?, leading, if_true, Option.bind_eq_bind,
      Option.bind_some, htake, hdrop, hfraction, hexponent, hdouble]
    rfl

/-- A number that is not written as an integer is read as a double. -/
theorem unsignedNumber?_spelled (negative : Bool) {text : List Char} (h : Decimal.Spelled text) :
    ∃ x, ∀ rest, Closes rest →
      unsignedNumber? negative (text ++ rest) = some (.double x, rest) := by
  cases h with
  | fraction before after =>
    have hread (rest : List Char) (hrest : Closes rest) :=
      unsignedNumber?_of_whole negative before rfl
        (fractionDigits_run after hrest.takeWhile_isDigit) hrest.exponentPart
        (by simpa using after.nonempty)
    exact ⟨_, fun rest hrest =>
      (congrArg (unsignedNumber? negative) (List.append_assoc _ _ _)).trans (hread rest hrest)⟩
  | exponent before signed after =>
    have hread (rest : List Char) (hrest : Closes rest) :=
      unsignedNumber?_of_whole negative before rfl (fractionDigits_exponent _)
        (exponentPart_run signed after hrest) rfl
    exact ⟨_, fun rest hrest =>
      (congrArg (unsignedNumber? negative) (List.append_assoc _ _ _)).trans (hread rest hrest)⟩
  | both before after signed last =>
    have hread (rest : List Char) (hrest : Closes rest) :=
      unsignedNumber?_of_whole negative before rfl (fractionDigits_run after rfl)
        (exponentPart_run signed last hrest) (by simp)
    refine ⟨_, fun rest hrest => Eq.trans (congrArg (unsignedNumber? negative) ?_)
      (hread rest hrest)⟩
    simp only [List.append_assoc, List.cons_append]

/-- The text of a double is read as a double. -/
theorem number?_ofBinary64 (x : Binary64) :
    ∃ y, ∀ rest, Closes rest →
      number? (Decimal.ofBinary64 .json x ++ rest) = some (.double y, rest) := by
  have hwritten := Decimal.written_ofBinary64 .json x
  generalize Decimal.ofBinary64 .json x = text at hwritten
  cases hwritten with
  | notANumber => exact ⟨Binary64.nan, fun _ _ => rfl⟩
  | infinity negative =>
    cases negative with
    | false => exact ⟨Binary64.infinity false, fun _ _ => rfl⟩
    | true => exact ⟨Binary64.infinity true, fun _ _ => rfl⟩
  | spelled negative h =>
    obtain ⟨y, hread⟩ := unsignedNumber?_spelled negative h
    obtain ⟨first, tail, rfl, hfirst⟩ := h.opens
    refine ⟨y, fun rest hrest => ?_⟩
    rw [← hread rest hrest]
    cases negative with
    | false => exact number?_of_digit hfirst
    | true => exact number?_of_minus hfirst

/-! ## Texts -/

theorem unitOfDigits?_hexDigits (unit : UInt16) :
    unitOfDigits? (hexDigit (unit.toNat / 4096)) (hexDigit (unit.toNat / 256 % 16))
      (hexDigit (unit.toNat / 16 % 16)) (hexDigit (unit.toNat % 16)) = some unit := by
  have hunit := unit.toNat_lt
  have h₁ := hexValue?_hexDigit (unit.toNat / 4096) (by omega)
  have h₂ := hexValue?_hexDigit (unit.toNat / 256 % 16) (by omega)
  have h₃ := hexValue?_hexDigit (unit.toNat / 16 % 16) (by omega)
  have h₄ := hexValue?_hexDigit (unit.toNat % 16) (by omega)
  have hwhole : ((unit.toNat / 4096 * 16 + unit.toNat / 256 % 16) * 16 + unit.toNat / 16 % 16) * 16
      + unit.toNat % 16 = unit.toNat := by omega
  simp only [unitOfDigits?, h₁, h₂, h₃, h₄, Option.bind_eq_bind, Option.bind_some, hwhole,
    UInt16.ofNat_toNat]

/-- How a unit is written: by an escape of one letter, as it is, or by its digits. -/
inductive PrintedUnit (unit : UInt16) : List Char → Prop
  | letter {c : Char} (named : unitOfEscape? c = some unit) (other : c ≠ 'u') :
      PrintedUnit unit ['\\', c]
  | plain {c : Char} (point : c.toNat = unit.toNat) (visible : 0x20 ≤ c.toNat ∧ c.toNat < 0x7f)
      (other : c ≠ '"' ∧ c ≠ '\\') : PrintedUnit unit [c]
  | digits : PrintedUnit unit (escapeUnit unit)

theorem printedUnit (unit : UInt16) : PrintedUnit unit (printUnit unit) := by
  unfold printUnit
  split
  · next h => exact h ▸ .letter rfl (by decide)
  split
  · next h => exact h ▸ .letter rfl (by decide)
  split
  · next h => exact h ▸ .letter rfl (by decide)
  split
  · next h => exact h ▸ .letter rfl (by decide)
  split
  · next h => exact h ▸ .letter rfl (by decide)
  split
  · next h => exact h ▸ .letter rfl (by decide)
  split
  · next h => exact h ▸ .letter rfl (by decide)
  split
  · next hquote hslash _ _ _ _ _ hvisible =>
    simp only [UInt16.le_iff_toNat_le, UInt16.lt_iff_toNat_lt, UInt16.reduceToNat] at hvisible
    have hpoint : (Char.ofNat unit.toNat).toNat = unit.toNat := by
      have hchar : Utf16.char? unit.toNat = some (Char.ofNat unit.toNat) := by
        rw [Utf16.char?, Char.ofNat, dif_pos (.inl (by omega)), dif_pos (.inl (by omega))]
      exact Utf16.toNat_of_char? hchar
    refine .plain hpoint (by omega) ⟨fun hc => hquote ?_, fun hc => hslash ?_⟩
    · exact UInt16.toNat_inj.mp (hpoint.symm.trans (congrArg Char.toNat hc))
    · exact UInt16.toNat_inj.mp (hpoint.symm.trans (congrArg Char.toNat hc))
  · exact .digits

/-- A unit is read back in front of any text. -/
theorem textBody?_printUnit (unit : UInt16) (rest : List Char) :
    textBody? (printUnit unit ++ rest) =
      (textBody? rest).map fun found => (unit :: found.1, found.2) := by
  have hprinted := printedUnit unit
  generalize printUnit unit = printed at hprinted
  cases hprinted with
  | letter named other =>
    simp only [List.cons_append, List.nil_append]
    rw [textBody?]
    · simp only [named, Option.bind_eq_bind, Option.bind_some]
      cases textBody? rest <;> rfl
    · exact fun _ _ _ _ _ hc => absurd hc other
  | @plain c point visible other =>
    simp only [List.cons_append, List.nil_append]
    rw [textBody?]
    · have hofChar : Utf16.ofChar c = [unit] := by
        rw [Utf16.ofChar, if_pos (by omega), point, UInt16.ofNat_toNat]
      have hplain : ¬ (c.toNat < 0x20 ∨ c = '\\') := by
        rw [not_or]
        exact ⟨by omega, other.2⟩
      simp only [if_neg hplain, Option.bind_eq_bind, hofChar]
      cases textBody? rest <;> rfl
    · exact other.1
    · exact fun _ _ _ _ _ hc => absurd hc other.2
    · exact fun _ _ hc => absurd hc other.2
  | digits =>
    simp only [escapeUnit, List.cons_append, List.nil_append, textBody?,
      unitOfDigits?_hexDigits, Option.bind_eq_bind, Option.bind_some]
    cases textBody? rest <;> rfl

/-- A text is read back up to its closing quote. -/
theorem textBody?_printUnits (units : Utf16) (rest : List Char) :
    textBody? (units.flatMap printUnit ++ '"' :: rest) = some (units, rest) := by
  induction units with
  | nil => rw [List.flatMap_nil, List.nil_append, textBody?]
  | cons unit units ih =>
    rw [List.flatMap_cons, List.append_assoc, textBody?_printUnit, ih]
    rfl

/-! ## Values -/

theorem skipBlanks_cons {first : Char} {rest : List Char} (h : isBlank first = false) :
    skipBlanks (first :: rest) = first :: rest := by
  rw [skipBlanks, List.dropWhile_cons_of_neg (by simp [h])]

theorem skipBlanks_blank (rest : List Char) : skipBlanks (' ' :: rest) = skipBlanks rest := rfl

theorem skipBlanks_comma (rest : List Char) : skipBlanks (',' :: rest) = ',' :: rest := rfl

theorem skipBlanks_brace (rest : List Char) :
    skipBlanks ('\x7d' :: rest) = '\x7d' :: rest := rfl

theorem skipBlanks_colon (rest : List Char) : skipBlanks (':' :: rest) = ':' :: rest := rfl

theorem skipBlanks_quote (rest : List Char) : skipBlanks ('"' :: rest) = '"' :: rest := rfl

/-- How the text of a number begins. -/
def NumberOpens (first : Char) : Prop :=
  Decimal.isDigit first = true ∨ first = '-' ∨ first = 'I' ∨ first = 'N'

theorem number_opens (number : Number) :
    ∃ first tail, number.digits .json = first :: tail ∧ NumberOpens first := by
  cases number with
  | int value =>
    obtain ⟨first, tail, hprint, hfirst⟩ := Decimal.ofInt_opens value
    exact ⟨first, tail, hprint, hfirst.imp_right .inl⟩
  | double x =>
    have hwritten := Decimal.written_ofBinary64 .json x
    rw [Number.digits]
    generalize Decimal.ofBinary64 .json x = text at hwritten
    cases hwritten with
    | notANumber => exact ⟨_, _, rfl, .inr (.inr (.inr rfl))⟩
    | infinity negative =>
      cases negative with
      | false => exact ⟨_, _, rfl, .inr (.inr (.inl rfl))⟩
      | true => exact ⟨_, _, rfl, .inr (.inl rfl)⟩
    | spelled negative h =>
      obtain ⟨first, tail, rfl, hfirst⟩ := h.opens
      cases negative with
      | false => exact ⟨_, _, rfl, .inl hfirst⟩
      | true => exact ⟨_, _, rfl, .inr (.inl rfl)⟩

theorem NumberOpens.ne {first other : Char} (h : NumberOpens first)
    (hdigit : Decimal.isDigit other = false) (hother : other ≠ '-' ∧ other ≠ 'I' ∧ other ≠ 'N') :
    first ≠ other := by
  rcases h with h | rfl | rfl | rfl
  · exact Decimal.ne_of_isDigit h hdigit
  · exact hother.1.symm
  · exact hother.2.1.symm
  · exact hother.2.2.symm

theorem NumberOpens.isBlank {first : Char} (h : NumberOpens first) : isBlank first = false := by
  simp only [Json.isBlank, Bool.or_eq_false_iff, beq_eq_false_iff_ne]
  exact ⟨⟨⟨h.ne rfl (by decide), h.ne rfl (by decide)⟩, h.ne rfl (by decide)⟩,
    h.ne rfl (by decide)⟩

/-- The written form of a value begins with neither a blank nor a closing bracket. -/
theorem print_opens (value : Json) :
    ∃ first tail, print value = first :: tail ∧ isBlank first = false ∧ first ≠ ']' := by
  cases value with
  | null => exact ⟨_, _, rfl, rfl, by decide⟩
  | bool value => cases value <;> exact ⟨_, _, rfl, rfl, by decide⟩
  | num number =>
    obtain ⟨first, tail, hprint, hfirst⟩ := number_opens number
    exact ⟨first, tail, hprint, hfirst.isBlank, hfirst.ne rfl (by decide)⟩
  | str units => exact ⟨_, _, rfl, rfl, by decide⟩
  | arr items => exact ⟨_, _, rfl, rfl, by decide⟩
  | obj members => exact ⟨_, _, rfl, rfl, by decide⟩

theorem skipBlanks_print (value : Json) (rest : List Char) :
    skipBlanks (print value ++ rest) = print value ++ rest := by
  obtain ⟨first, tail, hprint, hblank, _⟩ := print_opens value
  rw [hprint, List.cons_append, skipBlanks_cons hblank]

/-- What the written form of a value is read as. -/
def ReadsAs (value found : Json) : Prop := ∀ (fuel : Nat) (rest : List Char),
  (print value).length < fuel → Closes rest → value? fuel (print value ++ rest) = some (found, rest)

/-- A member of an object is read with its key. -/
def MemberReadsAs (member found : Utf16 × Json) : Prop :=
  found.1 = member.1 ∧ ReadsAs member.2 found.2

/-- The written form of items begins as that of the first one. -/
theorem printItems_opens (item : Json) (items : List Json) :
    ∃ first tail, printItems (item :: items) = first :: tail ∧ isBlank first = false ∧
      first ≠ ']' := by
  obtain ⟨first, tail, hprint, hfirst⟩ := print_opens item
  cases items with
  | nil => exact ⟨first, tail, hprint, hfirst⟩
  | cons next items => exact ⟨first, _, by rw [printItems, hprint, List.cons_append], hfirst⟩

/-- Items are read up to their closing bracket. -/
theorem items?_printItems {item : Json} {items founds : List Json}
    (h : List.Forall₂ ReadsAs (item :: items) founds) (fuel : Nat) (rest : List Char)
    (hfuel : (printItems (item :: items)).length + 1 < fuel) :
    items? fuel (printItems (item :: items) ++ ']' :: rest) = some (founds, rest) := by
  induction items generalizing item founds fuel with
  | nil =>
    obtain ⟨fuel, rfl⟩ := Nat.exists_eq_add_one_of_ne_zero (Nat.ne_zero_of_lt hfuel)
    obtain ⟨found, others, hitem, hnone, rfl⟩ := List.forall₂_cons_left_iff.1 h
    cases hnone
    simp only [printItems] at hfuel ⊢
    rw [items?, hitem fuel _ (by omega) (.bracket rest)]
    rfl
  | cons next items ih =>
    obtain ⟨fuel, rfl⟩ := Nat.exists_eq_add_one_of_ne_zero (Nat.ne_zero_of_lt hfuel)
    obtain ⟨found, others, hitem, hothers, rfl⟩ := List.forall₂_cons_left_iff.1 h
    simp only [printItems, List.length_append, List.length_cons] at hfuel
    have hread := hitem fuel (',' :: ' ' :: (printItems (next :: items) ++ ']' :: rest))
      (by omega) (.comma _)
    have hrest := ih hothers fuel (by omega)
    obtain ⟨first, tail, hprint, hblank, _⟩ := printItems_opens next items
    rw [hprint, List.cons_append] at hread hrest
    rw [printItems, List.append_assoc, List.cons_append, List.cons_append, hprint,
      List.cons_append, items?, hread]
    simp only [Option.bind_eq_bind, Option.bind_some, skipBlanks_comma, skipBlanks_blank,
      skipBlanks_cons hblank, hrest]

/-- Members put in one after the other. -/
def insertAll (seen members : List (Utf16 × Json)) : List (Utf16 × Json) :=
  members.foldl (fun seen member => insert member.1 member.2 seen) seen

/-- A member with a new key is the last one. -/
theorem insert_new {key : Utf16} {value : Json} {members : List (Utf16 × Json)}
    (h : key ∉ members.map Prod.fst) : insert key value members = members ++ [(key, value)] := by
  induction members with
  | nil => rfl
  | cons member rest ih =>
    rw [List.map_cons, List.mem_cons, not_or] at h
    rw [insert, if_neg (Ne.symm h.1), ih h.2, List.cons_append]

/-- Members with new and distinct keys are the last ones, in their order. -/
theorem insertAll_new {seen members : List (Utf16 × Json)}
    (distinct : ((seen ++ members).map Prod.fst).Nodup) :
    insertAll seen members = seen ++ members := by
  induction members generalizing seen with
  | nil => rw [List.append_nil]; rfl
  | cons member rest ih =>
    have hnew : member.1 ∉ seen.map Prod.fst := by
      rw [List.map_append, List.nodup_append] at distinct
      exact fun hkey => distinct.2.2 member.1 hkey member.1 List.mem_cons_self rfl
    rw [insertAll, List.foldl_cons, insert_new hnew]
    exact (ih (by simpa using distinct)).trans (List.append_cons seen member rest).symm

/-- The written form of a member with its key up to the closing quote apart. -/
theorem printMember_append (key : Utf16) (value : Json) (rest : List Char) :
    printText key ++ ':' :: ' ' :: print value ++ rest =
      '"' :: (key.flatMap printUnit ++ '"' :: ':' :: ' ' :: (print value ++ rest)) := by
  simp [printText]

section Member

variable {key : Utf16} {value found : Json} {seen : List (Utf16 × Json)} {fuel : Nat}

/-- A member is read, and after a comma further members are. -/
theorem members?_comma (h : ReadsAs value found) (hfuel : (print value).length < fuel)
    (rest : List Char) :
    members? (fuel + 1) seen (printText key ++ ':' :: ' ' :: print value ++ ',' :: rest) =
      members? fuel (insert key found seen) (skipBlanks rest) := by
  rw [printMember_append, members?, textBody?_printUnits]
  simp only [Option.bind_eq_bind, Option.bind_some, skipBlanks_colon, skipBlanks_blank,
    skipBlanks_print, h fuel _ hfuel (.comma rest), skipBlanks_comma]

/-- A member is read, and a closing brace ends the reading. -/
theorem members?_brace (h : ReadsAs value found) (hfuel : (print value).length < fuel)
    (rest : List Char) :
    members? (fuel + 1) seen (printText key ++ ':' :: ' ' :: print value ++ '\x7d' :: rest) =
      some (insert key found seen, rest) := by
  rw [printMember_append, members?, textBody?_printUnits]
  simp only [Option.bind_eq_bind, Option.bind_some, skipBlanks_colon, skipBlanks_blank,
    skipBlanks_print, h fuel _ hfuel (.brace rest), skipBlanks_brace]

end Member

/-- The written form of members begins with a quote. -/
theorem printMembers_opens (member : Utf16 × Json) (members : List (Utf16 × Json)) :
    ∃ tail, printMembers (member :: members) = '"' :: tail := by
  cases members <;> exact ⟨_, rfl⟩

/-- Members are read up to their closing brace, each put in after those before it. -/
theorem members?_printMembers (seen : List (Utf16 × Json)) {member : Utf16 × Json}
    {members founds : List (Utf16 × Json)}
    (h : List.Forall₂ MemberReadsAs (member :: members) founds) (fuel : Nat)
    (rest : List Char) (hfuel : (printMembers (member :: members)).length + 1 < fuel) :
    members? fuel seen (printMembers (member :: members) ++ '\x7d' :: rest) =
      some (insertAll seen founds, rest) := by
  induction members generalizing member founds seen fuel with
  | nil =>
    obtain ⟨fuel, rfl⟩ := Nat.exists_eq_add_one_of_ne_zero (Nat.ne_zero_of_lt hfuel)
    obtain ⟨⟨key, found⟩, others, ⟨rfl, hread⟩, hnone, rfl⟩ := List.forall₂_cons_left_iff.1 h
    cases hnone
    simp only [printMembers, List.length_append, List.length_cons] at hfuel ⊢
    exact members?_brace hread (by omega) rest
  | cons next members ih =>
    obtain ⟨fuel, rfl⟩ := Nat.exists_eq_add_one_of_ne_zero (Nat.ne_zero_of_lt hfuel)
    obtain ⟨⟨key, found⟩, others, ⟨rfl, hread⟩, hothers, rfl⟩ := List.forall₂_cons_left_iff.1 h
    simp only [printMembers, List.length_append, List.length_cons] at hfuel
    have hrest := ih (insert member.1 found seen) hothers fuel (by omega)
    obtain ⟨tail, hprint⟩ := printMembers_opens next members
    rw [hprint, List.cons_append] at hrest
    have hmember := @members?_comma member.1 _ _ seen _ hread
      (show (print member.2).length < fuel by omega) (' ' :: '"' :: (tail ++ '\x7d' :: rest))
    simp only [skipBlanks_blank, skipBlanks_quote, hrest] at hmember
    rw [printMembers, hprint, List.append_assoc]
    exact hmember

theorem value?_of_number {fuel : Nat} {first : Char} {tail : List Char} (h : NumberOpens first) :
    value? (fuel + 1) (first :: tail) =
      (number? (first :: tail)).map fun found => (.num found.1, found.2) := by
  rw [value?]
  · cases number? (first :: tail) <;> rfl
  all_goals exact fun _ hword => h.ne (by decide) (by decide) (List.cons.inj hword).1

theorem readsAs_num {number found : Number}
    (h : ∀ rest, Closes rest → number? (number.digits .json ++ rest) = some (found, rest)) :
    ReadsAs (.num number) (.num found) := by
  intro fuel rest hfuel hrest
  obtain ⟨fuel, rfl⟩ := Nat.exists_eq_add_one_of_ne_zero (Nat.ne_zero_of_lt hfuel)
  have hnumber := h rest hrest
  obtain ⟨first, tail, hprint, hfirst⟩ := number_opens number
  rw [hprint, List.cons_append] at hnumber
  rw [print, hprint, List.cons_append, value?_of_number hfirst, hnumber]
  rfl

theorem readsAs_int {value : Int}
    (h : (Decimal.digits value.natAbs).length ≤ Decimal.limit) :
    ReadsAs (.int value) (.int value) :=
  readsAs_num fun _ hrest => number?_ofInt h hrest

theorem readsAs_null : ReadsAs .null .null := by
  intro fuel rest hfuel hrest
  obtain ⟨fuel, rfl⟩ := Nat.exists_eq_add_one_of_ne_zero (Nat.ne_zero_of_lt hfuel)
  rfl

theorem readsAs_bool (value : Bool) : ReadsAs (.bool value) (.bool value) := by
  intro fuel rest hfuel hrest
  obtain ⟨fuel, rfl⟩ := Nat.exists_eq_add_one_of_ne_zero (Nat.ne_zero_of_lt hfuel)
  cases value <;> rfl

theorem readsAs_str (units : Utf16) : ReadsAs (.str units) (.str units) := by
  intro fuel rest hfuel hrest
  obtain ⟨fuel, rfl⟩ := Nat.exists_eq_add_one_of_ne_zero (Nat.ne_zero_of_lt hfuel)
  simp only [print, printText, List.cons_append, List.append_assoc, List.nil_append, value?,
    textBody?_printUnits]
  rfl

theorem readsAs_arr {items founds : List Json} (h : List.Forall₂ ReadsAs items founds) :
    ReadsAs (.arr items) (.arr founds) := by
  intro fuel rest hfuel hrest
  obtain ⟨fuel, rfl⟩ := Nat.exists_eq_add_one_of_ne_zero (Nat.ne_zero_of_lt hfuel)
  cases items with
  | nil =>
    cases h
    rfl
  | cons item items =>
    simp only [print, List.length_append, List.length_cons, List.length_nil] at hfuel
    have hitems := items?_printItems h fuel rest (by omega)
    obtain ⟨first, tail, hprint, hblank, hopen⟩ := printItems_opens item items
    rw [hprint, List.cons_append] at hitems
    simp only [print, hprint, List.cons_append, List.append_assoc, List.nil_append, value?,
      skipBlanks_cons hblank]
    split
    · next hclosed => exact absurd (List.cons.inj hclosed).1 hopen
    · rw [hitems]
      rfl

theorem readsAs_obj {members founds : List (Utf16 × Json)}
    (h : List.Forall₂ MemberReadsAs members founds) :
    ReadsAs (.obj members) (.obj (insertAll [] founds)) := by
  intro fuel rest hfuel hrest
  obtain ⟨fuel, rfl⟩ := Nat.exists_eq_add_one_of_ne_zero (Nat.ne_zero_of_lt hfuel)
  cases members with
  | nil =>
    cases h
    rfl
  | cons member members =>
    simp only [print, List.length_append, List.length_cons, List.length_nil] at hfuel
    have hmembers := members?_printMembers [] h fuel rest (by omega)
    obtain ⟨tail, hprint⟩ := printMembers_opens member members
    rw [hprint, List.cons_append] at hmembers
    simp only [print, hprint, List.cons_append, List.append_assoc, List.nil_append, value?,
      skipBlanks_quote]
    split
    · next hclosed => exact absurd (List.cons.inj hclosed).1 (by decide)
    · rw [hmembers]
      rfl

/-- A plain value within the limit of digits is read as it is. -/
theorem Plain.readsBack {value : Json} (plain : Plain value) (h : value.isWritable = true) :
    ReadsAs value value := by
  induction plain with
  | null => exact readsAs_null
  | bool value => exact readsAs_bool value
  | int value => exact readsAs_int (by simpa [isWritable, Number.isWritable] using h)
  | str units => exact readsAs_str units
  | arr plain ih =>
    rw [isWritable, areWritable_iff] at h
    exact readsAs_arr (List.forall₂_same.2 fun item hitem => ih item hitem (h item hitem))
  | @obj members distinct plain ih =>
    rw [isWritable, membersAreWritable_iff] at h
    have hmembers : List.Forall₂ MemberReadsAs members members :=
      List.forall₂_same.2 fun member hmember => ⟨rfl, ih member hmember (h member hmember)⟩
    have hnew : insertAll [] members = members := insertAll_new distinct
    have hread := readsAs_obj hmembers
    rwa [hnew] at hread

/-- A value within the limit of digits is read as some value. -/
theorem exists_readsAs {value : Json} (h : value.isWritable = true) :
    ∃ found, ReadsAs value found := by
  induction value using Json.induct with
  | null => exact ⟨_, readsAs_null⟩
  | bool value => exact ⟨_, readsAs_bool value⟩
  | num number =>
    cases number with
    | int value => exact ⟨_, readsAs_int (by simpa [isWritable, Number.isWritable] using h)⟩
    | double x =>
      obtain ⟨y, hread⟩ := number?_ofBinary64 x
      exact ⟨_, readsAs_num hread⟩
  | str units => exact ⟨_, readsAs_str units⟩
  | arr items ih =>
    rw [isWritable, areWritable_iff] at h
    choose! found hfound using fun item hitem => ih item hitem (h item hitem)
    exact ⟨_, readsAs_arr (List.forall₂_map_right_iff.2 (List.forall₂_same.2 hfound))⟩
  | obj members ih =>
    rw [isWritable, membersAreWritable_iff] at h
    choose! found hfound using fun member hmember => ih member hmember (h member hmember)
    have hmembers : List.Forall₂ MemberReadsAs members
        (members.map fun member => (member.1, found member)) :=
      List.forall₂_map_right_iff.2 (List.forall₂_same.2 fun member hmember =>
        ⟨rfl, hfound member hmember⟩)
    exact ⟨_, readsAs_obj hmembers⟩

/-- The written form of a value is read as what the value with its keys in order is read as. -/
theorem parse?_of_readsAs {value found : Json} (h : ReadsAs value.sortKeys found) :
    parse? value.render = some found := by
  have hread := h (2 * (print value.sortKeys).length + 2) [] (by omega) .nil
  have hblanks := skipBlanks_print value.sortKeys []
  rw [List.append_nil] at hread hblanks
  simp only [parse?, render, hblanks, hread, Option.bind_eq_bind, Option.bind_some]
  rfl

/-- The written form of a plain value is read as the value with its keys in order. -/
theorem parse?_render {value : Json} (plain : Plain value) (h : value.isWritable = true) :
    parse? value.render = some value.sortKeys :=
  parse?_of_readsAs (plain.sortKeys.readsBack ((isWritable_sortKeys value).trans h))

/-- The written form of a value is read. -/
theorem exists_parse?_render {value : Json} (h : value.isWritable = true) :
    ∃ found, parse? value.render = some found := by
  obtain ⟨found, hfound⟩ := exists_readsAs ((isWritable_sortKeys value).trans h)
  exact ⟨found, parse?_of_readsAs hfound⟩

/-! ## Characters -/

/-- All characters of a text are ASCII. -/
def IsAscii (text : List Char) : Prop := ∀ c ∈ text, c.toNat < 0x80

theorem isAscii_nil : IsAscii [] := fun _ h => nomatch h

theorem isAscii_cons {first : Char} {rest : List Char} :
    IsAscii (first :: rest) ↔ first.toNat < 0x80 ∧ IsAscii rest := List.forall_mem_cons

theorem isAscii_append {text rest : List Char} :
    IsAscii (text ++ rest) ↔ IsAscii text ∧ IsAscii rest := List.forall_mem_append

theorem toNat_hexDigit_lt {value : Nat} (h : value < 16) : (hexDigit value).toNat < 0x80 := by
  have all : ∀ v : Fin 16, (hexDigit v.val).toNat < 0x80 := by decide
  exact all ⟨value, h⟩

theorem toNat_lt_of_unitOfEscape? {c : Char} {unit : UInt16} (h : unitOfEscape? c = some unit) :
    c.toNat < 0x80 := by
  unfold unitOfEscape? at h
  split at h <;> first | decide | cases h

theorem isAscii_printUnit (unit : UInt16) : IsAscii (printUnit unit) := by
  have hunit := unit.toNat_lt
  have hprinted := printedUnit unit
  generalize printUnit unit = printed at hprinted
  cases hprinted with
  | letter named other =>
    simp only [isAscii_cons, isAscii_nil, toNat_lt_of_unitOfEscape? named, and_true]
    decide
  | plain point visible other =>
    simp only [isAscii_cons, isAscii_nil, and_true]
    omega
  | digits =>
    simp only [escapeUnit, isAscii_cons, isAscii_nil, and_true]
    exact ⟨by decide, by decide, toNat_hexDigit_lt (by omega), toNat_hexDigit_lt (by omega),
      toNat_hexDigit_lt (by omega), toNat_hexDigit_lt (by omega)⟩

theorem isAscii_printText (units : Utf16) : IsAscii (printText units) := by
  simp only [printText, List.cons_append, isAscii_cons, isAscii_append, isAscii_nil, and_true]
  refine ⟨by decide, fun c hc => ?_, by decide⟩
  obtain ⟨unit, _, hunit⟩ := List.mem_flatMap.mp hc
  exact isAscii_printUnit unit c hunit

theorem isAscii_of_isDigit {text : List Char} (h : ∀ c ∈ text, Decimal.isDigit c = true) :
    IsAscii text := fun c hc => by
  have hdigit := h c hc
  simp only [Decimal.isDigit, Bool.and_eq_true, decide_eq_true_eq] at hdigit
  exact Nat.lt_of_le_of_lt (Char.le_def.mp hdigit.2) (by decide)

theorem isAscii_ofInt (value : Int) : IsAscii (Decimal.ofInt value) := by
  have hdigits : IsAscii (Decimal.digits value.natAbs) :=
    isAscii_of_isDigit fun c hc => Decimal.isDigit_of_mem_digits hc
  rw [Decimal.ofInt]
  split
  · exact isAscii_cons.mpr ⟨by decide, hdigits⟩
  · exact hdigits

theorem isAscii_whole {text : List Char} (h : Decimal.Whole text) : IsAscii text := by
  cases h with
  | zero => exact isAscii_cons.mpr ⟨by decide, isAscii_nil⟩
  | digits leading other others =>
    exact isAscii_of_isDigit (List.forall_mem_cons.2 ⟨leading, others⟩)

theorem isAscii_spelled {text : List Char} (h : Decimal.Spelled text) : IsAscii text := by
  have hsign {sign : Char} (h : sign = '+' ∨ sign = '-') : sign.toNat < 0x80 := by
    rcases h with rfl | rfl <;> decide
  cases h with
  | fraction before after =>
    simp only [isAscii_append, isAscii_cons]
    exact ⟨isAscii_whole before, by decide, isAscii_of_isDigit after.digits⟩
  | exponent before signed after =>
    simp only [isAscii_append, isAscii_cons]
    exact ⟨isAscii_whole before, by decide, hsign signed, isAscii_of_isDigit after.digits⟩
  | both before after signed last =>
    simp only [isAscii_append, isAscii_cons]
    exact ⟨isAscii_whole before, by decide, isAscii_of_isDigit after.digits, by decide,
      hsign signed, isAscii_of_isDigit last.digits⟩

theorem isAscii_ofBinary64 (x : Binary64) : IsAscii (Decimal.ofBinary64 .json x) := by
  have hsign (negative : Bool) : IsAscii (if negative then ['-'] else []) := by
    cases negative <;> simp [IsAscii]
  have hwritten := Decimal.written_ofBinary64 .json x
  generalize Decimal.ofBinary64 .json x = text at hwritten
  cases hwritten with
  | notANumber => simp [IsAscii, Decimal.Layout.json]
  | infinity negative =>
    exact isAscii_append.2 ⟨hsign negative, by simp [IsAscii, Decimal.Layout.json]⟩
  | spelled negative h => exact isAscii_append.2 ⟨hsign negative, isAscii_spelled h⟩

theorem isAscii_printItems {items : List Json} (h : ∀ item ∈ items, IsAscii (print item)) :
    IsAscii (printItems items) := by
  induction items with
  | nil => exact isAscii_nil
  | cons item rest ih =>
    rw [List.forall_mem_cons] at h
    cases rest with
    | nil => exact h.1
    | cons next rest =>
      simp only [printItems, isAscii_append, isAscii_cons]
      exact ⟨h.1, by decide, by decide, ih h.2⟩

theorem isAscii_printMembers {members : List (Utf16 × Json)}
    (h : ∀ member ∈ members, IsAscii (print member.2)) : IsAscii (printMembers members) := by
  induction members with
  | nil => exact isAscii_nil
  | cons member rest ih =>
    rw [List.forall_mem_cons] at h
    cases rest with
    | nil =>
      simp only [printMembers, isAscii_append, isAscii_cons]
      exact ⟨isAscii_printText _, by decide, by decide, h.1⟩
    | cons next rest =>
      simp only [printMembers, isAscii_append, isAscii_cons]
      exact ⟨⟨isAscii_printText _, by decide, by decide, h.1⟩, by decide, by decide, ih h.2⟩

/-- The written form of a value is ASCII. -/
theorem isAscii_print (value : Json) : IsAscii (print value) := by
  induction value using Json.induct with
  | null =>
    simp only [print, isAscii_cons, isAscii_nil, and_true]
    decide
  | bool value =>
    cases value <;> simp only [print, isAscii_cons, isAscii_nil, and_true] <;> decide
  | num number =>
    cases number with
    | int value => exact isAscii_ofInt value
    | double x => exact isAscii_ofBinary64 x
  | str units => exact isAscii_printText units
  | arr items ih =>
    simp only [print, List.cons_append, isAscii_cons, isAscii_append, isAscii_nil, and_true]
    exact ⟨by decide, isAscii_printItems ih, by decide⟩
  | obj members ih =>
    simp only [print, List.cons_append, isAscii_cons, isAscii_append, isAscii_nil, and_true]
    exact ⟨by decide, isAscii_printMembers ih, by decide⟩

end Json

end DepositGateway
