import DepositGateway.Decimal.Shortest

/-!
# The text of a double begins as a number does

A number may begin with a zero only if no other digit follows before the point, so the digits of a
positive double must not stand for zero.

* `Decimal.Rounding.search_pos`: a search that begins at or below the leading digit of a quotient
  finds digits that are not zero.
* `Decimal.shortest_pos`: so do the shortest digits of a positive double.
* `Decimal.Written`: the forms that the text of a double has. `Decimal.written_ofBinary64`: the
  text of every double has one of them.
-/

namespace DepositGateway

namespace Decimal

/-! ## Digits of integers -/

theorem isDigit_digit {value : Nat} (h : value < 10) : isDigit (digit value) = true := by
  have all : ∀ v : Fin 10, isDigit (digit v.val) = true := by decide
  exact all ⟨value, h⟩

theorem isDigit_of_mem_digits {value : Nat} {c : Char} (h : c ∈ digits value) :
    isDigit c = true := by
  induction value using Nat.strongRecOn with
  | ind value ih =>
    by_cases hlt : value < 10
    · rw [digits_of_lt hlt, List.mem_singleton] at h
      exact h ▸ isDigit_digit hlt
    · rw [digits_of_le (by omega), List.mem_append, List.mem_singleton] at h
      rcases h with hfront | rfl
      · exact ih _ (by omega) hfront
      · exact isDigit_digit (by omega)

/-- A positive number does not begin with a zero. -/
theorem digits_pos {value : Nat} (h : 0 < value) :
    ∃ first rest, digits value = first :: rest ∧ isDigit first = true ∧ first ≠ '0' := by
  induction value using Nat.strongRecOn with
  | ind value ih =>
    by_cases hlt : value < 10
    · have all : ∀ v : Fin 10, 0 < v.val → digit v.val ≠ '0' := by decide
      exact ⟨_, [], digits_of_lt hlt, isDigit_digit hlt, all ⟨value, hlt⟩ h⟩
    · obtain ⟨first, rest, hdigits, hfirst⟩ := ih (value / 10) (by omega) (by omega)
      exact ⟨first, rest ++ [digit (value % 10)],
        by rw [digits_of_le (by omega), hdigits, List.cons_append], hfirst⟩

theorem digits_cons (value : Nat) :
    ∃ first rest, digits value = first :: rest ∧ isDigit first = true := by
  cases hdigits : digits value with
  | nil =>
    rw [digits] at hdigits
    split at hdigits <;> simp at hdigits
  | cons first rest =>
    exact ⟨first, rest, rfl, isDigit_of_mem_digits (hdigits ▸ List.mem_cons_self)⟩

theorem length_digits_pos (value : Nat) : 0 < (digits value).length := by
  obtain ⟨first, rest, hdigits, -⟩ := digits_cons value
  rw [hdigits]
  exact Nat.succ_pos _

/-- A positive number is at least the power of ten that its leading digit counts. -/
theorem pow_length_digits_le {value : Nat} (h : 0 < value) :
    Nat.pow 10 ((digits value).length - 1) ≤ value := by
  have hlength := length_digits_pos value
  rcases Nat.eq_zero_or_pos ((digits value).length - 1) with hone | hmore
  · rw [hone]
    exact h
  · exact (lt_length_digits_iff value hmore).1 (by omega)

/-! ## Shortest digits -/

namespace Rounding

variable {r : Rounding}

/-- Zero rounds to no positive double. -/
theorem contains_zero (h : 0 < r.low) (exponent : Int) : r.contains 0 exponent = false := by
  have hscale : 0 < Nat.pow 10 (-exponent).toNat := Nat.pow_pos (by decide)
  have hlow : 0 < r.low * Nat.pow 10 (-exponent).toNat := Nat.mul_pos h hscale
  simp only [contains, Nat.zero_mul]
  generalize r.low * Nat.pow 10 (-exponent).toNat = low at hlow
  split
  · simp only [Bool.and_eq_false_iff, decide_eq_false_iff_not]
    exact .inl (by omega)
  · simp only [Bool.and_eq_false_iff, decide_eq_false_iff_not]
    exact .inl (by omega)

theorem contains_of_nearest? {exponent : Int} {digits : Nat}
    (h : r.nearest? exponent = some digits) : r.contains digits exponent = true := by
  unfold nearest? at h
  grind

/-- The value that is rounded is at least `10 ^ exponent`. -/
def Reaches (r : Rounding) (exponent : Int) : Prop :=
  r.denominator * Nat.pow 10 exponent.toNat ≤ r.value * Nat.pow 10 (-exponent).toNat

theorem Reaches.pred {exponent : Int} (h : r.Reaches exponent) : r.Reaches (exponent - 1) := by
  unfold Reaches at h ⊢
  by_cases hpos : 0 < exponent
  · have hup : exponent.toNat = (exponent - 1).toNat + 1 := by omega
    have hdown : (-(exponent - 1)).toNat = (-exponent).toNat := by omega
    have hpow : Nat.pow 10 ((exponent - 1).toNat + 1) = Nat.pow 10 (exponent - 1).toNat * 10 := rfl
    rw [hup, hpow, ← Nat.mul_assoc] at h
    rw [hdown]
    omega
  · have hup : (exponent - 1).toNat = exponent.toNat := by omega
    have hdown : (-(exponent - 1)).toNat = (-exponent).toNat + 1 := by omega
    have hpow : Nat.pow 10 ((-exponent).toNat + 1) = Nat.pow 10 (-exponent).toNat * 10 := rfl
    rw [hup, hdown, hpow, ← Nat.mul_assoc]
    omega

/-- A search from an exponent that the value reaches does not find zero. -/
theorem search_pos (hlow : 0 < r.low) (hdenominator : 0 < r.denominator) (steps : Nat)
    {exponent : Int} (h : r.Reaches exponent) : 0 < (r.search steps exponent).digits := by
  induction steps generalizing exponent with
  | zero =>
    have hunit : 0 < r.denominator * Nat.pow 10 exponent.toNat :=
      Nat.mul_pos hdenominator (Nat.pow_pos (by decide))
    exact Nat.div_pos h hunit
  | succ steps ih =>
    rw [search]
    split
    · next digits hfound =>
      refine Nat.pos_of_ne_zero fun hzero => ?_
      have hcontains := contains_of_nearest? hfound
      rw [show digits = 0 from hzero, contains_zero hlow] at hcontains
      cases hcontains
    · exact ih h.pred

theorem reaches_of_scaled {length places : Nat}
    (h : r.denominator * Nat.pow 10 length ≤ r.value * Nat.pow 10 places) :
    r.Reaches ((length : Int) - places) := by
  have hadd (a b : Nat) : Nat.pow 10 (a + b) = Nat.pow 10 a * Nat.pow 10 b := Nat.pow_add 10 a b
  have hpos (a : Nat) : 0 < Nat.pow 10 a := Nat.pow_pos (by decide)
  have hone : Nat.pow 10 0 = 1 := rfl
  unfold Reaches
  rcases Nat.le_total places length with hlarge | hsmall
  · obtain ⟨rest, rfl⟩ := Nat.exists_eq_add_of_le' hlarge
    have hup : (((rest + places : Nat) : Int) - places).toNat = rest := by omega
    have hdown : (-(((rest + places : Nat) : Int) - places)).toNat = 0 := by omega
    rw [hadd, ← Nat.mul_assoc] at h
    rw [hup, hdown, hone, Nat.mul_one]
    exact Nat.le_of_mul_le_mul_right h (hpos places)
  · obtain ⟨rest, rfl⟩ := Nat.exists_eq_add_of_le' hsmall
    have hup : ((length : Int) - (rest + length : Nat)).toNat = 0 := by omega
    have hdown : (-((length : Int) - (rest + length : Nat))).toNat = rest := by omega
    rw [hadd, ← Nat.mul_assoc] at h
    rw [hup, hdown, hone, Nat.mul_one]
    exact Nat.le_of_mul_le_mul_right h (hpos length)

/-- A value that is not too small reaches the power of ten of its leading digit. -/
theorem reaches_leadingExponent (hdenominator : 0 < r.denominator)
    (h : r.denominator ≤ r.value * Nat.pow 10 400) :
    r.Reaches (leadingExponent r.value r.denominator) := by
  unfold leadingExponent
  generalize hplaces : 400 = places at h
  have hscaled : 0 < r.value * Nat.pow 10 places / r.denominator := Nat.div_pos h hdenominator
  have hlead := pow_length_digits_le hscaled
  have hlength := length_digits_pos (r.value * Nat.pow 10 places / r.denominator)
  rw [Nat.le_div_iff_mul_le hdenominator, Nat.mul_comm] at hlead
  rw [show ((digits (r.value * Nat.pow 10 places / r.denominator)).length : Int) - 401 =
    (((digits (r.value * Nat.pow 10 places / r.denominator)).length - 1 : Nat) : Int) - places
    by omega]
  exact reaches_of_scaled hlead

end Rounding

theorem Scientific.trim_pos {s : Scientific} (h : 0 < s.digits) (steps : Nat) :
    0 < (s.trim steps).digits := by
  induction steps generalizing s with
  | zero => exact h
  | succ steps ih =>
    rw [trim]
    split
    · exact ih (show 0 < s.digits / 10 by omega)
    · exact h

theorem le_power (x : Binary64) : -1074 ≤ x.power := by
  unfold Binary64.power
  split <;> omega

/-- The shortest digits of a positive double do not stand for zero. -/
theorem shortest_pos {x : Binary64} (h : x.significand ≠ 0) : 0 < (shortest x).digits := by
  have hpower := le_power x
  have hscale : 0 < Nat.pow 2 (x.power - 2).toNat := Nat.pow_pos (by decide)
  have hlow : 0 < (Rounding.of x).low := by
    refine Nat.mul_pos ?_ hscale
    split <;> omega
  have hvalue : 0 < (Rounding.of x).value := Nat.mul_pos (by omega) hscale
  have hdenominator : 0 < (Rounding.of x).denominator := Nat.pow_pos (by decide)
  have hexponent : (2 - x.power).toNat ≤ 1076 := by omega
  have hmono (a b : Nat) (h : a ≤ b) : Nat.pow 2 a ≤ Nat.pow 2 b :=
    Nat.pow_le_pow_right Nat.two_pos h
  have hsmall : (Rounding.of x).denominator ≤ Nat.pow 10 400 :=
    Nat.le_trans (hmono _ 1076 hexponent) (by decide +kernel)
  have hreaches := Rounding.reaches_leadingExponent hdenominator
    (Nat.le_trans hsmall (Nat.le_mul_of_pos_left _ hvalue))
  exact Scientific.trim_pos (Rounding.search_pos hlow hdenominator 17 hreaches) 17

/-! ## Forms of the text -/

/-- The digits before a point: a zero alone, or digits that begin with another one. -/
inductive Whole : List Char → Prop
  | zero : Whole ['0']
  | digits {first : Char} {rest : List Char} (leading : isDigit first = true)
      (other : first ≠ '0') (others : ∀ c ∈ rest, isDigit c = true) : Whole (first :: rest)

/-- Digits of ASCII, at least one. -/
structure Run (run : List Char) : Prop where
  nonempty : run ≠ []
  digits : ∀ c ∈ run, Decimal.isDigit c = true

/-- A number that is not written as an integer: digits with a fraction, an exponent or both. -/
inductive Spelled : List Char → Prop
  | fraction {whole fraction : List Char} (before : Whole whole) (after : Run fraction) :
      Spelled (whole ++ '.' :: fraction)
  | exponent {whole power : List Char} {sign : Char} (before : Whole whole)
      (signed : sign = '+' ∨ sign = '-') (after : Run power) :
      Spelled (whole ++ 'e' :: sign :: power)
  | both {whole fraction power : List Char} {sign : Char} (before : Whole whole)
      (after : Run fraction) (signed : sign = '+' ∨ sign = '-') (last : Run power) :
      Spelled (whole ++ '.' :: (fraction ++ 'e' :: sign :: power))

/-- The forms of the text of a double. -/
inductive Written (layout : Layout) : List Char → Prop
  | notANumber : Written layout layout.notANumber.toList
  | infinity (negative : Bool) :
      Written layout ((if negative then ['-'] else []) ++ layout.infinity.toList)
  | spelled (negative : Bool) {text : List Char} (spelled : Spelled text) :
      Written layout ((if negative then ['-'] else []) ++ text)

theorem run_digits (value : Nat) : Run (digits value) where
  nonempty h := by
    have hlength := length_digits_pos value
    simp [h] at hlength
  digits _ hc := isDigit_of_mem_digits hc

theorem Run.zeros {run : List Char} (h : Run run) (count : Nat) :
    Run (List.replicate count '0' ++ run) where
  nonempty hnil := h.nonempty (List.append_eq_nil_iff.1 hnil).2
  digits c hc := by
    rcases List.mem_append.1 hc with hzero | hrun
    · rw [(List.mem_replicate.1 hzero).2]
      rfl
    · exact h.digits c hrun

/-- Digits of a positive number, more of them behind it, are digits before a point. -/
theorem whole_digits {value : Nat} (h : 0 < value) {rest : List Char}
    (hrest : ∀ c ∈ rest, isDigit c = true) : Whole (digits value ++ rest) := by
  obtain ⟨first, others, hdigits, hfirst, hzero⟩ := digits_pos h
  have hall := (run_digits value).digits
  rw [hdigits] at hall ⊢
  rw [List.forall_mem_cons] at hall
  exact .digits hfirst hzero (List.forall_mem_append.2 ⟨hall.2, hrest⟩)

/-- So are those of them that stand first. -/
theorem whole_take {value : Nat} (h : 0 < value) {count : Nat} (hcount : 0 < count) :
    Whole ((digits value).take count) := by
  obtain ⟨first, others, hdigits, hfirst, hzero⟩ := digits_pos h
  have hall := (run_digits value).digits
  obtain ⟨count, rfl⟩ := Nat.exists_eq_add_one_of_ne_zero (Nat.ne_of_gt hcount)
  rw [hdigits] at hall ⊢
  rw [List.forall_mem_cons] at hall
  exact .digits hfirst hzero fun c hc => hall.2 c (List.mem_of_mem_take hc)

theorem spelled_positional {s : Scientific} (h : 0 < s.digits) :
    Spelled (Layout.positional s) := by
  have hrun := run_digits s.digits
  unfold Layout.positional
  dsimp only
  split
  · exact .fraction (whole_digits h fun c hc => (List.mem_replicate.1 hc).2 ▸ rfl)
      ⟨by simp, by simp [show isDigit '0' = true from rfl]⟩
  split
  · exact .fraction .zero (hrun.zeros _)
  · next hnegative hlong =>
    refine .fraction (whole_take h (by omega))
      ⟨?_, fun c hc => hrun.digits c (List.mem_of_mem_drop hc)⟩
    rw [ne_eq, List.drop_eq_nil_iff]
    omega

theorem spelled_scientific {s : Scientific} (h : 0 < s.digits) (leading : Int) :
    Spelled (Layout.scientific s leading) := by
  obtain ⟨first, rest, hdigits, hfirst, hzero⟩ := digits_pos h
  have hrun := (run_digits s.digits).digits
  have hwhole : Whole [first] := .digits hfirst hzero (by simp)
  have hsign : (if leading < 0 then '-' else '+') = '+' ∨
      (if leading < 0 then '-' else '+') = '-' := by
    split <;> simp
  have hpower : Run (if (digits leading.natAbs).length < 2 then '0' :: digits leading.natAbs
      else digits leading.natAbs) := by
    split
    · exact (run_digits leading.natAbs).zeros 1
    · exact run_digits leading.natAbs
  unfold Layout.scientific
  rw [hdigits] at hrun ⊢
  rw [List.forall_mem_cons] at hrun
  cases rest with
  | nil => exact .exponent hwhole hsign hpower
  | cons next others => exact .both hwhole ⟨by simp, hrun.2⟩ hsign hpower

/-- The text of every double has one of the forms. -/
theorem written_ofBinary64 (layout : Layout) (x : Binary64) :
    Written layout (ofBinary64 layout x) := by
  unfold ofBinary64
  split
  · exact .notANumber
  dsimp only
  split
  · exact .infinity x.isNegative
  split
  · exact .spelled x.isNegative
      (.fraction .zero ⟨by simp, by simp [show isDigit '0' = true from rfl]⟩)
  · next hpositive =>
    refine .spelled x.isNegative ?_
    split
    · exact spelled_positional (shortest_pos hpositive)
    · exact spelled_scientific (shortest_pos hpositive) _

end Decimal

end DepositGateway
