/-!
# Decimal integers

* `Decimal.digits` writes a natural without leading zeros, `Decimal.ofInt` an integer with a minus
  sign where it is negative.
* `Decimal.value` reads a run of digits, leading zeros included.
* `Decimal.value_digits`: reading what was written gives the number back.
* `Decimal.limit`: how many digits a text may have that is turned into a number or back.
-/

namespace DepositGateway

namespace Decimal

/-- Integers of more digits than this are neither read nor written. -/
def limit : Nat := 4300

/-- A digit of ASCII. -/
def isDigit (c : Char) : Bool := '0' ≤ c && c ≤ '9'

/-- The digit of a value below ten. -/
def digit (value : Nat) : Char := Char.ofNat (48 + value)

/-- The digits of a natural, the most significant first; zero has one. -/
def digits (value : Nat) : List Char :=
  if value < 10 then [digit value] else digits (value / 10) ++ [digit (value % 10)]
termination_by value
decreasing_by omega

/-- The number that a run of digits stands for. -/
def value (run : List Char) : Nat :=
  run.foldl (fun sum c => sum * 10 + (c.toNat - 48)) 0

/-- The exponent after its letter, where at least one digit follows. -/
def exponentPart (text : List Char) : Option Int × List Char :=
  match text with
  | letter :: rest =>
    if letter = 'e' ∨ letter = 'E' then
      let (negative, unsigned) := match rest with
        | '-' :: tail => (true, tail)
        | '+' :: tail => (false, tail)
        | tail => (false, tail)
      let run := unsigned.takeWhile isDigit
      if run.isEmpty then (none, text)
      else
        let size : Int := value run
        (some (if negative then -size else size), unsigned.dropWhile isDigit)
    else (none, text)
  | [] => (none, text)

/-- The digits of an integer after its sign. -/
def ofInt (number : Int) : List Char :=
  if number < 0 then '-' :: digits number.natAbs else digits number.natAbs

/-- The text of a natural. -/
def text (number : Nat) : String := String.ofList (digits number)

/-- The text of an integer. -/
def textInt (number : Int) : String := String.ofList (ofInt number)

theorem digits_of_lt {value : Nat} (h : value < 10) : digits value = [digit value] := by
  rw [digits, if_pos h]

theorem digits_of_le {value : Nat} (h : 10 ≤ value) :
    digits value = digits (value / 10) ++ [digit (value % 10)] := by
  rw [digits, if_neg (by omega)]

/-- A natural has more than so many digits exactly from a power of ten on. -/
theorem lt_length_digits_iff {count : Nat} (value : Nat) (h : 0 < count) :
    count < (digits value).length ↔ Nat.pow 10 count ≤ value := by
  induction value using Nat.strongRecOn generalizing count with
  | ind value ih =>
    by_cases hsmall : value < 10
    · have hpow : Nat.pow 10 1 ≤ Nat.pow 10 count := Nat.pow_le_pow_right (by omega) h
      have hten : Nat.pow 10 1 = 10 := by decide
      simp only [digits_of_lt hsmall, List.length_singleton]
      omega
    · simp only [digits_of_le (Nat.le_of_not_lt hsmall), List.length_append,
        List.length_singleton]
      obtain ⟨rest, rfl⟩ : ∃ rest, count = rest + 1 := ⟨count - 1, by omega⟩
      have hpow : Nat.pow 10 (rest + 1) = Nat.pow 10 rest * 10 := rfl
      have hdiv := Nat.le_div_iff_mul_le (x := Nat.pow 10 rest) (y := value) (show 0 < 10 by decide)
      rw [hpow, ← hdiv, Nat.add_lt_add_iff_right]
      rcases Nat.eq_zero_or_pos rest with rfl | hrest
      · have hone : Nat.pow 10 0 = 1 := rfl
        have hlength : 0 < (digits (value / 10)).length := by
          rw [digits]
          split <;> simp
        omega
      · exact ih (value / 10) (by omega) hrest

private theorem toNat_digit {v : Nat} (h : v < 10) : (digit v).toNat = 48 + v := by
  have all : ∀ w : Fin 10, (digit w.val).toNat = 48 + w.val := by decide
  exact all ⟨v, h⟩

theorem value_append_singleton (run : List Char) (c : Char) :
    value (run ++ [c]) = value run * 10 + (c.toNat - 48) := by
  simp [value, List.foldl_append]

/-- Reading the digits of a number gives the number back. -/
theorem value_digits (number : Nat) : value (digits number) = number := by
  induction number using Nat.strongRecOn with
  | ind number ih =>
    by_cases h : number < 10
    · rw [digits_of_lt h]
      simp [value, toNat_digit h]
    · rw [digits_of_le (by omega), value_append_singleton, ih _ (by omega),
        toNat_digit (by omega)]
      omega

end Decimal

end DepositGateway
