/-!
# Double-precision numbers

A double is the word of its sign, eleven bits of exponent and fifty-two bits of fraction. Every
operation is defined on exact quotients of integers and rounds once, to the nearest double and to
the even one of two equally near.

* `Binary64.ratio`: the exact magnitude of a finite double as a quotient of naturals.
* `Binary64.ofRatio`: the double nearest to a quotient.
* `Binary64.add`, `Binary64.mul`: sum and product, rounded once.
* `Binary64.truncate?`: the integer part of a finite double.
* `Binary64.floorDivNat`: the quotient of a double and a natural, rounded down.
-/

namespace DepositGateway

/-- A double by its word. -/
structure Binary64 where
  bits : UInt64
  deriving DecidableEq

namespace Binary64

/-- Whether the sign bit is set; negative zero has it too. -/
def isNegative (x : Binary64) : Bool := Nat.pow 2 63 ≤ x.bits.toNat

/-- The eleven bits of the exponent. -/
def exponentField (x : Binary64) : Nat := x.bits.toNat / Nat.pow 2 52 % 2048

/-- The fifty-two bits of the fraction. -/
def fractionField (x : Binary64) : Nat := x.bits.toNat % Nat.pow 2 52

/-- Neither infinite nor undefined. -/
def isFinite (x : Binary64) : Bool := x.exponentField != 2047

/-- Undefined: not a number. -/
def isNaN (x : Binary64) : Bool := x.exponentField == 2047 && x.fractionField != 0

/-- One of the two infinities. -/
def isInfinite (x : Binary64) : Bool := x.exponentField == 2047 && x.fractionField == 0

/-- The integer that a finite magnitude is a multiple of a power of two of. -/
def significand (x : Binary64) : Nat :=
  if x.exponentField = 0 then x.fractionField else Nat.pow 2 52 + x.fractionField

/-- The exponent of that power of two. -/
def power (x : Binary64) : Int :=
  if x.exponentField = 0 then -1074 else (x.exponentField : Int) - 1075

/-- The magnitude of a finite double as numerator and positive denominator. -/
def ratio (x : Binary64) : Nat × Nat :=
  (x.significand * Nat.pow 2 x.power.toNat, Nat.pow 2 (-x.power).toNat)

/-- Not a number. -/
def nan : Binary64 := ⟨0x7ff8000000000000⟩

/-- The infinity of a sign. -/
def infinity (negative : Bool) : Binary64 :=
  if negative then ⟨0xfff0000000000000⟩ else ⟨0x7ff0000000000000⟩

/-- The zero of a sign. -/
def zero (negative : Bool) : Binary64 :=
  if negative then ⟨0x8000000000000000⟩ else ⟨0⟩

/-- The quotient rounded to the nearest integer, a half to the even one. -/
def roundHalfEven (numerator denominator : Nat) : Nat :=
  let quotient := numerator / denominator
  let remainder := numerator % denominator
  if 2 * remainder < denominator then quotient
  else if denominator < 2 * remainder then quotient + 1
  else quotient + quotient % 2

/-- The exponent of the last place that a double near the quotient has. -/
def lastPlace (numerator denominator : Nat) : Int :=
  let guess : Int := (Nat.log2 numerator : Int) - Nat.log2 denominator - 52
  let scaled := numerator * Nat.pow 2 (-guess).toNat
  let unit := denominator * Nat.pow 2 guess.toNat
  max (-1074) (if scaled / unit < Nat.pow 2 52 then guess - 1 else guess)

/-- The double nearest to a quotient of naturals, with the given sign; too large a quotient
becomes infinite. -/
def ofRatio (negative : Bool) (numerator denominator : Nat) : Binary64 :=
  if numerator = 0 then zero negative
  else
    let place := lastPlace numerator denominator
    let rounded :=
      roundHalfEven (numerator * Nat.pow 2 (-place).toNat) (denominator * Nat.pow 2 place.toNat)
    let word :=
      if rounded < Nat.pow 2 52 then rounded
      else (place + 1074).toNat * Nat.pow 2 52 + rounded
    if 2047 * Nat.pow 2 52 ≤ word then infinity negative
    else ⟨UInt64.ofNat (if negative then Nat.pow 2 63 + word else word)⟩

/-- The double nearest to an integer, where it is not beyond all doubles. -/
def ofInt? (value : Int) : Option Binary64 :=
  let nearest := ofRatio (value < 0) value.natAbs 1
  if nearest.isFinite then some nearest else none

/-- The numerator of a finite double with its sign. -/
def signedNumerator (x : Binary64) : Int :=
  if x.isNegative then -(x.ratio.1 : Int) else x.ratio.1

/-- The sum. Two zeros of one sign keep it, any other zero sum is positive. -/
def add (x y : Binary64) : Binary64 :=
  if x.isNaN || y.isNaN then nan
  else if x.isInfinite then
    if y.isInfinite && x.isNegative != y.isNegative then nan else x
  else if y.isInfinite then y
  else
    let denominator := x.ratio.2 * y.ratio.2
    let sum := x.signedNumerator * y.ratio.2 + y.signedNumerator * x.ratio.2
    if sum = 0 then zero (x.isNegative && y.isNegative)
    else ofRatio (sum < 0) sum.natAbs denominator

/-- The product. -/
def mul (x y : Binary64) : Binary64 :=
  let negative := x.isNegative != y.isNegative
  if x.isNaN || y.isNaN then nan
  else if x.isInfinite || y.isInfinite then
    if (x.isFinite && x.significand == 0) || (y.isFinite && y.significand == 0) then nan
    else infinity negative
  else ofRatio negative (x.ratio.1 * y.ratio.1) (x.ratio.2 * y.ratio.2)

/-- The same magnitude with the other sign. -/
def negate (x : Binary64) : Binary64 :=
  ⟨if x.isNegative then x.bits - 0x8000000000000000 else x.bits + 0x8000000000000000⟩

/-- The difference. -/
def sub (x y : Binary64) : Binary64 := x.add y.negate

/-- A finite double divided by a positive natural. -/
def divNat (x : Binary64) (divisor : Nat) : Binary64 :=
  if x.isFinite then ofRatio x.isNegative x.ratio.1 (x.ratio.2 * divisor) else x

/-- What a division of a finite double by a positive natural towards zero leaves over; it has the
sign of the double and is exact. -/
def remainderNat (x : Binary64) (divisor : Nat) : Binary64 :=
  ofRatio x.isNegative (x.ratio.1 % (x.ratio.2 * divisor)) x.ratio.2

/-- The integer part of a finite double, towards zero. -/
def truncate? (x : Binary64) : Option Int :=
  if x.isFinite then
    let whole := x.ratio.1 / x.ratio.2
    some (if x.isNegative then -(whole : Int) else whole)
  else none

/-- The greatest integer that is not above a finite double, as a double; it is always one. -/
def floor (x : Binary64) : Binary64 :=
  if x.isFinite then
    let whole := x.ratio.1 / x.ratio.2
    let isWhole := x.ratio.1 % x.ratio.2 == 0
    ofRatio x.isNegative (if x.isNegative && !isWhole then whole + 1 else whole) 1
  else x

/-- The quotient of a double and a positive natural, rounded down: the remainder is taken off
before the division. Nothing that is not finite has one. -/
def floorDivNat (x : Binary64) (divisor : Nat) : Binary64 :=
  if x.isFinite then
    let remainder := x.remainderNat divisor
    let quotient := (x.sub remainder).divNat divisor
    let quotient :=
      if remainder.isNegative && remainder.significand != 0 then quotient.sub (ofRatio false 1 1)
      else quotient
    let floor := quotient.floor
    let rest := quotient.sub floor
    if quotient.significand == 0 then zero x.isNegative
    else if !rest.isNegative && rest.ratio.2 < 2 * rest.ratio.1 then floor.add (ofRatio false 1 1)
    else floor
  else nan

/-- The integer that a finite double equals, if it equals one. -/
def toInt? (x : Binary64) : Option Int :=
  if x.isFinite && x.ratio.1 % x.ratio.2 == 0 then x.truncate? else none

/-- The double nearest to `digits * 10 ^ exponent`, with the given sign. -/
def ofDecimal (negative : Bool) (digits : Nat) (exponent : Int) : Binary64 :=
  if digits = 0 then zero negative
  else
    -- One decimal digit is worth between three and four bits.
    let bits : Int := Nat.log2 digits
    if 400 < bits / 4 + exponent then infinity negative
    else if bits / 3 + 1 + exponent < -400 then zero negative
    else ofRatio negative (digits * Nat.pow 10 exponent.toNat) (Nat.pow 10 (-exponent).toNat)

end Binary64

end DepositGateway
