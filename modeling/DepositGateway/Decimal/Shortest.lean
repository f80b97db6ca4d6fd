import DepositGateway.Binary64
import DepositGateway.Decimal.Integer

/-!
# The shortest text of a double

* `Decimal.shortest`: the fewest decimal digits that read back as a positive double, and of
  those with so few digits the nearest.
* `Decimal.Layout`: how such digits are laid out as text.
* `Decimal.ofBinary64`: the text of any double in a layout.
-/

namespace DepositGateway

namespace Decimal

/-- Digits with the power of ten that the last one counts: `digits * 10 ^ exponent`. -/
structure Scientific where
  digits : Nat
  exponent : Int
  deriving DecidableEq

/-- The interval of quotients that round to a double, as numerators over one denominator. -/
structure Rounding where
  low : Nat
  value : Nat
  high : Nat
  denominator : Nat
  inclusive : Bool

/-- The interval around a positive finite double. The lower neighbour of a power of two is only
half as far away; the ends belong to the interval when the significand is even. -/
def Rounding.of (x : Binary64) : Rounding :=
  let m := x.significand
  let lower := if x.fractionField = 0 ∧ 1 < x.exponentField then 1 else 2
  let scale := Nat.pow 2 (x.power - 2).toNat
  ⟨(4 * m - lower) * scale, 4 * m * scale, (4 * m + 2) * scale, Nat.pow 2 (2 - x.power).toNat,
    m % 2 == 0⟩

/-- Whether `digits * 10 ^ exponent` lies in the interval. -/
def Rounding.contains (r : Rounding) (digits : Nat) (exponent : Int) : Bool :=
  let point := digits * Nat.pow 10 exponent.toNat * r.denominator
  let scale := Nat.pow 10 (-exponent).toNat
  if r.inclusive then r.low * scale ≤ point && point ≤ r.high * scale
  else r.low * scale < point && point < r.high * scale

/-- The point of the grid of `10 ^ exponent` that lies in the interval, the nearer of two. -/
def Rounding.nearest? (r : Rounding) (exponent : Int) : Option Nat :=
  let numerator := r.value * Nat.pow 10 (-exponent).toNat
  let unit := r.denominator * Nat.pow 10 exponent.toNat
  let below := numerator / unit
  let remainder := numerator % unit
  let nearer :=
    if 2 * remainder < unit then below
    else if unit < 2 * remainder then below + 1
    else below + below % 2
  let farther := if nearer = below then below + 1 else below
  if r.contains nearer exponent then some nearer
  else if r.contains farther exponent then some farther
  else none

/-- The first grid with a hit, from `10 ^ exponent` downwards. -/
def Rounding.search (r : Rounding) : Nat → Int → Scientific
  | 0, exponent =>
    ⟨r.value * Nat.pow 10 (-exponent).toNat / (r.denominator * Nat.pow 10 exponent.toNat), exponent⟩
  | steps + 1, exponent =>
    match r.nearest? exponent with
    | some digits => ⟨digits, exponent⟩
    | none => r.search steps (exponent - 1)

/-- The exponent of the leading decimal digit of a quotient above `10 ^ (-400)`. -/
def leadingExponent (numerator denominator : Nat) : Int :=
  ((digits (numerator * Nat.pow 10 400 / denominator)).length : Int) - 401

/-- Drops the zeros at the end of the digits. -/
def Scientific.trim : Nat → Scientific → Scientific
  | 0, s => s
  | steps + 1, s =>
    if s.digits % 10 = 0 then Scientific.trim steps ⟨s.digits / 10, s.exponent + 1⟩ else s

/-- The shortest digits that read back as a positive finite double. -/
def shortest (x : Binary64) : Scientific :=
  let r := Rounding.of x
  (r.search 17 (leadingExponent r.value r.denominator)).trim 17

/-- How digits are laid out: positional while the exponent of the leading digit lies between
`leastPositional` and `greatestPositional`, else with an exponent of at least two digits. -/
structure Layout where
  leastPositional : Int
  greatestPositional : Int
  infinity : String
  notANumber : String

/-- The fractional part is written even where it is zero. -/
def Layout.positional (s : Scientific) : List Char :=
  let run := digits s.digits
  if 0 ≤ s.exponent then run ++ List.replicate s.exponent.toNat '0' ++ ['.', '0']
  else
    let places := (-s.exponent).toNat
    if run.length ≤ places then
      '0' :: '.' :: List.replicate (places - run.length) '0' ++ run
    else run.take (run.length - places) ++ '.' :: run.drop (run.length - places)

/-- One digit before the point, no point where no digit follows. -/
def Layout.scientific (s : Scientific) (leading : Int) : List Char :=
  let mantissa := match digits s.digits with
    | [] => []
    | [d] => [d]
    | d :: rest => d :: '.' :: rest
  let size := digits leading.natAbs
  let padded := if size.length < 2 then '0' :: size else size
  mantissa ++ 'e' :: (if leading < 0 then '-' else '+') :: padded

/-- The text of a double. -/
def ofBinary64 (layout : Layout) (x : Binary64) : List Char :=
  if x.isNaN then layout.notANumber.toList
  else
    let sign := if x.isNegative then ['-'] else []
    if x.isInfinite then sign ++ layout.infinity.toList
    else if x.significand = 0 then sign ++ ['0', '.', '0']
    else
      let s := shortest x
      let leading := s.exponent + (digits s.digits).length - 1
      sign ++
        if layout.leastPositional ≤ leading ∧ leading ≤ layout.greatestPositional then
          Layout.positional s
        else Layout.scientific s leading

/-- The layout of numbers in text meant for people. -/
def Layout.plain : Layout := ⟨-4, 15, "inf", "nan"⟩

/-- The layout of numbers in JSON. -/
def Layout.json : Layout := ⟨-4, 15, "Infinity", "NaN"⟩

end Decimal

end DepositGateway
