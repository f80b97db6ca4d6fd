import DepositGateway.Binary64
import DepositGateway.Decimal.Shortest

/-!
# Numbers

A number is an exact integer or a double. The two compare by their exact values and mix in sums,
where the integer is rounded to a double first.
-/

namespace DepositGateway

/-- An exact integer or a double. -/
inductive Number where
  | int (value : Int)
  | double (value : Binary64)
  deriving DecidableEq

namespace Number

instance : Inhabited Number := ⟨.int 0⟩

instance (n : Nat) : OfNat Number n := ⟨.int n⟩

/-- Where a number stands on the line: beyond all finite numbers, at a quotient, or nowhere. -/
inductive Place where
  | below
  | finite (numerator : Int) (denominator : Nat)
  | above
  | nowhere
  deriving DecidableEq

/-- The place of a number. -/
def place : Number → Place
  | .int value => .finite value 1
  | .double x =>
    if x.isNaN then .nowhere
    else if x.isInfinite then (if x.isNegative then .below else .above)
    else .finite x.signedNumerator x.ratio.2

/-- The order of places; nothing compares with a place that is nowhere. -/
def Place.lt : Place → Place → Bool
  | .nowhere, _ => false
  | _, .nowhere => false
  | .below, .below => false
  | .below, _ => true
  | _, .below => false
  | .above, _ => false
  | _, .above => true
  | .finite n d, .finite m e => n * e < m * d

/-- The equality of places; a place that is nowhere does not even equal itself. -/
def Place.eq : Place → Place → Bool
  | .below, .below => true
  | .above, .above => true
  | .finite n d, .finite m e => n * e == m * d
  | _, _ => false

/-- Whether one number is less than another. -/
def lt (a b : Number) : Bool := a.place.lt b.place

/-- Whether two numbers have the same value; `1` and `1.0` have. -/
def same (a b : Number) : Bool := a.place.eq b.place

/-- Whether one number is at most another. -/
def le (a b : Number) : Bool := a.lt b || a.same b

/-- The number as a double; an integer beyond all doubles has none. -/
def toBinary64? : Number → Option Binary64
  | .int value => Binary64.ofInt? value
  | .double x => some x

/-- The sum: exact for integers, otherwise that of the doubles. -/
def add? : Number → Number → Option Number
  | .int a, .int b => some (.int (a + b))
  | a, b => do return .double ((← a.toBinary64?).add (← b.toBinary64?))

/-- The quotient of a number and a positive natural, rounded down. -/
def floorDivNat (number : Number) (divisor : Nat) : Number :=
  match number with
  | .int value => .int (value.fdiv divisor)
  | .double x => .double (x.floorDivNat divisor)

/-- The first of two numbers, unless the second is greater. -/
def greater (a b : Number) : Number := if a.lt b then b else a

/-- The smallest natural from which on naturals are at least the number; nothing that is not
finite has one unless it is below all of them. -/
def ceilNat? : Number → Option Nat
  | .int value => some value.toNat
  | .double x =>
    match x.truncate? with
    | some whole => some (if (Number.int whole).lt (.double x) then whole + 1 else whole).toNat
    | none => if x.isInfinite && x.isNegative then some 0 else none

/-- A thousand times the number. -/
def thousandfold : Number → Number
  | .int value => .int (value * 1000)
  | .double x => .double (x.mul (Binary64.ofRatio false 1000 1))

/-- The integer part of a finite number, towards zero. -/
def truncate? : Number → Option Int
  | .int value => some value
  | .double x => x.truncate?

/-- The text of a number in a layout of doubles. -/
def digits (layout : Decimal.Layout) : Number → List Char
  | .int value => Decimal.ofInt value
  | .double x => Decimal.ofBinary64 layout x

/-- Whether a number can be written: an integer is within the limit of digits. -/
def isWritable : Number → Bool
  | .int value => (Decimal.digits value.natAbs).length ≤ Decimal.limit
  | .double _ => true

/-- The text of a number meant for people. -/
def text (n : Number) : String := String.ofList (n.digits .plain)

@[simp] theorem lt_int (a b : Int) : lt (.int a) (.int b) = decide (a < b) := by
  simp [lt, place, Place.lt]

@[simp] theorem same_int (a b : Int) : same (.int a) (.int b) = decide (a = b) := by
  simp only [same, place, Place.eq]
  simp [BEq.beq]

@[simp] theorem le_int (a b : Int) : le (.int a) (.int b) = decide (a ≤ b) := by
  rw [le, lt_int, same_int, ← Bool.decide_or, decide_eq_decide]
  omega

@[simp] theorem add?_int (a b : Int) : add? (.int a) (.int b) = some (.int (a + b)) := rfl

@[simp] theorem floorDivNat_int (a : Int) (divisor : Nat) :
    floorDivNat (.int a) divisor = .int (a.fdiv divisor) := rfl

@[simp] theorem ceilNat?_int (a : Int) : ceilNat? (.int a) = some a.toNat := rfl

/-- The greater of two integers. -/
@[simp] theorem greater_int (a b : Int) : greater (.int a) (.int b) = .int (max a b) := by
  simp only [greater, lt_int, decide_eq_true_eq]
  split
  · rw [Int.max_eq_right (by omega)]
  · rw [Int.max_eq_left (by omega)]

@[simp] theorem truncate?_int (a : Int) : truncate? (.int a) = some a := rfl

/-- An integer can be written if its size is below a power of ten. -/
theorem isWritable_iff {value : Int} :
    (Number.int value).isWritable = true ↔ value.natAbs < Nat.pow 10 Decimal.limit := by
  have hlong := Decimal.lt_length_digits_iff value.natAbs (show 0 < Decimal.limit by decide)
  rw [isWritable, decide_eq_true_eq, ← Nat.not_lt, hlong, Nat.not_le]

theorem isWritable_int {value : Int} (h : 0 ≤ value) :
    (Number.int value).isWritable = true ↔ value < Nat.pow 10 Decimal.limit := by
  rw [isWritable_iff, ← Int.ofNat_lt, Int.natAbs_of_nonneg h]

/-- What is less can be written too. -/
theorem isWritable_of_le {less more : Nat} (hle : less ≤ more)
    (h : (Number.int more).isWritable = true) : (Number.int less).isWritable = true :=
  isWritable_iff.2 (Nat.lt_of_le_of_lt hle (isWritable_iff.1 h))

theorem isWritable_zero : (Number.int 0).isWritable = true := by decide +kernel

end Number

end DepositGateway
