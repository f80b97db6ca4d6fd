import DepositGateway.Fault
import DepositGateway.Json.Value
import DepositGateway.Text.Digit

/-!
# Integers out of values

Where an integer is expected, a truth value counts as one or zero, a double is cut off towards
zero and a text is read: blanks around it, a sign, decimal digits of any script, single
underscores between them.

* `integerOfText?` reads a text.
* `Json.toInteger` reads any value, or says what is wrong with it.
-/

namespace DepositGateway

/-- Drops the blanks at both ends of a text. -/
def trimBlanks (blank : Char → Bool) (text : List Char) : List Char :=
  ((text.dropWhile blank).reverse.dropWhile blank).reverse

/-- The values of digits with single underscores between them. -/
def digitRun? : List Char → Option (List Nat)
  | [] => none
  | [c] => (digitValue? c).map ([·])
  | c :: '_' :: rest => do
    let first ← digitValue? c
    let others ← digitRun? rest
    some (first :: others)
  | c :: rest => do
    let first ← digitValue? c
    let others ← digitRun? rest
    some (first :: others)

/-- The integer that a text stands for. -/
def integerOfText? (text : List Char) : Option Int := do
  let (negative, unsigned) := match trimBlanks isNumberBlank text with
    | '-' :: rest => (true, rest)
    | '+' :: rest => (false, rest)
    | rest => (false, rest)
  let values ← digitRun? unsigned
  if Decimal.limit < values.length then none
  let size : Nat := values.foldl (fun sum v => sum * 10 + v) 0
  some (if negative then -(size : Int) else size)

/-- The integer part of a number; an infinite number has none, and neither has an undefined one. -/
def Number.toInteger (number : Number) : Except Fault Int :=
  match number with
  | .int value => .ok value
  | .double x =>
    match x.truncate? with
    | some value => .ok value
    | none => .error (if x.isNaN then .notANumber else .overflow)

/-- The integer that a value stands for. -/
def Json.toInteger : Json → Except Fault Int
  | .bool value => .ok (if value then 1 else 0)
  | .num number => number.toInteger
  | .str units =>
    match (Utf16.toString? units).bind fun text => integerOfText? text.toList with
    | some value => .ok value
    | none => .error .badValue
  | _ => .error .badType

@[simp] theorem Json.toInteger_int (value : Int) : Json.toInteger (.int value) = .ok value := rfl

end DepositGateway
