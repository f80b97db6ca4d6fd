import DepositGateway.Json.Integer

/-!
# Doubles out of values

Where a double is expected, an integer is rounded to one, a truth value counts as one or zero and a
text is read: blanks around it, a sign, decimal digits of any script with single underscores
between them, a point, an exponent, or one of the words for infinity and for what is no number.

* `doubleOfText?` reads a text.
* `Json.toDouble` reads any value, or says what is wrong with it.
-/

namespace DepositGateway

/-- The text after its sign, and whether that is a minus. -/
def splitSign : List Char → Bool × List Char
  | '-' :: rest => (true, rest)
  | '+' :: rest => (false, rest)
  | text => (false, text)

/-- The double that unsigned digits spell, with a point and an exponent or without. -/
def plainDouble? (negative : Bool) (text : List Char) : Option Binary64 :=
  let whole := text.takeWhile Decimal.isDigit
  let rest := text.dropWhile Decimal.isDigit
  let (fraction, rest) := match rest with
    | '.' :: tail => (tail.takeWhile Decimal.isDigit, tail.dropWhile Decimal.isDigit)
    | _ => ([], rest)
  let (exponent?, rest) := Decimal.exponentPart rest
  if (whole ++ fraction).isEmpty || !rest.isEmpty then none
  else
    let exponent := exponent?.getD 0 - (fraction.length : Int)
    some (Binary64.ofDecimal negative (Decimal.value (whole ++ fraction)) exponent)

/-- The double that a text without blanks and underscores spells. -/
def signedDouble? (text : List Char) : Option Binary64 :=
  let (negative, unsigned) := splitSign text
  let word := String.ofList (unsigned.map Char.toLower)
  if word = "inf" ∨ word = "infinity" then some (Binary64.infinity negative)
  else if word = "nan" then some Binary64.nan
  else plainDouble? negative unsigned

/-- Leaves out the underscores that stand alone between two digits; any other is refused. -/
def dropUnderscores? : List Char → Option (List Char)
  | [] => some []
  | a :: '_' :: b :: rest =>
    if Decimal.isDigit a && Decimal.isDigit b then
      (dropUnderscores? (b :: rest)).map (a :: ·)
    else none
  | c :: rest => if c == '_' then none else (dropUnderscores? rest).map (c :: ·)

/-- A digit of any script as that of ASCII; any other character stays. -/
def plainDigit (c : Char) : Char :=
  match digitValue? c with
  | some value => Decimal.digit value
  | none => c

/-- The double that a text stands for. -/
def doubleOfText? (text : List Char) : Option Binary64 :=
  (dropUnderscores? ((trimBlanks isNumberBlank text).map plainDigit)).bind signedDouble?

/-- The double that a value stands for. -/
def Json.toDouble : Json → Except Fault Binary64
  | .str units =>
    match (Utf16.toString? units).bind fun text => doubleOfText? text.toList with
    | some x => .ok x
    | none => .error .badValue
  | value =>
    match value.asNumber? with
    | some number =>
      match number.toBinary64? with
      | some x => .ok x
      | none => .error .overflow
    | none => .error .badType

@[simp] theorem Json.toDouble_double (x : Binary64) :
    Json.toDouble (.num (.double x)) = .ok x := rfl

end DepositGateway
