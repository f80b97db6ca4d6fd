import DepositGateway.Json.Double

/-!
# Readings of settings

A setting may come as a value of its own kind or as a text that spells it. What is wrong with one
is said by its kind, and what is wrong with several is said of all of them.

* `Reading.whole`, `Reading.real`, `Reading.flag`: what spells an integer, a double, a truth value.
* `Checked`: readings that go on after a fault and gather all of them.
-/

namespace DepositGateway

/-- What is wrong with a setting. -/
inductive SettingFault where
  /-- There is no object that could hold settings. -/
  | notObject
  | missing
  | notText
  | notAddress
  | notChoice
  | notWhole
  | unreadableWhole
  | tooLong
  | fractional
  | infinite
  | notReal
  | unreadableReal
  | notAbove
  | below
  | notFlag
  | unreadableFlag
  deriving DecidableEq

namespace SettingFault

/-- What is said of a setting with a fault. -/
def text : SettingFault → String
  | notObject => "are no object"
  | missing => "is missing"
  | notText => "must be a text"
  | notAddress => "must be an address of 20 bytes in hexadecimal digits"
  | notChoice => "is none of the choices"
  | notWhole => "must be an integer"
  | unreadableWhole => "does not spell an integer"
  | tooLong => "has too many digits"
  | fractional => "must have no fraction"
  | infinite => "must be finite"
  | notReal => "must be a number"
  | unreadableReal => "does not spell a number"
  | notAbove => "is not above its bound"
  | below => "is below its bound"
  | notFlag => "must be true or false"
  | unreadableFlag => "does not spell true or false"

end SettingFault

/-- A reading of one setting. -/
abbrev Reading (α : Type) := Json → Except SettingFault α

namespace Reading

/-! ## Spellings -/

/-- The integer that digits spell after a minus sign or without one; a zero stands in front of no
other digit. -/
def plainWhole (text : List Char) : Except SettingFault Int :=
  let (negative, unsigned) := match text with
    | '-' :: rest => (true, rest)
    | rest => (false, rest)
  let run := unsigned.takeWhile Decimal.isDigit
  let isShown := run.head? = some '0' → run.length = 1
  if run.isEmpty || !decide isShown then .error .unreadableWhole
  else if Decimal.limit < run.length + (if negative then 1 else 0) then .error .tooLong
  else if run.length < unsigned.length then .error .unreadableWhole
  else
    let size : Int := Decimal.value run
    .ok (if negative then -size else size)

/-- Whether two underscores stand side by side. -/
def hasDouble : List Char → Bool
  | '_' :: '_' :: _ => true
  | _ :: rest => hasDouble rest
  | [] => false

/-- The text without its underscores, where it has some, none of them at an end or beside another
one. -/
def joinRuns? (text : List Char) : Option (List Char) :=
  let isEnd := fun end? : Option Char => end? = some '_'
  if text.contains '_' && !isEnd text.head? && !isEnd text.getLast? && !hasDouble text
  then some (text.filter (· != '_'))
  else none

/-- What follows leading zeros, the last character of which is given, and the underscores between
them: the rest from its first other digit or minus sign on, or from the zero before a point on. -/
def afterZeros? (last : Char) : List Char → Option (List Char)
  | [] => some [last]
  | c :: rest =>
    if c = '0' ∨ c = '_' then afterZeros? c rest
    else if c = '.' then some (last :: c :: rest)
    else if c = '-' ∨ Decimal.isDigit c then some (c :: rest)
    else none

/-- The text without leading zeros; it must begin with a digit or a minus sign. -/
def dropZeros? : List Char → Option (List Char)
  | '0' :: rest => afterZeros? '0' rest
  | c :: rest => if c = '-' ∨ Decimal.isDigit c then some (c :: rest) else none
  | [] => none

/-- The text without a point and zeros at its end. -/
def dropFraction (text : List Char) : List Char :=
  match text.dropWhile (· != '.') with
  | _ :: zeros =>
    if !zeros.isEmpty && zeros.all (· == '0') then text.takeWhile (· != '.') else text
  | [] => text

/-- The text without a plus sign, leading zeros, a fraction of zeros and underscores; nothing where
the integer that it spells could not be read from it. -/
def simplify? (text : List Char) : Option (List Char) :=
  let unsigned? := match text with
    | '+' :: '-' :: _ => none
    | '+' :: rest => some rest
    | _ => some text
  (unsigned?.bind dropZeros?).map fun text =>
    let whole := dropFraction text
    (joinRuns? whole).getD whole

/-- The integer that a text spells: blanks around it, a sign, digits with single underscores
between them, and perhaps a fraction of zeros. -/
def wholeOfText (text : List Char) : Except SettingFault Int :=
  let text := trimBlanks isNumberBlank text
  match plainWhole text with
  | .error .unreadableWhole =>
    match simplify? text with
    | some simple => plainWhole simple
    | none => .error .unreadableWhole
  | result => result

/-- The double that a text spells; infinity and what is no number are spelt by their names. Blanks
may stand around it, or else underscores in it. -/
def realOfText? (text : List Char) : Option Binary64 :=
  match signedDouble? (trimBlanks isNumberBlank text) with
  | some x => some x
  | none => (joinRuns? text).bind signedDouble?

/-- The truth value that a word spells. -/
def flagOfText? (text : String) : Option Bool :=
  let word := text.toLower
  if ["1", "true", "t", "yes", "y", "on"].contains word then some true
  else if ["0", "false", "f", "no", "n", "off"].contains word then some false
  else none

/-! ## Readings -/

/-- A text. -/
def text : Reading String
  | .str units => .ok (Utf16.toText units)
  | _ => .error .notText

/-- A setting that may also be null. -/
def optional {α : Type} (reading : Reading α) : Reading (Option α)
  | .null => .ok none
  | value => (reading value).map some

/-- An integer, a double without a fraction, a truth value, or a text that spells an integer. -/
def whole : Reading Int
  | .bool value => .ok (if value then 1 else 0)
  | .num (.int value) => .ok value
  | .num (.double x) =>
    if x.isFinite then
      match x.toInt? with
      | some value => if value.natAbs < Nat.pow 2 63 then .ok value else .error .tooLong
      | none => .error .fractional
    else .error .infinite
  | .str units => wholeOfText (Utf16.toText units).toList
  | _ => .error .notWhole

/-- A number, a truth value, or a text that spells a number. -/
def real : Reading Number
  | .bool value => .ok (.double (Binary64.ofRatio false (if value then 1 else 0) 1))
  | .num number =>
    match number.toBinary64? with
    | some x => .ok (.double x)
    | none => .error .notReal
  | .str units =>
    match realOfText? (Utf16.toText units).toList with
    | some x => .ok (.double x)
    | none => .error .unreadableReal
  | _ => .error .notReal

/-- A truth value, one or zero, or a word for a truth value. Integers of more than 64 bits are no
numbers here. -/
def flag : Reading Bool
  | .bool value => .ok value
  | .num number =>
    match Reading.whole (.num number) with
    | .ok value =>
      if value = 1 then .ok true
      else if value = 0 then .ok false
      else if -Nat.pow 2 63 ≤ value ∧ value < Nat.pow 2 63 then .error .unreadableFlag
      else .error .notFlag
    | .error _ => .error .notFlag
  | .str units =>
    match flagOfText? (Utf16.toText units) with
    | some value => .ok value
    | none => .error .unreadableFlag
  | _ => .error .notFlag

/-- A reading whose answers must pass a test. -/
def check {α : Type} (test : α → Bool) (fault : SettingFault) (reading : Reading α) : Reading α :=
  fun value => do
    let answer ← reading value
    if test answer then .ok answer else .error fault

/-- An integer from a bound on. -/
def wholeFrom (bound : Int) : Reading Int := whole.check (bound ≤ ·) .below

/-- An integer above zero. -/
def positiveWhole : Reading Int := whole.check (0 < ·) .notAbove

/-- A number from zero on. -/
def realFromZero : Reading Number := real.check (Number.le 0) .below

/-- A number above zero. -/
def positiveReal : Reading Number := real.check (Number.lt 0) .notAbove

end Reading

/-! ## Several settings -/

/-- A result, or every setting that is at fault. -/
inductive Checked (α : Type) where
  | good (value : α)
  | faulty (faults : List (String × SettingFault))

namespace Checked

/-- A function applied to a result; the faults of both are kept, those of the function first. -/
def apply {α β : Type} (function : Checked (α → β)) (argument : Checked α) : Checked β :=
  match function, argument with
  | good f, good value => good (f value)
  | good _, faulty faults => faulty faults
  | faulty faults, good _ => faulty faults
  | faulty before, faulty after => faulty (before ++ after)

instance : Applicative Checked where
  pure := good
  seq function argument := apply function (argument ())

end Checked

end DepositGateway
