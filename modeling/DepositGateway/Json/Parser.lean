import DepositGateway.Bytes.Hex
import DepositGateway.Json.Value

/-!
# Reading JSON text

The reader takes the characters of a text and gives the value with the characters that follow it.
Beyond the standard it takes `NaN`, `Infinity` and `-Infinity`; of two members with one key the
last gives the value. Blanks are space, tab, line feed and return; control characters inside a
text are refused, and so is an integer of more digits than the limit.

* `Json.parse?` reads a whole text.
-/

namespace DepositGateway

namespace Json

/-- The blanks between tokens. -/
def isBlank (c : Char) : Bool := c == ' ' || c == '\t' || c == '\n' || c == '\r'

/-- The text after its leading blanks. -/
def skipBlanks (text : List Char) : List Char := text.dropWhile isBlank

/-- The unit that four hexadecimal digits name. -/
def unitOfDigits? (a b c d : Char) : Option UInt16 := do
  let a ← hexValue? a
  let b ← hexValue? b
  let c ← hexValue? c
  let d ← hexValue? d
  some (UInt16.ofNat (((a * 16 + b) * 16 + c) * 16 + d))

/-- The unit that a letter after a backslash names. -/
def unitOfEscape? (c : Char) : Option UInt16 :=
  match c with
  | '"' => some 0x22
  | '\\' => some 0x5c
  | '/' => some 0x2f
  | 'b' => some 0x08
  | 'f' => some 0x0c
  | 'n' => some 0x0a
  | 'r' => some 0x0d
  | 't' => some 0x09
  | _ => none

/-- The units of a text up to its closing quote, and what follows the quote. -/
def textBody? : List Char → Option (Utf16 × List Char)
  | [] => none
  | '"' :: rest => some ([], rest)
  | '\\' :: 'u' :: a :: b :: c :: d :: rest => do
    let unit ← unitOfDigits? a b c d
    let (units, rest) ← textBody? rest
    some (unit :: units, rest)
  | '\\' :: c :: rest => do
    let unit ← unitOfEscape? c
    let (units, rest) ← textBody? rest
    some (unit :: units, rest)
  | c :: rest => do
    if c.toNat < 0x20 ∨ c = '\\' then none
    let (units, rest) ← textBody? rest
    some (Utf16.ofChar c ++ units, rest)

/-- The digits of a fraction after its point, where at least one follows. -/
def fractionDigits (text : List Char) : List Char × List Char :=
  match text with
  | '.' :: rest =>
    let run := rest.takeWhile Decimal.isDigit
    if run.isEmpty then ([], text) else (run, rest.dropWhile Decimal.isDigit)
  | _ => ([], text)

/-- A number whose digits start here: the value and what follows it. -/
def unsignedNumber? (negative : Bool) (text : List Char) : Option (Number × List Char) := do
  let (whole, rest) ← match text with
    | '0' :: tail => some (['0'], tail)
    | c :: tail =>
      if Decimal.isDigit c then
        some (c :: tail.takeWhile Decimal.isDigit, tail.dropWhile Decimal.isDigit)
      else none
    | [] => none
  let (fraction, rest) := fractionDigits rest
  let (exponent?, rest) := Decimal.exponentPart rest
  if fraction.isEmpty && exponent?.isNone then
    if Decimal.limit < whole.length then none
    else
      let size : Int := Decimal.value whole
      some (.int (if negative then -size else size), rest)
  else
    let digits := Decimal.value (whole ++ fraction)
    let exponent := exponent?.getD 0 - (fraction.length : Int)
    some (.double (Binary64.ofDecimal negative digits exponent), rest)

/-- What follows a word that the text starts with. -/
def afterWord? : List Char → List Char → Option (List Char)
  | [], text => some text
  | _ :: _, [] => none
  | w :: word, c :: text => if w = c then afterWord? word text else none

/-- A number, infinite and undefined ones included. -/
def number? (text : List Char) : Option (Number × List Char) :=
  match text with
  | '-' :: 'I' :: rest => do
    let rest ← afterWord? ['n', 'f', 'i', 'n', 'i', 't', 'y'] rest
    some (.double (Binary64.infinity true), rest)
  | '-' :: rest => unsignedNumber? true rest
  | 'I' :: rest => do
    let rest ← afterWord? ['n', 'f', 'i', 'n', 'i', 't', 'y'] rest
    some (.double (Binary64.infinity false), rest)
  | 'N' :: rest => do
    let rest ← afterWord? ['a', 'N'] rest
    some (.double Binary64.nan, rest)
  | _ => unsignedNumber? false text

mutual

/-- The value that a text starts with, and what follows it; `fuel` bounds the depth and the length
of what is read. -/
def value? : Nat → List Char → Option (Json × List Char)
  | 0, _ => none
  | fuel + 1, text =>
    match text with
    | 'n' :: rest => do some (.null, ← afterWord? ['u', 'l', 'l'] rest)
    | 't' :: rest => do some (.bool true, ← afterWord? ['r', 'u', 'e'] rest)
    | 'f' :: rest => do some (.bool false, ← afterWord? ['a', 'l', 's', 'e'] rest)
    | '"' :: rest => do
      let (units, rest) ← textBody? rest
      some (.str units, rest)
    | '[' :: rest =>
      match skipBlanks rest with
      | ']' :: rest => some (.arr [], rest)
      | rest => do
        let (items, rest) ← items? fuel rest
        some (.arr items, rest)
    | '\x7b' :: rest =>
      match skipBlanks rest with
      | '\x7d' :: rest => some (.obj [], rest)
      | rest => do
        let (members, rest) ← members? fuel [] rest
        some (.obj members, rest)
    | _ => do
      let (number, rest) ← number? text
      some (.num number, rest)

/-- One or more items up to the closing bracket. -/
def items? : Nat → List Char → Option (List Json × List Char)
  | 0, _ => none
  | fuel + 1, text => do
    let (item, rest) ← value? fuel text
    match skipBlanks rest with
    | ',' :: rest => do
      let (items, rest) ← items? fuel (skipBlanks rest)
      some (item :: items, rest)
    | ']' :: rest => some ([item], rest)
    | _ => none

/-- One or more members up to the closing brace, after the members already read. -/
def members? : Nat → List (Utf16 × Json) → List Char → Option (List (Utf16 × Json) × List Char)
  | 0, _, _ => none
  | fuel + 1, seen, text =>
    match text with
    | '"' :: rest => do
      let (key, rest) ← textBody? rest
      match skipBlanks rest with
      | ':' :: rest => do
        let (value, rest) ← value? fuel (skipBlanks rest)
        let seen := insert key value seen
        match skipBlanks rest with
        | ',' :: rest => members? fuel seen (skipBlanks rest)
        | '\x7d' :: rest => some (seen, rest)
        | _ => none
      | _ => none
    | _ => none

end

/-- The value of a whole text; nothing but blanks may stand around it. -/
def parse? (text : List Char) : Option Json := do
  let (value, rest) ← value? (2 * text.length + 2) (skipBlanks text)
  if (skipBlanks rest).isEmpty then some value else none

end Json

end DepositGateway
