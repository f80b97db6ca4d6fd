import DepositGateway.Fault
import DepositGateway.Json.Integer

/-!
# Files of variables

A line of such a file is a name, an equals sign and a value, perhaps after the word `export`; a
number sign begins a remark. A value in quotes may span lines and knows escapes; any other ends with
its line. A line that cannot be read is passed over. In every value, a name in braces after a dollar
sign stands for the value of that name.

* `EnvFile.lines`: the lines of a text.
* `EnvFile.expand`: a value with the names in it replaced.
* `EnvFile.extend`: what the lines add to an environment, which always comes first.
-/

namespace DepositGateway

/-- A name with the text of its value; a name may also stand alone. -/
structure EnvLine where
  name : String
  value : Option (List Char)
  deriving DecidableEq

namespace EnvFile

/-! ## Lines -/

/-- The text with every line ended by a line feed alone. -/
def unifyBreaks : List Char → List Char
  | '\r' :: '\n' :: rest => '\n' :: unifyBreaks rest
  | '\r' :: rest => '\n' :: unifyBreaks rest
  | c :: rest => c :: unifyBreaks rest
  | [] => []

/-- A blank that does not end a line. -/
def isInlineBlank (c : Char) : Bool := isWordBlank c && c != '\n' && c != '\r'

/-- The text after the blanks of its line. -/
def skipInline (text : List Char) : List Char := text.dropWhile isInlineBlank

/-- The text after the rest of its line. -/
def skipLine (text : List Char) : List Char := (text.dropWhile (· != '\n')).drop 1

/-- The text after the word `export` and the blanks behind it, where there are any. -/
def skipExport (text : List Char) : List Char :=
  match text with
  | 'e' :: 'x' :: 'p' :: 'o' :: 'r' :: 't' :: c :: rest =>
    if isInlineBlank c then skipInline rest else text
  | _ => text

/-- What may stand in a name without quotes. -/
def isNameChar (c : Char) : Bool := c != '=' && c != '#' && !isWordBlank c

/-- The name that a line begins with, none for a remark, and what follows it. -/
def readName? (text : List Char) : Option (Option String × List Char) :=
  match text with
  | '#' :: _ => some (none, text)
  | '\'' :: rest =>
    let name := rest.takeWhile (· != '\'')
    match name, rest.dropWhile (· != '\'') with
    | _ :: _, _ :: after => some (some (String.ofList name), after)
    | _, _ => none
  | _ =>
    let name := text.takeWhile isNameChar
    if name.isEmpty then none else some (some (String.ofList name), text.dropWhile isNameChar)

/-- The text up to a closing quote, and what follows the quote. A backslash takes the character
behind it along, so no quote closes there. -/
def quoted? (quote : Char) : List Char → Option (List Char × List Char)
  | [] => none
  | '\\' :: c :: rest =>
    (quoted? quote rest).map fun (body, after) => ('\\' :: c :: body, after)
  | c :: rest =>
    if c = quote then some ([], rest)
    else (quoted? quote rest).map fun (body, after) => (c :: body, after)

/-- What a letter after a backslash stands for between double quotes. -/
def escapeOf? (c : Char) : Option Char :=
  match c with
  | '\\' => some '\\'
  | '\'' => some '\''
  | '"' => some '"'
  | 'a' => some '\x07'
  | 'b' => some '\x08'
  | 'f' => some '\x0c'
  | 'n' => some '\n'
  | 'r' => some '\r'
  | 't' => some '\t'
  | 'v' => some '\x0b'
  | _ => none

/-- What a character after a backslash stands for between single quotes. -/
def plainEscapeOf? (c : Char) : Option Char :=
  if c = '\\' ∨ c = '\'' then some c else none

/-- The text with its escapes replaced. -/
def unescape (escape? : Char → Option Char) : List Char → List Char
  | '\\' :: c :: rest =>
    match escape? c with
    | some character => character :: unescape escape? rest
    | none => '\\' :: unescape escape? (c :: rest)
  | c :: rest => c :: unescape escape? rest
  | [] => []

/-- The text up to a number sign that stands behind a blank. -/
def dropRemark (afterBlank : Bool) : List Char → List Char
  | [] => []
  | c :: rest =>
    if c == '#' && afterBlank then [] else c :: dropRemark (isWordBlank c) rest

/-- The value that a text begins with after the blanks behind the equals sign, and what follows it.
After such blanks a number sign begins a remark. -/
def readValue? (text : List Char) : Option (List Char × List Char) :=
  match skipInline text with
  | [] => some ([], [])
  | '\'' :: rest =>
    (quoted? '\'' rest).map fun (body, after) => (unescape plainEscapeOf? body, after)
  | '"' :: rest => (quoted? '"' rest).map fun (body, after) => (unescape escapeOf? body, after)
  | start =>
    let afterBlank := decide (start.length < text.length)
    let plain := dropRemark afterBlank (start.takeWhile (· != '\n'))
    some ((plain.reverse.dropWhile isWordBlank).reverse, start.dropWhile (· != '\n'))

/-- What follows the end of a line, with a remark before it or without. -/
def lineEnd? (text : List Char) : Option (List Char) :=
  match skipInline text with
  | [] => some []
  | '\n' :: rest => some rest
  | '#' :: rest => some (skipLine rest)
  | _ => none

/-- A line that has been read, where the line ends there. -/
def finish (name : Option String) (value : Option (List Char)) (text : List Char) :
    Option EnvLine × List Char :=
  match lineEnd? text with
  | some rest => (name.map (⟨·, value⟩), rest)
  | none => (none, skipLine text)

/-- The next line, if it can be read, and the text after it. -/
def nextLine (text : List Char) : Option EnvLine × List Char :=
  let start := skipExport (text.dropWhile isWordBlank)
  match readName? start with
  | none => (none, skipLine start)
  | some (name, rest) =>
    match skipInline rest with
    | '=' :: rest =>
      match readValue? rest with
      | some (value, rest) => finish name (some value) rest
      | none => (none, skipLine rest)
    | rest => finish name none rest

/-- The lines of a text; each takes at least one character, so there are at most as many. -/
def linesWithin : Nat → List Char → List EnvLine
  | 0, _ => []
  | _ + 1, [] => []
  | bound + 1, text =>
    let (line, rest) := nextLine text
    line.toList ++ linesWithin bound rest

/-- The lines of a text. -/
def lines (text : String) : List EnvLine :=
  let characters := unifyBreaks text.toList
  linesWithin characters.length characters

/-! ## Names in values -/

/-- The name in braces that a text begins with after a dollar sign, what stands for it where it is
unknown, and what follows the brace. -/
def reference? (text : List Char) : Option (String × List Char × List Char) :=
  match text with
  | '\x7b' :: rest =>
    let stop := fun c : Char => c != '\x7d' && c != ':'
    let name := String.ofList (rest.takeWhile stop)
    match rest.dropWhile stop with
    | '\x7d' :: after => some (name, [], after)
    | ':' :: '-' :: default =>
      match default.dropWhile (· != '\x7d') with
      | _ :: after => some (name, default.takeWhile (· != '\x7d'), after)
      | [] => none
    | _ => none
  | _ => none

/-- The value with names replaced by what they stand for; `bound` is at least its length. -/
def expandWithin (valueOf : String → Option (List Char)) : Nat → List Char → List Char
  | 0, _ => []
  | _ + 1, [] => []
  | bound + 1, '$' :: rest =>
    match reference? rest with
    | some (name, default, after) =>
      (valueOf name).getD default ++ expandWithin valueOf bound after
    | none => '$' :: expandWithin valueOf bound rest
  | bound + 1, c :: rest => c :: expandWithin valueOf bound rest

/-- The value with the names in it replaced. -/
def expand (valueOf : String → Option (List Char)) (value : List Char) : List Char :=
  expandWithin valueOf value.length value

/-- What lines before gave to a name: nothing if none names it, and an empty text if it stood
alone. -/
def known? (before : List EnvLine) (name : String) : Option (List Char) :=
  (before.find? fun line => line.name = name).map fun line => line.value.getD []

/-- The lines with the names in their values replaced, the last one first. The environment gives
the value of a name before the lines do. -/
def resolve (environment : String → Option String) : List EnvLine → List EnvLine → List EnvLine
  | before, [] => before
  | before, line :: rest =>
    let valueOf := fun name =>
      match environment name with
      | some value => some value.toList
      | none => known? before name
    resolve environment ({ line with value := line.value.map (expand valueOf) } :: before) rest

/-- The value that lines give to a name, of which the last one that has the name counts; they come
the last one first. -/
def valueIn? (lines : List EnvLine) (name : String) : Option (List Char) :=
  (lines.find? fun line => line.name = name).bind EnvLine.value

/-- Whether an environment can take a variable: the name has no equals sign, and neither name nor
value has a zero character. -/
def isSettable (name : String) (value : List Char) : Bool :=
  !name.toList.contains '=' && !name.toList.contains '\x00' && !value.contains '\x00'

/-- Whether the environment can take all that lines would add to it. -/
def areSettable (environment : String → Option String) (lines : List EnvLine) : Bool :=
  lines.all fun line =>
    match environment line.name, valueIn? lines line.name with
    | none, some value => isSettable line.name value
    | _, _ => true

/-- The environment after a file was read into it, which never changes what was there. -/
def extend (environment : String → Option String) (file : String) :
    Except Fault (String → Option String) :=
  let resolved := resolve environment [] (lines file)
  if areSettable environment resolved then
    .ok fun name =>
      match environment name with
      | some value => some value
      | none => (valueIn? resolved name).map String.ofList
  else .error .badValue

/-- The names in braces in a value. -/
def references : List Char → List String
  | [] => []
  | '$' :: rest =>
    match reference? rest with
    | some (name, _, _) => name :: references rest
    | none => references rest
  | _ :: rest => references rest

/-- The names that a file asks an environment for. -/
def mentioned (file : String) : List String :=
  (lines file).flatMap fun line => line.name :: references (line.value.getD [])

end EnvFile

end DepositGateway
