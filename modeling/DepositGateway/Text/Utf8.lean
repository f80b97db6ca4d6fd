import DepositGateway.Bytes.BigEndian

/-!
# UTF-8

* `Utf8.read?`: the text of bytes that are UTF-8 from end to end.
* `Utf8.readBroken`: the characters of any bytes. One replacement character stands for each stretch
  that is none: the longest beginning of a character that is not continued as it must be, or a
  single byte that begins no character.
-/

namespace DepositGateway

namespace Utf8

/-- The text of bytes that are UTF-8 from end to end. -/
def read? (bytes : Bytes) : Option String := String.fromUTF8? ⟨bytes.toArray⟩

/-- A character that has begun: its bits so far, how many bytes are still to come, and the range
that the next one must lie in. -/
structure Begun where
  bits : Nat
  missing : Nat
  least : Nat := 0x80
  greatest : Nat := 0xbf

/-- What a byte begins: a character of its own or the first part of one. -/
def begin? (byte : Nat) : Option (Char ⊕ Begun) :=
  if byte < 0x80 then some (.inl (Char.ofNat byte))
  else if byte < 0xc2 then none
  else if byte < 0xe0 then some (.inr { bits := byte - 0xc0, missing := 0 })
  else if byte < 0xf0 then
    let bits := byte - 0xe0
    if byte = 0xe0 then some (.inr { bits, missing := 1, least := 0xa0 })
    else if byte = 0xed then some (.inr { bits, missing := 1, greatest := 0x9f })
    else some (.inr { bits, missing := 1 })
  else if byte < 0xf5 then
    let bits := byte - 0xf0
    if byte = 0xf0 then some (.inr { bits, missing := 2, least := 0x90 })
    else if byte = 0xf4 then some (.inr { bits, missing := 2, greatest := 0x8f })
    else some (.inr { bits, missing := 2 })
  else none

/-- The character that stands for what is none. -/
def replacement : Char := '\uFFFD'

/-- What a byte gives at the beginning of a character: characters and what has begun. -/
def start (byte : Nat) : List Char × Option Begun :=
  match begin? byte with
  | some (.inl c) => ([c], none)
  | some (.inr begun) => ([], some begun)
  | none => ([replacement], none)

/-- What a byte gives inside a character. -/
def proceed (begun : Begun) (byte : Nat) : List Char × Option Begun :=
  if begun.least ≤ byte ∧ byte ≤ begun.greatest then
    let bits := begun.bits * 64 + byte % 64
    match begun.missing with
    | 0 => ([Char.ofNat bits], none)
    | missing + 1 => ([], some { bits, missing })
  else
    let (characters, next) := start byte
    (replacement :: characters, next)

/-- The characters of bytes behind what has begun. -/
def readAfter : Option Begun → Bytes → List Char
  | none, [] => []
  | some _, [] => [replacement]
  | none, byte :: rest =>
    let (characters, begun) := start byte.toNat
    characters ++ readAfter begun rest
  | some begun, byte :: rest =>
    let (characters, begun) := proceed begun byte.toNat
    characters ++ readAfter begun rest

/-- The characters of bytes. -/
def readBroken (bytes : Bytes) : List Char := readAfter none bytes

end Utf8

end DepositGateway
