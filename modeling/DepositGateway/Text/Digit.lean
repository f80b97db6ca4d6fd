/-!
# Digits and blanks of all scripts

* `digitValue?`: the value of a decimal digit of any script.
* `isNumberBlank`: the blanks that may stand around a number.
-/

namespace DepositGateway

/-- The zeros of the decimal scripts; the other nine digits follow each of them. -/
def zeroDigits : List Nat :=
  [0x30, 0x660, 0x6f0, 0x7c0, 0x966, 0x9e6, 0xa66, 0xae6,
   0xb66, 0xbe6, 0xc66, 0xce6, 0xd66, 0xde6, 0xe50, 0xed0,
   0xf20, 0x1040, 0x1090, 0x17e0, 0x1810, 0x1946, 0x19d0, 0x1a80,
   0x1a90, 0x1b50, 0x1bb0, 0x1c40, 0x1c50, 0xa620, 0xa8d0, 0xa900,
   0xa9d0, 0xa9f0, 0xaa50, 0xabf0, 0xff10, 0x104a0, 0x10d30, 0x11066,
   0x110f0, 0x11136, 0x111d0, 0x112f0, 0x11450, 0x114d0, 0x11650, 0x116c0,
   0x11730, 0x118e0, 0x11950, 0x11c50, 0x11d50, 0x11da0, 0x16a60, 0x16ac0,
   0x16b50, 0x1d7ce, 0x1d7d8, 0x1d7e2, 0x1d7ec, 0x1d7f6, 0x1e140, 0x1e2f0,
   0x1e950, 0x1fbf0]

/-- The value of a decimal digit of any script. -/
def digitValue? (c : Char) : Option Nat :=
  let point := c.toNat
  if point < 128 then
    if 48 ≤ point ∧ point ≤ 57 then some (point - 48) else none
  else (zeroDigits.find? fun first => first ≤ point && point < first + 10).map (point - ·)

/-- The blanks outside ASCII: spaces of all widths and the line and paragraph separators. -/
def isWideBlank (c : Char) : Bool :=
  let point := c.toNat
  point == 0x85 || point == 0xa0 || point == 0x1680 || (0x2000 ≤ point && point ≤ 0x200a)
    || point == 0x2028 || point == 0x2029 || point == 0x202f || point == 0x205f
    || point == 0x3000

/-- The blanks that may stand around a number. -/
def isNumberBlank (c : Char) : Bool :=
  c == ' ' || (9 ≤ c.toNat && c.toNat ≤ 13) || isWideBlank c

/-- The blanks that may stand around a word: also the four separators below the space. -/
def isWordBlank (c : Char) : Bool :=
  isNumberBlank c || (0x1c ≤ c.toNat && c.toNat ≤ 0x1f)

end DepositGateway
