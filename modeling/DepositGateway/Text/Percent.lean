import DepositGateway.Bytes.Hex
import DepositGateway.Text.Utf8

/-!
# Percent signs in addresses

In an address a percent sign with two hexadecimal digits stands for a byte, and the bytes are UTF-8.

* `Percent.bytes`: the bytes of a text.
* `Percent.decode`: the characters that they spell.
-/

namespace DepositGateway

namespace Percent

/-- The bytes of a text, each percent sign with two digits read as the byte it stands for. -/
def bytes : List Char → Bytes
  | [] => []
  | '%' :: high :: low :: rest =>
    match hexValue? high, hexValue? low with
    | some high, some low => UInt8.ofNat (high * 16 + low) :: bytes rest
    | _, _ => String.utf8EncodeChar '%' ++ bytes (high :: low :: rest)
  | c :: rest => String.utf8EncodeChar c ++ bytes rest

/-- The characters that a text spells. -/
def decode (text : List Char) : List Char := Utf8.readBroken (bytes text)

end Percent

end DepositGateway
