import DepositGateway.Bytes.Hex
import DepositGateway.Hash.Sha256
import DepositGateway.Json.Integer

/-!
# Invoice ids

An id is the SHA-256 digest of the deposit address followed by the moment of creation in whole
milliseconds, as hexadecimal text.
-/

namespace DepositGateway

/-- The moment in whole milliseconds, cut off towards zero. -/
def wholeMillis (seconds : Number) : Except Fault Int := seconds.thousandfold.toInteger

/-- The id for the text of an address and a moment. -/
def idOfText (text : String) : String := Bytes.toHex (sha256 text.toUTF8.data.toList)

/-- The id of the invoice for an address created at a moment. -/
def invoiceId (address : String) (millis : Int) : String :=
  idOfText (address ++ Decimal.textInt millis)

end DepositGateway
