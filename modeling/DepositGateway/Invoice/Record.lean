import DepositGateway.Invoice.Basic
import DepositGateway.Json.Integer
import DepositGateway.Json.Parser
import DepositGateway.Json.Printer
import DepositGateway.Rlp.Reader
import DepositGateway.Text.Utf8

/-!
# Stored records of invoices

A record is a list of ten byte strings: a version, the deposit address, the key, the amount, the
token address, the message, the two times, the receipt as JSON and the hash. A field that is absent
is empty.

* `Invoice.encode` writes the record of an invoice.
* `Invoice.decode` reads a record, or tells by a `RecordFault` why it is none.
-/

namespace DepositGateway

/-- The version of the records that are written and read. -/
def recordVersion : Nat := 1

/-- Why bytes are not a record of an invoice. -/
inductive RecordFault where
  /-- The bytes are no list of ten fields of the right kinds. -/
  | malformed
  /-- A number is given as a list that is not empty. -/
  | listForNumber
  | version (found : Nat)
  | noKeyMaterial
  /-- The receipt is not JSON, or it or the hash is not text. -/
  | corruptReceipt
  | addressLength (length : Nat)
  | amountOutOfRange
  deriving DecidableEq

namespace RecordFault

/-- The text of a refusal. -/
def text : RecordFault → String
  | malformed => "Could not deserialize binary data"
  | listForNumber => ""
  | version found => "Unsupported record version " ++ Decimal.text found
  | noKeyMaterial => "Record carries no key material"
  | corruptReceipt => "Corrupt receipt data"
  | addressLength length => "address field has " ++ Decimal.text length ++ " bytes"
  | amountOutOfRange => Amount.outOfRange

/-- A refused record is a fault of the store, but a list where a number belongs is a value of the
wrong type, and a version of too many digits cannot even be named. -/
def toFault : RecordFault → Fault
  | listForNumber => .badType
  | version found =>
    if Decimal.limit < (Decimal.digits found).length then .badValue
    else .store (.deserialize (version found).text)
  | fault => .store (.deserialize fault.text)

end RecordFault

namespace Invoice

/-! ## Writing -/

/-- What is said of an invoice that has no record. -/
def unserializable : Fault := .store (.serialize "Could not serialize invoice")

/-- The whole seconds of a time; an infinite time has none. -/
def wholeSeconds (time : Json) : Except Fault Int :=
  match time.toInteger with
  | .ok seconds => .ok seconds
  | .error fault => .error (if fault.isValue || fault.isType then unserializable else fault)

/-- The bytes of an address in a record. -/
def addressField (address : String) : Except Fault Bytes :=
  match Address.ofText? address with
  | some bytes => .ok bytes
  | none => .error unserializable

/-- The bytes of a token address in a record, empty for the coin of the chain. -/
def tokenField : PaymentMethod → Except Fault Bytes
  | .native => .ok []
  | .token address => if address.isEmpty then .ok [] else addressField address

/-- The bytes of a receipt in a record, empty where there is none. -/
def receiptField (receipt : Json) : Except Fault Bytes :=
  if receipt = .null then .ok []
  else if receipt.isWritable then
    .ok (receipt.render.map fun c => UInt8.ofNat c.toNat)
  else .error unserializable

/-- The bytes of a hash in a record, empty where there is none; any other value than a text has
none. -/
def hashField (hash : Json) : Except Fault Bytes :=
  if hash.truthy then
    match hash with
    | .str units =>
      match Utf16.toString? units with
      | some text => .ok text.toUTF8.data.toList
      | none => .error unserializable
    | _ => .error .missingAttribute
  else .ok []

/-- The record of an invoice. -/
def encode (invoice : Invoice) : Except Fault Bytes := do
  let address ← addressField invoice.address
  let token ← tokenField invoice.method
  let paidAt ← wholeSeconds invoice.paidAt
  let expires ← wholeSeconds invoice.expires
  let receipt ← receiptField invoice.receipt
  let hash ← hashField invoice.hash
  if paidAt < 0 ∨ expires < 0 then .error unserializable
  else
    let record := Rlp.Item.list
      [.ofNat recordVersion, .bytes address, .bytes invoice.wallet.bytes,
       .ofNat invoice.amount.toNat, .bytes token, .bytes invoice.message,
       .ofNat paidAt.toNat, .ofNat expires.toNat, .bytes receipt, .bytes hash]
    match record.encode? with
    | some bytes => .ok bytes
    | none => .error unserializable

/-! ## Reading -/

/-- A field that holds bytes. -/
def bytesField : Rlp.Item → Except RecordFault Bytes
  | .bytes payload => .ok payload
  | .list _ => .error .malformed

/-- A field that holds a natural in its shortest form; an empty list counts as zero. -/
def natField : Rlp.Item → Except RecordFault Nat
  | .bytes payload => if payload.head? = some 0 then .error .malformed else .ok payload.toNat
  | .list [] => .ok 0
  | .list (_ :: _) => .error .listForNumber

/-- The ten fields of a record. -/
structure Fields where
  version : Nat
  address : Bytes
  wallet : Bytes
  amount : Nat
  token : Bytes
  message : Bytes
  paidAt : Nat
  expires : Nat
  receipt : Bytes
  hash : Bytes

/-- The fields of an item, read from the first to the last. -/
def Fields.ofItem : Rlp.Item → Except RecordFault Fields
  | .list [version, address, wallet, amount, token, message, paidAt, expires, receipt, hash] => do
    return {
      version := ← natField version
      address := ← bytesField address
      wallet := ← bytesField wallet
      amount := ← natField amount
      token := ← bytesField token
      message := ← bytesField message
      paidAt := ← natField paidAt
      expires := ← natField expires
      receipt := ← bytesField receipt
      hash := ← bytesField hash }
  | _ => .error .malformed

/-- The receipt that a field holds. -/
def readReceipt (field : Bytes) : Except RecordFault Json :=
  if field.isEmpty then .ok .null
  else
    match (Utf8.read? field).bind fun text => Json.parse? text.toList with
    | some receipt => .ok receipt
    | none => .error .corruptReceipt

/-- The hash that a field holds. -/
def readHash (field : Bytes) : Except RecordFault Json :=
  if field.isEmpty then .ok .null
  else
    match Utf8.read? field with
    | some text => .ok (.text text)
    | none => .error .corruptReceipt

/-- The checksum form of the address that a field holds. -/
def readAddress (field : Bytes) : Except RecordFault String :=
  if field.length = 20 then .ok (Address.checksum field) else .error (.addressLength field.length)

/-- The payment method that a field holds. -/
def readMethod (field : Bytes) : Except RecordFault PaymentMethod :=
  if field.isEmpty then .ok .native else PaymentMethod.token <$> readAddress field

/-- The invoice of the ten fields. -/
def ofFields (fields : Fields) : Except RecordFault Invoice := do
  if fields.version ≠ recordVersion then .error (.version fields.version)
  else if fields.wallet.isEmpty then .error .noKeyMaterial
  else
    let receipt ← readReceipt fields.receipt
    let hash ← readHash fields.hash
    let method ← readMethod fields.token
    let address ← readAddress fields.address
    match Amount.ofNat? fields.amount with
    | none => .error .amountOutOfRange
    | some amount =>
      .ok { address, wallet := ⟨fields.wallet⟩, amount, method, message := fields.message,
            paidAt := .int fields.paidAt, expires := .int fields.expires, receipt, hash }

/-- The invoice that a record holds. -/
def decode (bytes : Bytes) : Except RecordFault Invoice :=
  match Rlp.decode? bytes with
  | some item => Fields.ofItem item >>= ofFields
  | none => .error .malformed

end Invoice

end DepositGateway
