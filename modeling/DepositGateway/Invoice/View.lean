import DepositGateway.Bytes.Hex
import DepositGateway.Invoice.Basic

/-!
# What is shown of an invoice

* `Invoice.view`: the public fields. The key is not among them.
* `Invoice.viewWithKey`: the same with the key, for the owner.
-/

namespace DepositGateway

namespace Invoice

/-- The fields that anyone may see, in the order they are listed. -/
def publicFields (invoice : Invoice) : List (String × Json) :=
  [("to", .text invoice.address),
   ("amount", .text invoice.amount.text),
   ("token_address", .textOrNull invoice.method.tokenAddress?),
   ("message", .text (Bytes.toHexMarked invoice.message)),
   ("paid_at_timestamp", invoice.paidAt),
   ("expires", invoice.expires),
   ("receipt", invoice.receipt),
   ("hash", invoice.hash)]

/-- The public view. -/
def view (invoice : Invoice) : Json := .object invoice.publicFields

/-- The view for the owner of the key. -/
def viewWithKey (invoice : Invoice) : Json :=
  .object (invoice.publicFields ++ [("wallet", .text invoice.wallet.toHex)])

/-- Either view. -/
def shown (invoice : Invoice) (includeKey : Bool) : Json :=
  if includeKey then invoice.viewWithKey else invoice.view

end Invoice

end DepositGateway
