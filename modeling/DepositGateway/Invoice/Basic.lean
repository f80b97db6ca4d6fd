import DepositGateway.Fault
import DepositGateway.Json.Display
import DepositGateway.SecretKey

/-!
# Invoices

An invoice asks for an amount to be paid to a deposit address of its own, whose key it carries.

* `Amount` holds the range of amounts in its type; `Amount.ofInt?` checks it.
* `PaymentMethod.ofToken` takes the address of a token into checksum form.
* `Invoice.isPending`, `Invoice.isExpired`: where an invoice stands in its life.
-/

namespace DepositGateway

/-- What all amounts are below: the count of the values that 256 bits have. -/
def Amount.bound : Nat := Nat.pow 2 256

/-- An amount in the smallest unit of its payment method. -/
structure Amount where
  toNat : Nat
  isLt : toNat < Amount.bound
  deriving DecidableEq

namespace Amount

/-- Numerals are amounts, wrapped at the bound. -/
instance (value : Nat) : OfNat Amount value := ⟨⟨value % bound, Nat.mod_lt value (by decide)⟩⟩

/-- The amount of a natural below the bound. -/
def ofNat? (value : Nat) : Option Amount :=
  if h : value < bound then some ⟨value, h⟩ else none

/-- The amount of an integer from zero to below the bound. -/
def ofInt? (value : Int) : Option Amount :=
  if value < 0 then none else ofNat? value.toNat

/-- What is wrong with any other number. -/
def outOfRange : String := "amount must fit in uint256"

/-- The amount of an integer, or what is wrong with it. -/
def ofInt (value : Int) : Except Fault Amount :=
  match ofInt? value with
  | some amount => .ok amount
  | none => .error (.invalid outOfRange)

/-- The decimal text of an amount. -/
def text (amount : Amount) : String := Decimal.text amount.toNat

/-- Every number of the range has its amount. -/
theorem ofNat?_of_lt {value : Nat} (h : value < bound) : ofNat? value = some ⟨value, h⟩ := by
  rw [ofNat?, dif_pos h]

end Amount

/-- What an invoice is paid in: the coin of the chain, or a token by the address of its contract. -/
inductive PaymentMethod where
  | native
  | token (address : String)
  deriving DecidableEq

namespace PaymentMethod

/-- Whether the method is the coin of the chain. -/
def isNative : PaymentMethod → Bool
  | native => true
  | token _ => false

/-- The address of the token. -/
def tokenAddress? : PaymentMethod → Option String
  | native => none
  | token address => some address

/-- The method of a token, with its address in checksum form. -/
def ofToken (rule : Address.CaseRule) (address : String) : Except Fault PaymentMethod :=
  match Address.accepted? rule address with
  | some text => .ok (.token text)
  | none => .error (.invalid ("invalid token address: " ++ address))

/-- The method of a token that a value names; what is no text is no address. -/
def ofJson (value : Json) (rule : Address.CaseRule := .lenient) : Except Fault PaymentMethod :=
  match value with
  | .str units => ofToken rule (Utf16.toText units)
  | value => .error (.invalid ("invalid token address: " ++ value.display))

end PaymentMethod

/-- A request for payment. -/
structure Invoice where
  /-- The deposit address. -/
  address : String
  /-- The only key to the funds of the deposit address. -/
  wallet : SecretKey
  amount : Amount
  method : PaymentMethod := .native
  /-- Handed back unchanged when the invoice is settled. -/
  message : Bytes := []
  /-- When the payment was seen; zero before. -/
  paidAt : Json := .int 0
  /-- The last moment at which an unpaid invoice is still watched. -/
  expires : Json := .int 0
  /-- The receipt of the sweep; null where there is none. -/
  receipt : Json := .null
  /-- The hash of the sweep; null where there is none. -/
  hash : Json := .null
  deriving DecidableEq

namespace Invoice

/-- No payment was seen yet. -/
def isPending (invoice : Invoice) : Bool := invoice.paidAt.equalsInt 0

/-- Unpaid and past its last moment. That of an unpaid invoice must be a number. -/
def isExpired (invoice : Invoice) (now : Number) : Except Fault Bool :=
  if invoice.isPending then
    match invoice.expires.asNumber? with
    | some expires => .ok (expires.lt now)
    | none => .error .badType
  else .ok false

/-- An unpaid invoice is expired as soon as the moment is past. -/
theorem isExpired_of_isPending {invoice : Invoice} {expires now : Int}
    (pending : invoice.isPending = true) (h : invoice.expires = .int expires) :
    invoice.isExpired (.int now) = .ok (decide (expires < now)) := by
  simp [isExpired, pending, h, Json.asNumber?]

/-- Whether the invoice carries the receipt of a sweep. -/
def hasReceipt (invoice : Invoice) : Bool := decide (invoice.receipt ≠ .null)

/-- The invoice with its key wiped. -/
def wiped (invoice : Invoice) : Invoice := { invoice with wallet := invoice.wallet.wipe }

end Invoice

end DepositGateway
