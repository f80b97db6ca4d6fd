import DepositGateway.Settings.Reading
import DepositGateway.Sweep.Engine
import DepositGateway.Text.Uppercase

/-!
# Settings of a gateway

Everything that is chosen before a gateway is put to work. Each setting has a variable name, under
which the environment holds it, and a field name; where both are present the variable counts.

* `GatewaySettings.ofJson`: the settings of an object, or all that is wrong with them in the order
  of the settings.
* `GatewaySettings.toJson`: the settings by their field names.
-/

namespace DepositGateway

/-- The settings. -/
structure GatewaySettings where
  /-- Where the node is reached. -/
  rpcUrl : String
  treasury : String
  name : String
  /-- Where invoices are kept; memory where it is absent. -/
  databaseUrl : Option String
  kind : TransactionKind
  minConfirmations : Int
  confirmationTimeout : Number
  invoiceDelay : Number
  pollerDelay : Number
  feeRetries : Int
  feeRetryDelay : Number
  gasLimit : Option Int
  rpcTimeout : Int
  webhookUrl : Option String
  webhookIncludesKey : Bool
  logLevel : String
  auditLog : Option String
  port : Int

namespace Reading

/-- An address, which is taken into checksum form. -/
def address (rule : Address.CaseRule) : Reading String := fun value => do
  let address ← text value
  match Address.accepted? rule address with
  | some address => .ok address
  | none => .error .notAddress

/-- The name of a kind of transaction in letters of either case, with blanks around it. -/
def kind : Reading TransactionKind
  | .str units =>
    let name := (trimBlanks isWordBlank (Utf16.toText units).toList).map Char.toLower
    match TransactionKind.ofName? (String.ofList name) with
    | some kind => .ok kind
    | none => .error .notChoice
  | _ => .error .notChoice

/-- The name of a level in capitals, without the blanks around it. -/
def level : Reading String := fun value => do
  return upperCase (String.ofList (trimBlanks isWordBlank (← text value).toList))

end Reading

namespace GatewaySettings

/-- The variable of every setting in order, each with the field it fills. -/
def names : List (String × String) :=
  [("RPC_URL", "rpc_url"), ("TREASURY_ADDRESS", "treasury_address"), ("GATEWAY_NAME", "name"),
   ("DATABASE_URL", "database_url"), ("TRANSACTION_TYPE", "transaction_type"),
   ("MIN_CONFIRMATIONS", "min_confirmations"), ("CONFIRMATION_TIMEOUT", "confirmation_timeout"),
   ("INVOICE_DELAY_SECONDS", "invoice_delay_seconds"),
   ("POLLER_DELAY_SECONDS", "poller_delay_seconds"), ("EIP1559_RETRY_MAX", "fee_retry_max"),
   ("EIP1559_RETRY_DELAY_SECONDS", "fee_retry_delay_seconds"),
   ("TRANSFER_GAS_LIMIT", "transfer_gas_limit"), ("RPC_TIMEOUT", "rpc_timeout"),
   ("WEBHOOK_URL", "webhook_url"), ("WEBHOOK_INCLUDE_WALLET", "webhook_include_wallet"),
   ("LOG_LEVEL", "log_level"), ("AUDIT_LOG_PATH", "audit_log_path"), ("PORT", "port")]

/-- The variables in order. -/
def variableNames : List String := names.map Prod.fst

/-- The value given for a setting, under its variable or else under its field name. -/
def given? (data : Json) (variableName : String) : Option Json :=
  match data.member? variableName with
  | some value => some value
  | none => (names.lookup variableName).bind fun field => data.member? field

/-- Reads a setting that must be given. -/
def required {α : Type} (data : Json) (variableName : String) (reading : Reading α) : Checked α :=
  match given? data variableName with
  | none => .faulty [(variableName, .missing)]
  | some value =>
    match reading value with
    | .ok answer => .good answer
    | .error fault => .faulty [(variableName, fault)]

/-- Reads a setting that has a value of its own where none is given. -/
def withDefault {α : Type} (data : Json) (variableName : String) (reading : Reading α)
    (default : α) : Checked α :=
  if (given? data variableName).isSome then required data variableName reading else .good default

/-- The settings of an object. -/
def ofMembers (rule : Address.CaseRule) (data : Json) : Checked GatewaySettings :=
  GatewaySettings.mk
    <$> required data "RPC_URL" Reading.text
    <*> required data "TREASURY_ADDRESS" (Reading.address rule)
    <*> withDefault data "GATEWAY_NAME" Reading.text "evmpay"
    <*> withDefault data "DATABASE_URL" (Reading.optional Reading.text) none
    <*> withDefault data "TRANSACTION_TYPE" Reading.kind .legacy
    <*> withDefault data "MIN_CONFIRMATIONS" (Reading.wholeFrom 1) 1
    <*> withDefault data "CONFIRMATION_TIMEOUT" Reading.positiveReal 300
    <*> withDefault data "INVOICE_DELAY_SECONDS" Reading.realFromZero 1
    <*> withDefault data "POLLER_DELAY_SECONDS" Reading.realFromZero 10
    <*> withDefault data "EIP1559_RETRY_MAX" (Reading.wholeFrom 0) 3
    <*> withDefault data "EIP1559_RETRY_DELAY_SECONDS" Reading.realFromZero 2
    <*> withDefault data "TRANSFER_GAS_LIMIT" (Reading.optional Reading.positiveWhole) none
    <*> withDefault data "RPC_TIMEOUT" Reading.positiveWhole 60
    <*> withDefault data "WEBHOOK_URL" (Reading.optional Reading.text) none
    <*> withDefault data "WEBHOOK_INCLUDE_WALLET" Reading.flag false
    <*> withDefault data "LOG_LEVEL" Reading.level "INFO"
    <*> withDefault data "AUDIT_LOG_PATH" (Reading.optional Reading.text) none
    <*> withDefault data "PORT" Reading.whole 5000

/-- The settings of a value, which must be an object. -/
def ofJson (data : Json) (rule : Address.CaseRule := .lenient) : Checked GatewaySettings :=
  match data with
  | .obj _ => ofMembers rule data
  | _ => .faulty [("", .notObject)]

/-- The settings by their field names. -/
def toJson (settings : GatewaySettings) : Json :=
  .object [("rpc_url", .text settings.rpcUrl),
    ("treasury_address", .text settings.treasury),
    ("name", .text settings.name),
    ("database_url", .textOrNull settings.databaseUrl),
    ("transaction_type", .text settings.kind.name),
    ("min_confirmations", .int settings.minConfirmations),
    ("confirmation_timeout", .num settings.confirmationTimeout),
    ("invoice_delay_seconds", .num settings.invoiceDelay),
    ("poller_delay_seconds", .num settings.pollerDelay),
    ("fee_retry_max", .int settings.feeRetries),
    ("fee_retry_delay_seconds", .num settings.feeRetryDelay),
    ("transfer_gas_limit", match settings.gasLimit with
      | some limit => .int limit
      | none => .null),
    ("rpc_timeout", .int settings.rpcTimeout),
    ("webhook_url", .textOrNull settings.webhookUrl),
    ("webhook_include_wallet", .bool settings.webhookIncludesKey),
    ("log_level", .text settings.logLevel),
    ("audit_log_path", .textOrNull settings.auditLog),
    ("port", .int settings.port)]

end GatewaySettings

end DepositGateway
