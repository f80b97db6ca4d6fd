import DepositGateway.Action
import DepositGateway.Address
import DepositGateway.Binary64
import DepositGateway.Bytes.BigEndian
import DepositGateway.Bytes.Hex
import DepositGateway.Curve.Secp256k1
import DepositGateway.Curve.Signature
import DepositGateway.Decimal.Integer
import DepositGateway.Decimal.Shortest
import DepositGateway.Fault
import DepositGateway.Gateway
import DepositGateway.Hash.Keccak
import DepositGateway.Hash.Sha256
import DepositGateway.Http.Api
import DepositGateway.Http.Authority
import DepositGateway.Http.Line
import DepositGateway.Http.NumericAddress
import DepositGateway.Http.Route
import DepositGateway.Http.Target
import DepositGateway.Invoice.Basic
import DepositGateway.Invoice.Copy
import DepositGateway.Invoice.Id
import DepositGateway.Invoice.Record
import DepositGateway.Invoice.View
import DepositGateway.Json.Display
import DepositGateway.Json.Double
import DepositGateway.Json.Integer
import DepositGateway.Json.Parser
import DepositGateway.Json.Printer
import DepositGateway.Json.Sequence
import DepositGateway.Json.Value
import DepositGateway.Ledger.Basic
import DepositGateway.Ledger.Confirmation
import DepositGateway.Ledger.Method
import DepositGateway.Ledger.Node
import DepositGateway.Ledger.NodeValue
import DepositGateway.Ledger.Request
import DepositGateway.Log.Entry
import DepositGateway.Log.Setup
import DepositGateway.Main
import DepositGateway.Notice.Basic
import DepositGateway.Notice.Queue
import DepositGateway.Notice.Webhook
import DepositGateway.Number
import DepositGateway.Poller.Loop
import DepositGateway.Poller.Pass
import DepositGateway.Proofs.Concurrent.Lossless
import DepositGateway.Proofs.Decimal.Shortest
import DepositGateway.Proofs.History.Traced
import DepositGateway.Proofs.Http.Creation
import DepositGateway.Proofs.Http.Lookup
import DepositGateway.Proofs.Http.Order
import DepositGateway.Proofs.Http.ReadBack
import DepositGateway.Proofs.Http.Spelling
import DepositGateway.Proofs.Independence.Pass
import DepositGateway.Proofs.Invoice.Canonical
import DepositGateway.Proofs.Invoice.Extent
import DepositGateway.Proofs.Invoice.Refusal
import DepositGateway.Proofs.Invoice.RoundTrip
import DepositGateway.Proofs.Invoice.Unordered
import DepositGateway.Proofs.Invoice.Written
import DepositGateway.Proofs.Json.Order
import DepositGateway.Proofs.Json.Parsed
import DepositGateway.Proofs.Json.Plain
import DepositGateway.Proofs.Json.Room
import DepositGateway.Proofs.Json.RoundTrip
import DepositGateway.Proofs.Ledger.Depth
import DepositGateway.Proofs.Ledger.Flaws
import DepositGateway.Proofs.Ledger.Replies
import DepositGateway.Proofs.Ledger.Waiting
import DepositGateway.Proofs.Poller.Course
import DepositGateway.Proofs.Poller.Forever
import DepositGateway.Proofs.Poller.Orderly
import DepositGateway.Proofs.Poller.Turns
import DepositGateway.Proofs.Rlp.Canonical
import DepositGateway.Proofs.Rlp.Length
import DepositGateway.Proofs.Rlp.RoundTrip
import DepositGateway.Proofs.Run.Account
import DepositGateway.Proofs.Run.AtMostOnce
import DepositGateway.Proofs.Run.Forgotten
import DepositGateway.Proofs.Run.Log
import DepositGateway.Proofs.Secrecy.Answers
import DepositGateway.Proofs.Secrecy.Observers
import DepositGateway.Proofs.Secrecy.Stores
import DepositGateway.Proofs.Secrecy.Sweep
import DepositGateway.Proofs.Secrecy.TwoWorlds
import DepositGateway.Proofs.Station.Keeping
import DepositGateway.Proofs.Station.Labelled
import DepositGateway.Proofs.Station.Premises
import DepositGateway.Proofs.Store.Agreement
import DepositGateway.Proofs.Store.Appends
import DepositGateway.Proofs.Store.Collects
import DepositGateway.Proofs.Store.Durable
import DepositGateway.Proofs.Store.Listing
import DepositGateway.Proofs.Store.Memory
import DepositGateway.Proofs.Store.Rows
import DepositGateway.Proofs.Store.Unreadable
import DepositGateway.Proofs.Store.Volatile
import DepositGateway.Proofs.Sweep.Amount
import DepositGateway.Proofs.Sweep.Calls
import DepositGateway.Proofs.Sweep.Course
import DepositGateway.Proofs.Sweep.Market
import DepositGateway.Proofs.Sweep.Outcome
import DepositGateway.Proofs.Sweep.Parts
import DepositGateway.Proofs.Sweep.Passage
import DepositGateway.Proofs.Sweep.Quantities
import DepositGateway.Proofs.Sweep.Repeated
import DepositGateway.Proofs.Sweep.Retries
import DepositGateway.Proofs.Sweep.Signed
import DepositGateway.Proofs.Sweep.Treasury
import DepositGateway.Proofs.Sweep.Vacant
import DepositGateway.Proofs.Text.RoundTrip
import DepositGateway.Rlp.Item
import DepositGateway.Rlp.Reader
import DepositGateway.SecretKey
import DepositGateway.Settings.Basic
import DepositGateway.Settings.EnvFile
import DepositGateway.Settings.Environment
import DepositGateway.Settings.Plan
import DepositGateway.Settings.Reading
import DepositGateway.Simulation.Chain
import DepositGateway.Simulation.Deployment
import DepositGateway.Simulation.Launch
import DepositGateway.Simulation.Shelf
import DepositGateway.Simulation.StubNode
import DepositGateway.Simulation.World
import DepositGateway.Store.Basic
import DepositGateway.Store.Choice
import DepositGateway.Store.Key
import DepositGateway.Store.Keyed
import DepositGateway.Store.Location
import DepositGateway.Store.Memory
import DepositGateway.Store.Table
import DepositGateway.Sweep.Engine
import DepositGateway.Sweep.Fees
import DepositGateway.Sweep.Transaction
import DepositGateway.Text.Digit
import DepositGateway.Text.Encoding
import DepositGateway.Text.Lowercase
import DepositGateway.Text.Parts
import DepositGateway.Text.Path
import DepositGateway.Text.Percent
import DepositGateway.Text.Quoted
import DepositGateway.Text.Uppercase
import DepositGateway.Text.Utf16
import DepositGateway.Text.Utf8
import DepositGateway.Text.Visible
import DepositGateway.Proofs.Http.Repetition
