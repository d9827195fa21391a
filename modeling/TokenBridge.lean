import TokenBridge.Balance
import TokenBridge.Balance.Json
import TokenBridge.Bridge
import TokenBridge.Bridge.Cache
import TokenBridge.Bytes
import TokenBridge.Chain
import TokenBridge.Contract.Call
import TokenBridge.Contract.Encoding
import TokenBridge.Contract.Json
import TokenBridge.Contract.Output
import TokenBridge.Contract.Value
import TokenBridge.Crypto.Keccak
import TokenBridge.Crypto.Secp256k1
import TokenBridge.Crypto.Sha256
import TokenBridge.Environment
import TokenBridge.Error
import TokenBridge.Http
import TokenBridge.Json.Basic
import TokenBridge.Json.Literal
import TokenBridge.Json.Member
import TokenBridge.Json.Parser
import TokenBridge.Json.Printer
import TokenBridge.Json.Reader
import TokenBridge.Key
import TokenBridge.Number.Binary64
import TokenBridge.Number.Binary64.Read
import TokenBridge.Number.Binary64.Shortest
import TokenBridge.Number.Power
import TokenBridge.Number.Span
import TokenBridge.Number.Unsigned
import TokenBridge.Payment
import TokenBridge.Payment.Json
import TokenBridge.Payment.Service
import TokenBridge.Program
import TokenBridge.Proofs.Bridge.Cache
import TokenBridge.Proofs.Bridge.Course
import TokenBridge.Proofs.Chain
import TokenBridge.Proofs.Contract.Value
import TokenBridge.Proofs.Loss
import TokenBridge.Proofs.Program
import TokenBridge.Proofs.Program.Answered
import TokenBridge.Proofs.Program.Spawned
import TokenBridge.Proofs.Relay.Changes
import TokenBridge.Proofs.Relay.Polling
import TokenBridge.Proofs.Route
import TokenBridge.Proofs.Router.AutoBridge
import TokenBridge.Proofs.Router.Finding
import TokenBridge.Proofs.Router.Order
import TokenBridge.Proofs.Router.Origin
import TokenBridge.Proofs.Router.Refusal
import TokenBridge.Proofs.Router.Routes
import TokenBridge.Proofs.Router.Source
import TokenBridge.Proofs.Router.Survey
import TokenBridge.Proofs.Router.Work
import TokenBridge.Proofs.Slippage
import TokenBridge.Proofs.Text.Hex
import TokenBridge.Proofs.Text.LowerCase
import TokenBridge.Proofs.Transfer
import TokenBridge.Proofs.Wallet
import TokenBridge.Proofs.Word.Address
import TokenBridge.Redacted
import TokenBridge.Relay.Message
import TokenBridge.Relay.Scan
import TokenBridge.Relay.Status
import TokenBridge.Relay.Tracker
import TokenBridge.Rlp
import TokenBridge.Route
import TokenBridge.Route.Json
import TokenBridge.Router
import TokenBridge.Router.Json
import TokenBridge.Rpc
import TokenBridge.Rpc.Account
import TokenBridge.Rpc.Confirmation
import TokenBridge.Rpc.Transaction
import TokenBridge.Rpc.Wallet
import TokenBridge.Scripted.Index
import TokenBridge.Scripted.Index.Json
import TokenBridge.Scripted.Server
import TokenBridge.Scripted.Server.Json
import TokenBridge.Scripted.Signer
import TokenBridge.Scripted.Signer.Json
import TokenBridge.Scripted.Wallet
import TokenBridge.Scripted.Wallet.Json
import TokenBridge.Settings
import TokenBridge.Settings.Environment
import TokenBridge.Settings.Json
import TokenBridge.Signer
import TokenBridge.Signer.Json
import TokenBridge.Slippage
import TokenBridge.Text.Ascii
import TokenBridge.Text.Blank
import TokenBridge.Text.Body
import TokenBridge.Text.Hex
import TokenBridge.Text.LowerCase
import TokenBridge.Text.LowerCase.Table
import TokenBridge.Text.Quoted
import TokenBridge.Text.Quoted.Table
import TokenBridge.Text.Utf8
import TokenBridge.Transfer
import TokenBridge.Transfer.Json
import TokenBridge.Url
import TokenBridge.Url.Domain
import TokenBridge.Url.Endpoint
import TokenBridge.Url.Host
import TokenBridge.Url.Percent
import TokenBridge.Url.Punycode
import TokenBridge.Wallet
import TokenBridge.Wallet.Config
import TokenBridge.Word
import TokenBridge.Word.Json
import TokenBridge.Proofs.Relay.Course
import TokenBridge.Proofs.Relay.Deadline
import TokenBridge.Proofs.Relay.Cancellation
import TokenBridge.Proofs.Agreement
import TokenBridge.Proofs.Bridge.Announcement
import TokenBridge.Proofs.Program.Alike
import TokenBridge.Proofs.Balance
import TokenBridge.Proofs.Bridge.Calls
import TokenBridge.Proofs.Relay.Response
import TokenBridge.Proofs.Relay.Status
import TokenBridge.Proofs.Relay.Message
import TokenBridge.Proofs.Contract.Decoding
import TokenBridge.Proofs.Contract.Calldata
import TokenBridge.Proofs.Relay.Identity
import TokenBridge.Proofs.Router.Percentage
import TokenBridge.Proofs.Program.Matched
import TokenBridge.Proofs.Spelling
import TokenBridge.Proofs.Router.Spelling
import TokenBridge.Proofs.Wallet.Config
import TokenBridge.Proofs.Rpc.Wallet
import TokenBridge.Proofs.Json.Parser
import TokenBridge.Proofs.Word.Json
import TokenBridge.Proofs.Records
import TokenBridge.Proofs.Router.Selection
import TokenBridge.Proofs.Contract.Form
import TokenBridge.Proofs.Bridge.Success
import TokenBridge.Proofs.Json.Number
import TokenBridge.Proofs.Relay.Field
import TokenBridge.Proofs.Relay.Endpoint
import TokenBridge.Proofs.Text.Utf8
import TokenBridge.Proofs.Relay.Envelope
import TokenBridge.Proofs.Bytes
import TokenBridge.Proofs.Contract.Output
import TokenBridge.Proofs.Routability
import TokenBridge.Proofs.Rpc.Confirmation
import TokenBridge.Proofs.Number.Numeral
import TokenBridge.Proofs.Text.Blank
import TokenBridge.Proofs.Wallet.Acceptance
import TokenBridge.Proofs.Wallet.Environment
import TokenBridge.Proofs.Router.Recipient
import TokenBridge.Proofs.Balance.Summary
import TokenBridge.Proofs.Contract.Options
