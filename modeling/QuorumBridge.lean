import QuorumBridge.Address
import QuorumBridge.Amount
import QuorumBridge.Bundles
import QuorumBridge.Bytes.Json
import QuorumBridge.Bytes.Octets
import QuorumBridge.Confirmations
import QuorumBridge.Crossing
import QuorumBridge.EnvFile
import QuorumBridge.EnvFile.Line
import QuorumBridge.EnvFile.Value
import QuorumBridge.Environment
import QuorumBridge.Event
import QuorumBridge.Folder
import QuorumBridge.Foreign
import QuorumBridge.Home
import QuorumBridge.Instruction
import QuorumBridge.Instruction.Json
import QuorumBridge.Journal
import QuorumBridge.Json
import QuorumBridge.Json.Overrun
import QuorumBridge.Json.Reader
import QuorumBridge.Json.Shape
import QuorumBridge.Json.Token
import QuorumBridge.Keccak
import QuorumBridge.Ledger
import QuorumBridge.Ledger.Call
import QuorumBridge.Locking
import QuorumBridge.Metrics
import QuorumBridge.Refusal
import QuorumBridge.Registry
import QuorumBridge.ReplayGuard
import QuorumBridge.Report
import QuorumBridge.Secp256k1
import QuorumBridge.Settings
import QuorumBridge.Settings.AuthorityList
import QuorumBridge.Settings.Json
import QuorumBridge.Settings.Source
import QuorumBridge.Settlement
import QuorumBridge.Signature
import QuorumBridge.Signature.Recovery
import QuorumBridge.SignerSet
import QuorumBridge.Sink
import QuorumBridge.Table
import QuorumBridge.Text.Alphanumeric
import QuorumBridge.Text.Blank
import QuorumBridge.Text.CharLiteral
import QuorumBridge.Text.Decimal
import QuorumBridge.Text.Hex
import QuorumBridge.Text.Pieces
import QuorumBridge.Withdrawal
import QuorumBridge.Proofs.Positions
import QuorumBridge.Proofs.Turnout
import QuorumBridge.Proofs.Ledger
import QuorumBridge.Proofs.Settlement
import QuorumBridge.Proofs.Confirmations.Step
import QuorumBridge.Proofs.Confirmations.Payment
import QuorumBridge.Proofs.Confirmations.Record
import QuorumBridge.Proofs.Confirmations.Swap
import QuorumBridge.Proofs.Verification
import QuorumBridge.Proofs.Verification.Fault
import QuorumBridge.Proofs.Bundles.Step
import QuorumBridge.Proofs.Bundles.Relay
import QuorumBridge.Proofs.Bundles.Record
import QuorumBridge.Proofs.Stages
import QuorumBridge.Proofs.Crossing.Effect
import QuorumBridge.Proofs.Crossing.History
import QuorumBridge.Proofs.Crossing.Payments
import QuorumBridge.Proofs.Crossing.Publication
import QuorumBridge.Proofs.Withdrawal
import QuorumBridge.Proofs.Crossing.Conservation
import QuorumBridge.Proofs.Crossing.Grammar
import QuorumBridge.Proofs.Confirmations.Poll
import QuorumBridge.Proofs.Bundles.Gathering
import QuorumBridge.Proofs.Crossing.Naming
import QuorumBridge.Proofs.Crossing.Separation
import QuorumBridge.Proofs.Confirmations.Isolation
import QuorumBridge.Proofs.Bundles.Independence
import QuorumBridge.Proofs.Completion
import QuorumBridge.Proofs.Crossing.Finality
import QuorumBridge.Proofs.Crossing.Retry
import QuorumBridge.Proofs.Release
import QuorumBridge.Proofs.Verification.Quorum
import QuorumBridge.Proofs.Fee
import QuorumBridge.Proofs.Crossing.Counters
import QuorumBridge.Proofs.BigEndian
import QuorumBridge.Proofs.Codec
import QuorumBridge.Proofs.Crossing.Requests
import QuorumBridge.Proofs.Malleability
import QuorumBridge.Proofs.Text.Decimal
import QuorumBridge.Proofs.Text.Hex
import QuorumBridge.Proofs.Settings.AuthorityList
import QuorumBridge.Proofs.Settings.Source
import QuorumBridge.Proofs.EnvFile
import QuorumBridge.Proofs.Settings.Precedence
import QuorumBridge.Proofs.Settings.Agreement
import QuorumBridge.Proofs.Registry
import QuorumBridge.Proofs.Json.Token
import QuorumBridge.Proofs.Json.Reader
import QuorumBridge.Proofs.Json.Fields
import QuorumBridge.Proofs.Json.Texts
import QuorumBridge.Proofs.Json.Values
import QuorumBridge.Proofs.Signature
import QuorumBridge.Proofs.Instruction
import QuorumBridge.Proofs.SignerSet
import QuorumBridge.Proofs.Registry.Roll
import QuorumBridge.Proofs.Event
