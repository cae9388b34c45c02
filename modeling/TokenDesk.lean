import TokenDesk.Assistant.Advisor
import TokenDesk.Assistant.Analyzer
import TokenDesk.Assistant.Document
import TokenDesk.Assistant.Editing
import TokenDesk.Assistant.NatSpec
import TokenDesk.Assistant.Snippet
import TokenDesk.Chain.Address
import TokenDesk.Chain.Amount
import TokenDesk.Chain.Client
import TokenDesk.Chain.Dialogue
import TokenDesk.Chain.Node
import TokenDesk.Chain.Receipt
import TokenDesk.Chain.Reply
import TokenDesk.Chain.Rlp
import TokenDesk.Chain.Signer
import TokenDesk.Chain.Token
import TokenDesk.Chain.Transaction
import TokenDesk.Chain.Wire
import TokenDesk.Command.Assist
import TokenDesk.Command.Host
import TokenDesk.Command.Options
import TokenDesk.Command.Pipeline
import TokenDesk.Command.Program
import TokenDesk.Contract.Data
import TokenDesk.Contract.Interface
import TokenDesk.Contract.TypeText
import TokenDesk.Contract.ValueType
import TokenDesk.Curve.Secp256k1
import TokenDesk.Files.Environment
import TokenDesk.Files.Glob
import TokenDesk.Files.Path
import TokenDesk.Files.Pattern
import TokenDesk.Files.Tree
import TokenDesk.Files.Writing
import TokenDesk.Hash.Keccak
import TokenDesk.Hash.Sha256
import TokenDesk.Json.Basic
import TokenDesk.Json.Document
import TokenDesk.Json.Double
import TokenDesk.Json.Printer
import TokenDesk.Json.Reader
import TokenDesk.Ledger.Log
import TokenDesk.Ledger.Workspace
import TokenDesk.Main
import TokenDesk.Network.Category
import TokenDesk.Network.Domain
import TokenDesk.Network.Endpoint
import TokenDesk.Network.Host
import TokenDesk.Network.Url
import TokenDesk.Proofs.Assistant.Sources
import TokenDesk.Proofs.Command.Sparing
import TokenDesk.Proofs.Files.Glob
import TokenDesk.Proofs.Files.Path
import TokenDesk.Proofs.Files.Pattern
import TokenDesk.Proofs.Files.Tree
import TokenDesk.Proofs.Files.Writing
import TokenDesk.Proofs.Json.Finite
import TokenDesk.Proofs.Json.Order
import TokenDesk.Proofs.Json.ReadBack
import TokenDesk.Proofs.Json.Rounding
import TokenDesk.Proofs.Json.Scan
import TokenDesk.Proofs.Json.Shortest
import TokenDesk.Proofs.Json.Typed
import TokenDesk.Proofs.Ledger.Log
import TokenDesk.Proofs.Ledger.Reload
import TokenDesk.Proofs.Ledger.Workspace
import TokenDesk.Proofs.Record.ReadBack
import TokenDesk.Proofs.Record.Written
import TokenDesk.Proofs.Run.Course
import TokenDesk.Proofs.Run.Effect
import TokenDesk.Proofs.Run.Jobs
import TokenDesk.Proofs.Run.Entry
import TokenDesk.Proofs.Run.Journal
import TokenDesk.Proofs.Run.Logs
import TokenDesk.Proofs.Run.Quiet
import TokenDesk.Proofs.Run.Reload
import TokenDesk.Proofs.Run.Script
import TokenDesk.Proofs.Text.Written
import TokenDesk.Proofs.Time.Instant
import TokenDesk.Record.Abi
import TokenDesk.Record.Artifact
import TokenDesk.Record.Deployment
import TokenDesk.Record.Report
import TokenDesk.Run.Deploy
import TokenDesk.Run.Effect
import TokenDesk.Run.Ending
import TokenDesk.Run.Failure
import TokenDesk.Run.Interact
import TokenDesk.Run.Summarize
import TokenDesk.Summary.Csv
import TokenDesk.Summary.Row
import TokenDesk.Text.AlphanumericTable
import TokenDesk.Text.BigEndian
import TokenDesk.Text.Blank
import TokenDesk.Text.ComposingTable
import TokenDesk.Text.Composition
import TokenDesk.Text.Decimal
import TokenDesk.Text.DirectionTable
import TokenDesk.Text.ExtenderTable
import TokenDesk.Text.FoldingTable
import TokenDesk.Text.Hex
import TokenDesk.Text.HiddenTable
import TokenDesk.Text.JoiningTable
import TokenDesk.Text.Lines
import TokenDesk.Text.Power
import TokenDesk.Text.Punycode
import TokenDesk.Text.Quoted
import TokenDesk.Text.SpacingTable
import TokenDesk.Text.Utf8
import TokenDesk.Text.Word
import TokenDesk.Text.WordTable
import TokenDesk.Time.Date
import TokenDesk.Time.Instant
import TokenDesk.Proofs.Json.Compact
import TokenDesk.Proofs.Summary.Lines
import TokenDesk.Proofs.Summary.ReadBack
import TokenDesk.Proofs.Json.Lookup
import TokenDesk.Proofs.Chain.Amount
import TokenDesk.Proofs.Summary.Reported
import TokenDesk.Proofs.Assistant.Editing
import TokenDesk.Proofs.Chain.Accepted
import TokenDesk.Proofs.Assistant.Comments
import TokenDesk.Proofs.Assistant.Signatures
import TokenDesk.Proofs.Time.Calendar
import TokenDesk.Proofs.Time.Offset
import TokenDesk.Proofs.Chain.Dialogue
import TokenDesk.Proofs.Chain.Narrowed
import TokenDesk.Proofs.Files.Order
import TokenDesk.Proofs.Files.Listing
import TokenDesk.Proofs.Files.Plain
import TokenDesk.Proofs.Assistant.Listing
import TokenDesk.Proofs.Json.Orderless
import TokenDesk.Proofs.Record.Reported
import TokenDesk.Proofs.Record.Retyped
import TokenDesk.Proofs.Text.Runs
import TokenDesk.Proofs.Text.Expression
import TokenDesk.Proofs.Assistant.Scan
import TokenDesk.Proofs.Assistant.Matches
import TokenDesk.Proofs.Assistant.Insertion
import TokenDesk.Proofs.Assistant.Blocks
import TokenDesk.Proofs.Assistant.Documented
import TokenDesk.Proofs.Text.Order
import TokenDesk.Proofs.Files.Making
import TokenDesk.Proofs.Ledger.Networks
import TokenDesk.Proofs.Run.Calls
import TokenDesk.Proofs.Assistant.Weaving
import TokenDesk.Proofs.Text.Lines
import TokenDesk.Proofs.Assistant.Chat
import TokenDesk.Proofs.Text.Hex
import TokenDesk.Proofs.Chain.Address
import TokenDesk.Proofs.Assistant.Containment
import TokenDesk.Proofs.Files.Replacing
