import ToolGate.Account
import ToolGate.Action
import ToolGate.Approval.Command
import ToolGate.Approval.Fingerprint
import ToolGate.Approval.Ledger
import ToolGate.Approval.Table
import ToolGate.Authoring.Compile
import ToolGate.Authoring.Files
import ToolGate.Authoring.PlainRules
import ToolGate.Decimal.Binary64
import ToolGate.Decimal.Shortest
import ToolGate.Engine.Basic
import ToolGate.Engine.Journal
import ToolGate.Engine.Ruling
import ToolGate.Environment
import ToolGate.Glob.Basic
import ToolGate.Glob.Reader
import ToolGate.Host.CommandLine
import ToolGate.Host.Console
import ToolGate.Host.Event
import ToolGate.Host.Response
import ToolGate.Host.Session
import ToolGate.Json.Basic
import ToolGate.Json.Decoder
import ToolGate.Json.Error
import ToolGate.Json.Printer
import ToolGate.Json.Reader
import ToolGate.Json.Scan
import ToolGate.Json.Tagged
import ToolGate.Main
import ToolGate.Pattern.Basic
import ToolGate.Pattern.Meaning
import ToolGate.Pattern.Property
import ToolGate.Pattern.Reader
import ToolGate.Pattern.Size
import ToolGate.Pattern.Syntax
import ToolGate.Proofs.Approval.Coherence
import ToolGate.Proofs.Approval.Table
import ToolGate.Proofs.Decimal.Rounding
import ToolGate.Protection
import ToolGate.Regular.Expr
import ToolGate.Regular.Search
import ToolGate.RequestId
import ToolGate.Rule.Basic
import ToolGate.Rule.Cache
import ToolGate.Rule.Match
import ToolGate.Settings.Basic
import ToolGate.Settings.Overlay
import ToolGate.Settings.Places
import ToolGate.Storage.Basic
import ToolGate.Storage.FileTree
import ToolGate.Text.Blank
import ToolGate.Text.Quoted
import ToolGate.Text.Template
import ToolGate.Timestamp
import ToolGate.Toml.Basic
import ToolGate.Toml.Decoder
import ToolGate.Toml.Reader
import ToolGate.Toml.Scan
import ToolGate.ToolCall
import ToolGate.Unicode.Age
import ToolGate.Unicode.Boundary
import ToolGate.Unicode.CaseFold
import ToolGate.Unicode.Category
import ToolGate.Unicode.Class
import ToolGate.Unicode.CodeSet
import ToolGate.Unicode.Property
import ToolGate.Unicode.Script
import ToolGate.Unicode.ScriptExtension
import ToolGate.Proofs.Decimal.Numeral
import ToolGate.Proofs.Json.Readability
import ToolGate.Proofs.Json.Brackets
import ToolGate.Proofs.Approval.Fingerprint
import ToolGate.Proofs.Engine.Run
import ToolGate.Proofs.Engine.History
import ToolGate.Proofs.Engine.Mediation
import ToolGate.Proofs.Approval.Command
import ToolGate.Proofs.Engine.RoundTrip
import ToolGate.Proofs.Json.Reading
import ToolGate.Proofs.Host.Event
import ToolGate.Proofs.Engine.Surplus
import ToolGate.Proofs.Engine.Expiry
import ToolGate.Proofs.Rule.Cache
import ToolGate.Proofs.Engine.RulesFile
import ToolGate.Proofs.Regular.Search
import ToolGate.Proofs.Glob.Escape
import ToolGate.Proofs.Settings.OwnFiles
import ToolGate.Proofs.Json.Decoding
import ToolGate.Proofs.Rule.Document
import ToolGate.Proofs.Authoring.RuleFiles
import ToolGate.Proofs.Approval.Run
import ToolGate.Proofs.Approval.Isolation
import ToolGate.Proofs.Engine.Lifecycle
import ToolGate.Proofs.Engine.Tightening
import ToolGate.Proofs.Approval.Conservation
import ToolGate.Proofs.Settings.Spellings
import ToolGate.Proofs.Host.Answers
import ToolGate.Proofs.Host.Session
import ToolGate.Proofs.Json.Exact
import ToolGate.Proofs.Host.Params
import ToolGate.Proofs.Json.Numeral
import ToolGate.Proofs.Json.Record
import ToolGate.Proofs.Rule.Precedence
import ToolGate.Proofs.Approval.Grammar
import ToolGate.Proofs.Approval.Sweeping
import ToolGate.Proofs.Engine.Effect
import ToolGate.Proofs.Settings.Merging
import ToolGate.Proofs.Text.Trimming
import ToolGate.Proofs.Authoring.Fence
import ToolGate.Proofs.Authoring.PlainRules
import ToolGate.Proofs.Authoring.Quotes
import ToolGate.Proofs.Settings.Lifetime
import ToolGate.Proofs.Engine.Journal
