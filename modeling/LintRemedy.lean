import LintRemedy.Address
import LintRemedy.Aggregation.Grouping
import LintRemedy.Analyzer
import LintRemedy.Bundle.Basic
import LintRemedy.Bundle.Generation
import LintRemedy.CommandLine.Command
import LintRemedy.CommandLine.Execution
import LintRemedy.CommandLine.Options
import LintRemedy.ConfigFile
import LintRemedy.Decision
import LintRemedy.Fault
import LintRemedy.Files.Basic
import LintRemedy.Finding.Basic
import LintRemedy.Finding.Report
import LintRemedy.HostName.Basic
import LintRemedy.HostName.Label
import LintRemedy.HostName.Punycode
import LintRemedy.HostName.Repertoire
import LintRemedy.HostName.Traits
import LintRemedy.Json.Basic
import LintRemedy.Json.Bytes
import LintRemedy.Json.Decoder
import LintRemedy.Json.Display
import LintRemedy.Json.Encoder
import LintRemedy.Json.Finite
import LintRemedy.Json.Kind
import LintRemedy.Json.Rendering
import LintRemedy.Log.Entry
import LintRemedy.Log.Moment
import LintRemedy.Log.Setup
import LintRemedy.Log.Template
import LintRemedy.Loop.Course
import LintRemedy.Loop.Run
import LintRemedy.Loop.State
import LintRemedy.Main
import LintRemedy.Number.Binary64
import LintRemedy.Number.Fixed
import LintRemedy.Number.Loose
import LintRemedy.Number.Numeral
import LintRemedy.Number.Scientific
import LintRemedy.Number.Shortest
import LintRemedy.Operator.Automatic
import LintRemedy.Operator.Basic
import LintRemedy.Operator.Interactive
import LintRemedy.Operator.Scripted
import LintRemedy.Oracle.Channel
import LintRemedy.Oracle.Conversation
import LintRemedy.Oracle.Delivery
import LintRemedy.Oracle.Payload
import LintRemedy.Oracle.Prompt
import LintRemedy.Oracle.Provider
import LintRemedy.Oracle.Schema
import LintRemedy.Oracle.StatusLine
import LintRemedy.Patch.Basic
import LintRemedy.Patch.Edit
import LintRemedy.Path
import LintRemedy.Proofs.Action
import LintRemedy.Proofs.Aggregation.ParseError
import LintRemedy.Proofs.Aggregation.Partition
import LintRemedy.Proofs.Aggregation.Selectable
import LintRemedy.Proofs.Analyzer.Failure
import LintRemedy.Proofs.Analyzer.Process
import LintRemedy.Proofs.Analyzer.Supply
import LintRemedy.Proofs.CommandLine.Saving
import LintRemedy.Proofs.Files.Writing
import LintRemedy.Proofs.Finding.Reading
import LintRemedy.Proofs.Json.Depth
import LintRemedy.Proofs.Json.Grammar
import LintRemedy.Proofs.Json.ItemCount
import LintRemedy.Proofs.Json.Longest
import LintRemedy.Proofs.Json.NumberText
import LintRemedy.Proofs.Json.Rendering
import LintRemedy.Proofs.Json.StringText
import LintRemedy.Proofs.Loop.Allowance
import LintRemedy.Proofs.Loop.Answer
import LintRemedy.Proofs.Loop.Attended
import LintRemedy.Proofs.Loop.Completion
import LintRemedy.Proofs.Loop.Confinement
import LintRemedy.Proofs.Loop.Ending
import LintRemedy.Proofs.Loop.Footprint
import LintRemedy.Proofs.Loop.History
import LintRemedy.Proofs.Loop.Iteration
import LintRemedy.Proofs.Loop.Keeping
import LintRemedy.Proofs.Loop.Ledger
import LintRemedy.Proofs.Loop.LineSuppression
import LintRemedy.Proofs.Loop.Patience
import LintRemedy.Proofs.Loop.Performance
import LintRemedy.Proofs.Loop.Potential
import LintRemedy.Proofs.Loop.RepairOffer
import LintRemedy.Proofs.Loop.Report
import LintRemedy.Proofs.Loop.Rescan
import LintRemedy.Proofs.Loop.SkipBudget
import LintRemedy.Proofs.Loop.Threading
import LintRemedy.Proofs.Loop.Transition
import LintRemedy.Proofs.Loop.Unattended
import LintRemedy.Proofs.Loop.Verdict
import LintRemedy.Proofs.Loop.WellFormed
import LintRemedy.Proofs.Number.Numeral
import LintRemedy.Proofs.Operator.Choice
import LintRemedy.Proofs.Operator.Isolation
import LintRemedy.Proofs.Operator.Menu
import LintRemedy.Proofs.Operator.Selection
import LintRemedy.Proofs.Operator.TypedLine
import LintRemedy.Proofs.Oracle.Decoding
import LintRemedy.Proofs.Oracle.Disturbance
import LintRemedy.Proofs.Oracle.Envelope
import LintRemedy.Proofs.Oracle.Extent
import LintRemedy.Proofs.Oracle.Fence
import LintRemedy.Proofs.Oracle.Genuineness
import LintRemedy.Proofs.Oracle.Provenance
import LintRemedy.Proofs.Oracle.Request
import LintRemedy.Proofs.Oracle.RoundTrip
import LintRemedy.Proofs.Oracle.Search
import LintRemedy.Proofs.Oracle.Session
import LintRemedy.Proofs.Oracle.Trail
import LintRemedy.Proofs.Outcome
import LintRemedy.Proofs.Patch.Annotation
import LintRemedy.Proofs.Patch.Application
import LintRemedy.Proofs.Patch.Atomicity
import LintRemedy.Proofs.Patch.CarriageReturn
import LintRemedy.Proofs.Patch.Directive
import LintRemedy.Proofs.Patch.LineComment
import LintRemedy.Proofs.Patch.Operation
import LintRemedy.Proofs.Patch.Placement
import LintRemedy.Proofs.Patch.Repetition
import LintRemedy.Proofs.Patch.Replacement
import LintRemedy.Proofs.Remedy.Capture
import LintRemedy.Proofs.Remedy.Consultation
import LintRemedy.Proofs.Remedy.Contract
import LintRemedy.Proofs.Remedy.Display
import LintRemedy.Proofs.Remedy.Expense
import LintRemedy.Proofs.Remedy.Inquiry
import LintRemedy.Proofs.Remedy.Isolation
import LintRemedy.Proofs.Remedy.Legibility
import LintRemedy.Proofs.Service.Eviction
import LintRemedy.Proofs.Service.Interleaving
import LintRemedy.Proofs.Service.Order
import LintRemedy.Proofs.Text.Ending
import LintRemedy.Proofs.Text.Entries
import LintRemedy.Proofs.Text.LowerCase
import LintRemedy.Proofs.Text.Occurrence
import LintRemedy.Proofs.World.Account
import LintRemedy.Proofs.World.Footprint
import LintRemedy.Proofs.World.Keeping
import LintRemedy.Proofs.World.OwnDeeds
import LintRemedy.Proofs.World.Spending
import LintRemedy.Record
import LintRemedy.Results
import LintRemedy.RuleGroup
import LintRemedy.RunRecord
import LintRemedy.Service.Basic
import LintRemedy.Service.Endpoint
import LintRemedy.Service.Registry
import LintRemedy.Settings
import LintRemedy.Terminal
import LintRemedy.Text.Ascii
import LintRemedy.Text.Blank
import LintRemedy.Text.Case
import LintRemedy.Text.Combining
import LintRemedy.Text.Composite
import LintRemedy.Text.Composition
import LintRemedy.Text.Digit
import LintRemedy.Text.Encoding
import LintRemedy.Text.Excerpt
import LintRemedy.Text.Lines
import LintRemedy.Text.Percent
import LintRemedy.Text.Printable
import LintRemedy.Text.Quoted
import LintRemedy.Text.Search
import LintRemedy.Text.ShellWords
import LintRemedy.Text.Style
import LintRemedy.Text.Unencodable
import LintRemedy.Text.Utf16
import LintRemedy.Text.Utf32
import LintRemedy.Text.Utf8
import LintRemedy.Text.Word
import LintRemedy.TimeLimit
import LintRemedy.View.Progress
import LintRemedy.View.Report
import LintRemedy.World
import LintRemedy.World.Recording
