import Phrasebook.BlockGame.Items
import Phrasebook.BlockGame.Syntax
import Phrasebook.Builtin
import Phrasebook.Candidate
import Phrasebook.Command
import Phrasebook.CommandLine.Outcome
import Phrasebook.CommandLine.Request
import Phrasebook.CommandLine.Usage
import Phrasebook.Configuration
import Phrasebook.Configuration.Toml
import Phrasebook.Conversion
import Phrasebook.Datum
import Phrasebook.Datum.Printing
import Phrasebook.DefaultExpr
import Phrasebook.Descriptor
import Phrasebook.Diagnostic
import Phrasebook.Editor.Answer
import Phrasebook.Editor.Range
import Phrasebook.Editor.Workspace
import Phrasebook.ErrorRecord
import Phrasebook.Expr
import Phrasebook.Expr.Same
import Phrasebook.FileTree
import Phrasebook.Highlight.PatternLexer
import Phrasebook.Highlight.ScriptLexer
import Phrasebook.Highlight.Terminal
import Phrasebook.Highlight.Token
import Phrasebook.ListText
import Phrasebook.Main
import Phrasebook.Matching
import Phrasebook.Matching.Boundary
import Phrasebook.Matching.Demand
import Phrasebook.Noun
import Phrasebook.Number.Binary64
import Phrasebook.Number.Reading
import Phrasebook.Number.Shortest
import Phrasebook.ParseLog
import Phrasebook.Parsing
import Phrasebook.Pattern.Fault
import Phrasebook.Pattern.Placeholder
import Phrasebook.Pattern.Scan
import Phrasebook.Pattern.Valid
import Phrasebook.Proofs.Accounting
import Phrasebook.Proofs.BestError
import Phrasebook.Proofs.Binding.Asking
import Phrasebook.Proofs.Binding.Fitting
import Phrasebook.Proofs.Binding.Walk
import Phrasebook.Proofs.Boundary.Braces
import Phrasebook.Proofs.Boundary.Cuts
import Phrasebook.Proofs.Boundary.Opacity
import Phrasebook.Proofs.Boundary.Runs
import Phrasebook.Proofs.Boundary.Shortcut
import Phrasebook.Proofs.Builtins
import Phrasebook.Proofs.Call
import Phrasebook.Proofs.Conversion
import Phrasebook.Proofs.Conversion.Choice
import Phrasebook.Proofs.Conversion.Hierarchy
import Phrasebook.Proofs.Coverage.Arity
import Phrasebook.Proofs.Coverage.Piece
import Phrasebook.Proofs.Coverage.Walk
import Phrasebook.Proofs.Faultless
import Phrasebook.Proofs.Interference
import Phrasebook.Proofs.ListText
import Phrasebook.Proofs.LiteralOnly
import Phrasebook.Proofs.LonePlural
import Phrasebook.Proofs.LonePlural.Expression
import Phrasebook.Proofs.Noun
import Phrasebook.Proofs.Pattern.Advance
import Phrasebook.Proofs.Pattern.Answering
import Phrasebook.Proofs.Pattern.Decision
import Phrasebook.Proofs.Pattern.Demand
import Phrasebook.Proofs.Pattern.Derivation
import Phrasebook.Proofs.Pattern.Grammar
import Phrasebook.Proofs.Pattern.Item
import Phrasebook.Proofs.Pattern.Lexing
import Phrasebook.Proofs.Pattern.LoneSlot
import Phrasebook.Proofs.Pattern.Moves
import Phrasebook.Proofs.Pattern.Nesting
import Phrasebook.Proofs.Pattern.Numbering
import Phrasebook.Proofs.Pattern.Orderly
import Phrasebook.Proofs.Pattern.Placement
import Phrasebook.Proofs.Pattern.Regular
import Phrasebook.Proofs.Pattern.Segment
import Phrasebook.Proofs.Pattern.Spacing
import Phrasebook.Proofs.Pattern.Stepping
import Phrasebook.Proofs.Pattern.Tidy
import Phrasebook.Proofs.Pattern.Token
import Phrasebook.Proofs.Registration
import Phrasebook.Proofs.Registration.Calls
import Phrasebook.Proofs.Registration.Conversions
import Phrasebook.Proofs.Registration.History
import Phrasebook.Proofs.Registration.Spelling
import Phrasebook.Proofs.Rendering.Lists
import Phrasebook.Proofs.Rendering.Literals
import Phrasebook.Proofs.Rendering.Quotation
import Phrasebook.Proofs.Rendering.RoundTrip
import Phrasebook.Proofs.Rendering.Template
import Phrasebook.Proofs.Scopes
import Phrasebook.Proofs.Script.Composition
import Phrasebook.Proofs.Script.Findings
import Phrasebook.Proofs.Script.Line
import Phrasebook.Proofs.Script.Partition
import Phrasebook.Proofs.Script.Quiet
import Phrasebook.Proofs.Search.Heeding
import Phrasebook.Proofs.Search.Laws
import Phrasebook.Proofs.Search.Raising
import Phrasebook.Proofs.Search.Simulation
import Phrasebook.Proofs.Search.Superseding
import Phrasebook.Proofs.Search.Tracing
import Phrasebook.Proofs.Search.Tracking
import Phrasebook.Proofs.Search.Yielding
import Phrasebook.Proofs.Shrinking.Anchor
import Phrasebook.Proofs.Shrinking.Depth
import Phrasebook.Proofs.Shrinking.Walk
import Phrasebook.Proofs.Threshold
import Phrasebook.Proofs.Usage.Agreement
import Phrasebook.Proofs.Usage.Arity
import Phrasebook.Proofs.Usage.Assignment
import Phrasebook.Proofs.Usage.Omission
import Phrasebook.Proofs.Usage.Reading
import Phrasebook.Provider.Converters
import Phrasebook.Provider.EventValue
import Phrasebook.Provider.Property
import Phrasebook.Provider.Recording
import Phrasebook.Provision
import Phrasebook.Regex.Basic
import Phrasebook.Regex.Engine
import Phrasebook.Regex.Match
import Phrasebook.Regex.Reader
import Phrasebook.Regex.Standard
import Phrasebook.Registry
import Phrasebook.Report
import Phrasebook.Resolution
import Phrasebook.Script
import Phrasebook.Script.File
import Phrasebook.Search
import Phrasebook.SetupError
import Phrasebook.Span
import Phrasebook.Text
import Phrasebook.Text.Blank
import Phrasebook.Text.Digit
import Phrasebook.Text.Escaped
import Phrasebook.Text.LetterCase
import Phrasebook.Text.Line
import Phrasebook.Text.Quoted
import Phrasebook.Text.Rendition
import Phrasebook.Text.Word
import Phrasebook.Tracking
import Phrasebook.TypeInfo
import Phrasebook.Proofs.Scopes.Program
import Phrasebook.Proofs.Script.Spans
import Phrasebook.Proofs.Editor.Nesting
import Phrasebook.Proofs.Editor.Lines
import Phrasebook.Proofs.Editor.Places
import Phrasebook.Proofs.Report
import Phrasebook.Proofs.Highlight.Tiling
import Phrasebook.Proofs.Highlight.Lossless
