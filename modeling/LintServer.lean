import LintServer.Address
import LintServer.Check
import LintServer.CommandLine.Basic
import LintServer.CommandLine.Completion
import LintServer.CommandLine.Flags
import LintServer.CommandLine.Suggestion
import LintServer.CommandLine.Verb
import LintServer.Config.Basic
import LintServer.Config.Decode
import LintServer.Config.Find
import LintServer.Config.Load
import LintServer.Diagnostic.Aggregator
import LintServer.Diagnostic.Finding
import LintServer.Diagnostic.Record
import LintServer.Diagnostic.Severity
import LintServer.Document.Basic
import LintServer.Document.Store
import LintServer.Edit.Formatting
import LintServer.Edit.Match
import LintServer.Edit.Minimal
import LintServer.Edit.Script
import LintServer.FileUri
import LintServer.Grouping
import LintServer.Host.Cat
import LintServer.Host.Command
import LintServer.Host.Echo
import LintServer.Host.Effect
import LintServer.Host.FileName
import LintServer.Host.Files
import LintServer.Host.Program
import LintServer.Host.Script.Reader
import LintServer.Host.Script.Source
import LintServer.Host.Script.Tree
import LintServer.Host.Shell.Arithmetic
import LintServer.Host.Shell.Basic
import LintServer.Host.Shell.Builtin
import LintServer.Host.Shell.Condition
import LintServer.Host.Shell.Directory
import LintServer.Host.Shell.Execution
import LintServer.Host.Shell.Expansion
import LintServer.Host.Shell.Field
import LintServer.Host.Shell.Format
import LintServer.Host.Shell.Integer
import LintServer.Host.Shell.Invocation
import LintServer.Host.Shell.Job
import LintServer.Host.Shell.Lookup
import LintServer.Host.Shell.Option
import LintServer.Host.Shell.Part
import LintServer.Host.Shell.Pattern
import LintServer.Host.Shell.Read
import LintServer.Host.Shell.Redirection
import LintServer.Host.Shell.Signal
import LintServer.Host.Shell.Simple
import LintServer.Host.Site
import LintServer.Json.Basic
import LintServer.Json.Over
import LintServer.Json.Parse
import LintServer.Json.Render
import LintServer.Json.Token
import LintServer.Jsonnet.Eval
import LintServer.Jsonnet.Expr
import LintServer.Jsonnet.Token
import LintServer.Log
import LintServer.Main
import LintServer.Number.Decimal
import LintServer.Number.Double
import LintServer.Number.Notation
import LintServer.Path
import LintServer.Position
import LintServer.Proofs.Check
import LintServer.Proofs.Check.FileName
import LintServer.Proofs.Check.Location
import LintServer.Proofs.Check.Verdict
import LintServer.Proofs.Config.Defaults
import LintServer.Proofs.Config.Find
import LintServer.Proofs.Config.Root
import LintServer.Proofs.Diagnostic.Conversion
import LintServer.Proofs.Diagnostic.Preorder
import LintServer.Proofs.Diagnostic.QuickFix
import LintServer.Proofs.Diagnostic.View
import LintServer.Proofs.Document.Cut
import LintServer.Proofs.Document.Offset
import LintServer.Proofs.Document.Refinement
import LintServer.Proofs.Document.Walk
import LintServer.Proofs.Edit.Block
import LintServer.Proofs.Edit.LineEdit
import LintServer.Proofs.Edit.LinePosition
import LintServer.Proofs.Edit.Modes
import LintServer.Proofs.Edit.Rewrite
import LintServer.Proofs.Edit.Script
import LintServer.Proofs.FileUri
import LintServer.Proofs.Fold
import LintServer.Proofs.Grouping
import LintServer.Proofs.Json.Values
import LintServer.Proofs.Path
import LintServer.Proofs.Server.Analysis
import LintServer.Proofs.Server.Publication
import LintServer.Proofs.Server.Run
import LintServer.Proofs.Symbol.Accounting
import LintServer.Proofs.Symbol.ReportOrder
import LintServer.Proofs.Symbol.Selection
import LintServer.Proofs.Text.Boundary
import LintServer.Proofs.Text.CodePoint
import LintServer.Proofs.Text.Units
import LintServer.Protocol.Capabilities
import LintServer.Protocol.Diagnostic
import LintServer.Protocol.Frame
import LintServer.Protocol.Geometry
import LintServer.Protocol.Incoming
import LintServer.Protocol.Message
import LintServer.Protocol.Request
import LintServer.Protocol.Shape
import LintServer.Server.Basic
import LintServer.Server.Log
import LintServer.Server.Trace
import LintServer.Symbol.Index
import LintServer.Symbol.Record
import LintServer.Symbol.Table
import LintServer.Text.Basic
import LintServer.Text.Blank
import LintServer.Text.CodePoint
import LintServer.Text.Fold
import LintServer.Text.Lines
import LintServer.Text.LowerCase
import LintServer.Text.Printable
import LintServer.Text.Quoted
import LintServer.Text.Records
import LintServer.Toml.Number
import LintServer.Toml.Quoted
import LintServer.Toml.Syntax
import LintServer.Toml.Table
import LintServer.Tool
