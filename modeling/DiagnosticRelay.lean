import DiagnosticRelay.CapturedOutput
import DiagnosticRelay.Check
import DiagnosticRelay.Collection
import DiagnosticRelay.CommandLine.Check
import DiagnosticRelay.CommandLine.Options
import DiagnosticRelay.CommandLine.Outcome
import DiagnosticRelay.CommandLine.Parse
import DiagnosticRelay.CommandLine.Program
import DiagnosticRelay.CommandLine.Survey
import DiagnosticRelay.Config.Basic
import DiagnosticRelay.Config.Layers
import DiagnosticRelay.Console
import DiagnosticRelay.Diagnostic
import DiagnosticRelay.Export
import DiagnosticRelay.Fault
import DiagnosticRelay.FileSystem
import DiagnosticRelay.Grouping
import DiagnosticRelay.HostRange
import DiagnosticRelay.Invocation
import DiagnosticRelay.Json.Failure
import DiagnosticRelay.Json.Reader
import DiagnosticRelay.Json.Writer
import DiagnosticRelay.LineGrammar.Frame
import DiagnosticRelay.LineGrammar.Location
import DiagnosticRelay.LineGrammar.Rule
import DiagnosticRelay.Main
import DiagnosticRelay.Negotiation
import DiagnosticRelay.Number.Binary64
import DiagnosticRelay.Number.Decimal
import DiagnosticRelay.Number.Reading
import DiagnosticRelay.Number.Shortest
import DiagnosticRelay.Path.FileUri
import DiagnosticRelay.Path.Lexical
import DiagnosticRelay.Path.Posix
import DiagnosticRelay.Path.Reported
import DiagnosticRelay.Path.Windows
import DiagnosticRelay.Presentation
import DiagnosticRelay.Process
import DiagnosticRelay.ProjectRoot
import DiagnosticRelay.Proofs.CapturedOutput.Agreement
import DiagnosticRelay.Proofs.CapturedOutput.FixedPoint
import DiagnosticRelay.Proofs.CapturedOutput.Live
import DiagnosticRelay.Proofs.CapturedOutput.Settled
import DiagnosticRelay.Proofs.CapturedOutput.Strict
import DiagnosticRelay.Proofs.Check.Session
import DiagnosticRelay.Proofs.Collection.Journal
import DiagnosticRelay.Proofs.Collection.Publication
import DiagnosticRelay.Proofs.CommandLine.Document
import DiagnosticRelay.Proofs.CommandLine.Status
import DiagnosticRelay.Proofs.Config.Assignment
import DiagnosticRelay.Proofs.Config.Layers
import DiagnosticRelay.Proofs.Fault.Overflow
import DiagnosticRelay.Proofs.Grouping.Buckets
import DiagnosticRelay.Proofs.Grouping.Forms
import DiagnosticRelay.Proofs.Grouping.Key
import DiagnosticRelay.Proofs.Grouping.Lossless
import DiagnosticRelay.Proofs.HostRange.Normalization
import DiagnosticRelay.Proofs.Json.Answer
import DiagnosticRelay.Proofs.Json.Escape
import DiagnosticRelay.Proofs.Json.Numeral
import DiagnosticRelay.Proofs.Json.Reading
import DiagnosticRelay.Proofs.Json.RoundTrip
import DiagnosticRelay.Proofs.LineGrammar.Frame
import DiagnosticRelay.Proofs.LineGrammar.Lines
import DiagnosticRelay.Proofs.LineGrammar.Location
import DiagnosticRelay.Proofs.LineGrammar.Overlong
import DiagnosticRelay.Proofs.LineGrammar.Severity
import DiagnosticRelay.Proofs.LineGrammar.Word
import DiagnosticRelay.Proofs.LineGrammar.WordEnd
import DiagnosticRelay.Proofs.Negotiation.Failure
import DiagnosticRelay.Proofs.Negotiation.Protocol
import DiagnosticRelay.Proofs.Number.Decimal
import DiagnosticRelay.Proofs.Number.Magnitude
import DiagnosticRelay.Proofs.Number.NotANumber
import DiagnosticRelay.Proofs.Path.Display
import DiagnosticRelay.Proofs.Path.DriveKey
import DiagnosticRelay.Proofs.Path.DriveLetter
import DiagnosticRelay.Proofs.Path.DriveNormalForm
import DiagnosticRelay.Proofs.Path.JoinedHalves
import DiagnosticRelay.Proofs.Path.Named
import DiagnosticRelay.Proofs.Path.NormalForm
import DiagnosticRelay.Proofs.Path.PercentDecoding
import DiagnosticRelay.Proofs.Path.PercentEncoding
import DiagnosticRelay.Proofs.Path.Share
import DiagnosticRelay.Proofs.Path.Stack
import DiagnosticRelay.Proofs.Presentation.Lines
import DiagnosticRelay.Proofs.Process.Lookup
import DiagnosticRelay.Proofs.ProjectRoot.Nearest
import DiagnosticRelay.Proofs.StructuredReport.KeyOrder
import DiagnosticRelay.Proofs.StructuredReport.Locality
import DiagnosticRelay.Proofs.Text.DecimalDigit
import DiagnosticRelay.Proofs.Text.Pieces
import DiagnosticRelay.Proofs.Text.Trim
import DiagnosticRelay.Proofs.Value.Bounded
import DiagnosticRelay.Proofs.Value.LeadingInteger
import DiagnosticRelay.Proofs.Value.Overlong
import DiagnosticRelay.Range
import DiagnosticRelay.Severity
import DiagnosticRelay.Shell.Arithmetic
import DiagnosticRelay.Shell.Builtin
import DiagnosticRelay.Shell.Evaluation
import DiagnosticRelay.Shell.Field
import DiagnosticRelay.Shell.Leaf
import DiagnosticRelay.Shell.Pattern
import DiagnosticRelay.Shell.Printing
import DiagnosticRelay.Shell.Program
import DiagnosticRelay.Shell.Question
import DiagnosticRelay.Shell.Reader
import DiagnosticRelay.Shell.Run
import DiagnosticRelay.Shell.Source
import DiagnosticRelay.Shell.Syntax
import DiagnosticRelay.Shell.Tool
import DiagnosticRelay.StructuredReport
import DiagnosticRelay.Text.Basic
import DiagnosticRelay.Text.Blank
import DiagnosticRelay.Text.Casing
import DiagnosticRelay.Text.DecimalDigit
import DiagnosticRelay.Text.LowerCase
import DiagnosticRelay.Text.Newline
import DiagnosticRelay.Text.Printable
import DiagnosticRelay.Text.Quoted
import DiagnosticRelay.Text.Utf8
import DiagnosticRelay.Text.Width
import DiagnosticRelay.Toml.Document
import DiagnosticRelay.Toml.Scalar
import DiagnosticRelay.Toml.Table
import DiagnosticRelay.Validation.Basic
import DiagnosticRelay.Validation.Diagnostic
import DiagnosticRelay.Validation.Scalar
import DiagnosticRelay.Value.Basic
import DiagnosticRelay.Value.Coercion
import DiagnosticRelay.Value.Display
import DiagnosticRelay.Value.Written
