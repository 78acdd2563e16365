import TestBench.Calendar
import TestBench.CommandLine.Arguments
import TestBench.CommandLine.Flag
import TestBench.CommandLine.Help
import TestBench.CommandLine.Invocation
import TestBench.Directory.Basic
import TestBench.Directory.Leaves
import TestBench.Directory.Table
import TestBench.Failure
import TestBench.Fault
import TestBench.FileTree.Basic
import TestBench.FileTree.Directories
import TestBench.FileTree.Error
import TestBench.FileTree.PathText
import TestBench.Line.Basic
import TestBench.Line.Flat
import TestBench.Line.Reading
import TestBench.Main
import TestBench.Number.Binary64
import TestBench.Number.Decimal
import TestBench.Number.Formatted
import TestBench.Outcome
import TestBench.Proofs.Directory.Leaves
import TestBench.Proofs.Line.Classify
import TestBench.Proofs.Line.Expansion
import TestBench.Proofs.Line.Fields
import TestBench.Proofs.Line.Pipeline
import TestBench.Proofs.Run.Collection
import TestBench.Proofs.Run.Order
import TestBench.Proofs.Run.Parallel
import TestBench.Proofs.Run.Pool
import TestBench.Proofs.Run.Safety
import TestBench.Proofs.Run.Trials
import TestBench.Proofs.Script.Growth
import TestBench.Proofs.Suite.Drawn
import TestBench.Proofs.Suite.Load
import TestBench.Proofs.Suite.Running
import TestBench.Proofs.Text.Blank
import TestBench.Report.Elapsed
import TestBench.Report.Summary
import TestBench.Run.Launch
import TestBench.Run.Pool
import TestBench.Run.Sequence
import TestBench.Run.Stats
import TestBench.Run.Trial
import TestBench.Script.Basic
import TestBench.Script.Expr
import TestBench.Script.Options
import TestBench.Script.Run
import TestBench.Session.Basic
import TestBench.Session.Transcript
import TestBench.Settings.Basic
import TestBench.Settings.Load
import TestBench.Shell.Arithmetic
import TestBench.Shell.Builtin
import TestBench.Shell.ByteText
import TestBench.Shell.Command
import TestBench.Shell.Condition
import TestBench.Shell.Effect
import TestBench.Shell.Field
import TestBench.Shell.File
import TestBench.Shell.FileName
import TestBench.Shell.Format
import TestBench.Shell.Input
import TestBench.Shell.Meaning
import TestBench.Shell.Move
import TestBench.Shell.Option
import TestBench.Shell.Pattern
import TestBench.Shell.Process
import TestBench.Shell.Program
import TestBench.Shell.Quote
import TestBench.Shell.Read
import TestBench.Shell.Redirect
import TestBench.Shell.Run
import TestBench.Shell.Scope
import TestBench.Shell.Signal
import TestBench.Shell.State
import TestBench.Shell.Token
import TestBench.Shell.Value
import TestBench.Stop
import TestBench.Suite.Load
import TestBench.Test
import TestBench.Text.Base64
import TestBench.Text.Blank
import TestBench.Text.Cased
import TestBench.Text.Digit
import TestBench.Text.Half
import TestBench.Text.LineBreak
import TestBench.Text.LowerCase
import TestBench.Text.Numeral
import TestBench.Text.Printable
import TestBench.Text.Quoted
import TestBench.Text.Utf8
import TestBench.Value.Basic
import TestBench.Value.Expectation
import TestBench.Value.Integer
import TestBench.Value.SetOrder
import TestBench.Value.Shown
import TestBench.Yaml.Character
import TestBench.Yaml.Cursor
import TestBench.Yaml.Flaw
import TestBench.Yaml.Node.Graph
import TestBench.Yaml.Node.Merge
import TestBench.Yaml.Node.Reader
import TestBench.Yaml.Scalar.Block
import TestBench.Yaml.Scalar.Pattern
import TestBench.Yaml.Scalar.Plain
import TestBench.Yaml.Scalar.Quoted
import TestBench.Yaml.Scalar.Timestamp
import TestBench.Yaml.Scalar.Value
import TestBench.Yaml.Source
import TestBench.Yaml.Tag
import TestBench.Yaml.Token.Basic
import TestBench.Yaml.Token.Property
import TestBench.Yaml.Token.Stream
import TestBench.Yaml.Value
import TestBench.Proofs.Run.Ledger
import TestBench.Proofs.Shell.Words
import TestBench.Proofs.Number.Rounding
import TestBench.Proofs.Report.Elapsed
import TestBench.Proofs.Session.Selection
import TestBench.Proofs.Session.Status
import TestBench.Proofs.FileTree.Names
import TestBench.Proofs.Text.Blocks
import TestBench.Proofs.Session.Loading
import TestBench.Proofs.Directory.Joined
import TestBench.Proofs.Directory.Descent
import TestBench.Proofs.Directory.Search
import TestBench.Proofs.Line.Grammar
import TestBench.Proofs.Line.Rejection
import TestBench.Proofs.Line.Declaration
import TestBench.Proofs.Script.Agreement
import TestBench.Proofs.Run.Records
import TestBench.Proofs.Run.Replies
import TestBench.Proofs.Report.Balance
import TestBench.Proofs.Script.Calls
import TestBench.Proofs.Script.Account
import TestBench.Proofs.Script.Reads
import TestBench.Proofs.Script.Shift
import TestBench.Proofs.Suite.Isolation
import TestBench.Proofs.Directory.PassedOver
import TestBench.Proofs.Line.RoundTrip
import TestBench.Proofs.Run.Independence
import TestBench.Proofs.Settings.Loading
import TestBench.Proofs.Line.Composition
import TestBench.Proofs.Line.NormalForm
import TestBench.Proofs.Settings.Stability
import TestBench.Proofs.Text.Lines
import TestBench.Proofs.Suite.Layout
import TestBench.Proofs.Number.Exact
import TestBench.Proofs.Report.Duration
import TestBench.Proofs.Directory.Depth
