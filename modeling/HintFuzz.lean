import HintFuzz.Bytes.Hex
import HintFuzz.Bytes.LittleEndian
import HintFuzz.Bytes.Sha256
import HintFuzz.Cairo.Program
import HintFuzz.Cairo.Render
import HintFuzz.Cairo.Shape
import HintFuzz.Cairo.Types
import HintFuzz.Campaign.Run
import HintFuzz.Campaign.Session
import HintFuzz.Campaign.Summary
import HintFuzz.Catalog.Basic
import HintFuzz.Catalog.Load
import HintFuzz.Command.Process
import HintFuzz.Command.Report
import HintFuzz.Command.Template
import HintFuzz.CommandLine.Answer
import HintFuzz.CommandLine.Options
import HintFuzz.CommandLine.Request
import HintFuzz.Condition
import HintFuzz.Config.Basic
import HintFuzz.Config.Campaign
import HintFuzz.Config.Document
import HintFuzz.Decimal.Lexeme
import HintFuzz.Decimal.Places
import HintFuzz.Edit.Reader
import HintFuzz.Edit.Run
import HintFuzz.Edit.Script
import HintFuzz.Engine.Duration
import HintFuzz.Engine.ErrorClass
import HintFuzz.Engine.External
import HintFuzz.Engine.Outcome
import HintFuzz.Felt
import HintFuzz.Files.Basic
import HintFuzz.Files.Change
import HintFuzz.Files.Fault
import HintFuzz.Files.Permission
import HintFuzz.Files.Standard
import HintFuzz.Finding.Log
import HintFuzz.Finding.Reader
import HintFuzz.Finding.Record
import HintFuzz.Format.Arguments
import HintFuzz.Format.Conversion
import HintFuzz.Format.Escape
import HintFuzz.Format.Number
import HintFuzz.Format.Whole
import HintFuzz.Hint.Lexeme
import HintFuzz.Hint.Line
import HintFuzz.Hint.Signature
import HintFuzz.Json.Basic
import HintFuzz.Json.Fields
import HintFuzz.Json.Printer
import HintFuzz.Json.Reader
import HintFuzz.Kernel.Host
import HintFuzz.Kernel.Machine
import HintFuzz.Kernel.Process
import HintFuzz.Kernel.Run
import HintFuzz.Main
import HintFuzz.Memory.Dump
import HintFuzz.Memory.Snapshot
import HintFuzz.Order.Ascending
import HintFuzz.Proofs.Cairo.DeclarationOrder
import HintFuzz.Proofs.Cairo.Leaves
import HintFuzz.Proofs.Cairo.Shape
import HintFuzz.Proofs.Cairo.Vocabulary
import HintFuzz.Proofs.Cairo.Typing
import HintFuzz.Proofs.Decimal.Digits
import HintFuzz.Proofs.Engine.Behaviour
import HintFuzz.Proofs.Hint.Signature
import HintFuzz.Proofs.Memory.Differences
import HintFuzz.Proofs.Monad.Steps
import HintFuzz.Proofs.Order.Ascending
import HintFuzz.Proofs.Trial.Plan
import HintFuzz.Proofs.Verdict.Confirmation
import HintFuzz.Proofs.Verdict.Equivalence
import HintFuzz.Proofs.Verdict.Judging
import HintFuzz.Proofs.Wrapper.Synthesis
import HintFuzz.Proofs.Wrapper.Types
import HintFuzz.Proofs.Wrapper.WellTyped
import HintFuzz.Random.ChaCha
import HintFuzz.Random.Stream
import HintFuzz.Random.Transcript
import HintFuzz.Regex.Basic
import HintFuzz.Regex.Reader
import HintFuzz.Regex.Search
import HintFuzz.Shell.Arithmetic
import HintFuzz.Shell.Builtin
import HintFuzz.Shell.Fields
import HintFuzz.Shell.Glob
import HintFuzz.Shell.Home
import HintFuzz.Shell.Interpreter
import HintFuzz.Shell.Jobs
import HintFuzz.Shell.Options
import HintFuzz.Shell.Program
import HintFuzz.Shell.Reader
import HintFuzz.Shell.Redirection
import HintFuzz.Shell.Script
import HintFuzz.Shell.State
import HintFuzz.Text.Blank
import HintFuzz.Text.CharacterClass
import HintFuzz.Text.Lines
import HintFuzz.Text.Octets
import HintFuzz.Text.Quoted
import HintFuzz.Text.Search
import HintFuzz.Text.Utf8
import HintFuzz.Text.Word
import HintFuzz.Text.WordQuoting
import HintFuzz.Toml.Basic
import HintFuzz.Toml.Printer
import HintFuzz.Toml.Reader
import HintFuzz.Toml.Scalar
import HintFuzz.Toml.Table
import HintFuzz.Toml.Text
import HintFuzz.Trial.Plan
import HintFuzz.Utility.Basic
import HintFuzz.Utility.Coding
import HintFuzz.Utility.Columns
import HintFuzz.Utility.Copy
import HintFuzz.Utility.Count
import HintFuzz.Utility.Date
import HintFuzz.Utility.Difference
import HintFuzz.Utility.Dump
import HintFuzz.Utility.Exchange
import HintFuzz.Utility.Expression
import HintFuzz.Utility.Host
import HintFuzz.Utility.Listing
import HintFuzz.Utility.Numbers
import HintFuzz.Utility.Options
import HintFuzz.Utility.Order
import HintFuzz.Utility.Paths
import HintFuzz.Utility.Removal
import HintFuzz.Utility.Search
import HintFuzz.Utility.Start
import HintFuzz.Utility.Stream
import HintFuzz.Utility.Walk
import HintFuzz.Utility.Words
import HintFuzz.Values.Assignment
import HintFuzz.Values.Law
import HintFuzz.Verdict.Compare
import HintFuzz.Verdict.Judge
import HintFuzz.Wrapper.Synthesis
import HintFuzz.Proofs.Campaign.Iteration
import HintFuzz.Proofs.Campaign.Replay
import HintFuzz.Proofs.Campaign.Accounting
import HintFuzz.Proofs.Campaign.Schedule
import HintFuzz.Proofs.Cairo.Layout
import HintFuzz.Proofs.Campaign.Cancellation
import HintFuzz.Proofs.Hint.Names
import HintFuzz.Proofs.Text.Lines
import HintFuzz.Proofs.Text.Search
import HintFuzz.Proofs.Cairo.Slots
import HintFuzz.Proofs.Cairo.Replacement
import HintFuzz.Proofs.Cairo.Spelling
import HintFuzz.Proofs.Wrapper.Instantiation
import HintFuzz.Proofs.Wrapper.Leaves
import HintFuzz.Proofs.Wrapper.Refusal
import HintFuzz.Proofs.Wrapper.Text
import HintFuzz.Proofs.Cairo.Tokens
import HintFuzz.Proofs.Wrapper.Substitution
import HintFuzz.Proofs.Wrapper.Identity
import HintFuzz.Proofs.Campaign.Provenance
import HintFuzz.Proofs.Text.Utf8
import HintFuzz.Proofs.Json.RoundTrip
import HintFuzz.Proofs.Json.Fields
import HintFuzz.Proofs.Files.Append
import HintFuzz.Proofs.Finding.Record
import HintFuzz.Proofs.Finding.Log
import HintFuzz.Proofs.Campaign.Counts
import HintFuzz.Proofs.Campaign.Log
import HintFuzz.Proofs.Campaign.Coverage
import HintFuzz.Proofs.Memory.Dump
import HintFuzz.Proofs.Trial.Values
import HintFuzz.Proofs.Wrapper.Fitting
import HintFuzz.Proofs.Campaign.Rejection
import HintFuzz.Proofs.Hint.Lexing
import HintFuzz.Proofs.Hint.Sites
import HintFuzz.Proofs.Hint.Chains
import HintFuzz.Proofs.Hint.References
import HintFuzz.Proofs.Hint.Joining
import HintFuzz.Proofs.Hint.Balanced
import HintFuzz.Proofs.Hint.Indifference
import HintFuzz.Proofs.Hint.Packing
import HintFuzz.Proofs.Hint.Analysis
import HintFuzz.Proofs.Hint.Octets
import HintFuzz.Proofs.Hint.Operator
import HintFuzz.Proofs.Random.Transcript
import HintFuzz.Proofs.Random.Uniform
import HintFuzz.Proofs.Campaign.Deadline
import HintFuzz.Proofs.Campaign.Stopping
import HintFuzz.Proofs.Bytes.LittleEndian
import HintFuzz.Proofs.Memory.Cells
import HintFuzz.Proofs.Memory.Decoding
import HintFuzz.Proofs.Memory.Patch
import HintFuzz.Proofs.Values.Law
import HintFuzz.Proofs.Engine.Classes
import HintFuzz.Proofs.Hint.Calls
import HintFuzz.Proofs.Catalog.Loading
