import ShellWorkers.Bookkeeping
import ShellWorkers.Build
import ShellWorkers.BuildError
import ShellWorkers.Capture
import ShellWorkers.Clock.Reading
import ShellWorkers.Clock.Writing
import ShellWorkers.Clock.Zone
import ShellWorkers.CommandLine.Arguments
import ShellWorkers.CommandLine.Execution
import ShellWorkers.CommandLine.Plan
import ShellWorkers.Config
import ShellWorkers.Decimal
import ShellWorkers.Digest
import ShellWorkers.Duration
import ShellWorkers.Host
import ShellWorkers.Interaction
import ShellWorkers.Json.Basic
import ShellWorkers.Json.Number
import ShellWorkers.Json.Reader
import ShellWorkers.Json.Writer
import ShellWorkers.Machine.Call
import ShellWorkers.Machine.Environment
import ShellWorkers.Machine.FileTree
import ShellWorkers.Machine.Kernel
import ShellWorkers.Machine.Permissions
import ShellWorkers.Machine.Process
import ShellWorkers.Machine.Standard
import ShellWorkers.Main
import ShellWorkers.Partition
import ShellWorkers.Path
import ShellWorkers.Proofs.ApartFromTime
import ShellWorkers.Proofs.BuildPhases
import ShellWorkers.Proofs.BuildSteps
import ShellWorkers.Proofs.Cleanup
import ShellWorkers.Proofs.CommandLexer
import ShellWorkers.Proofs.CompileVerdict
import ShellWorkers.Proofs.Confluence
import ShellWorkers.Proofs.Custody
import ShellWorkers.Proofs.DealtRounds
import ShellWorkers.Proofs.Deadlines
import ShellWorkers.Proofs.DefaultShells
import ShellWorkers.Proofs.FanIn
import ShellWorkers.Proofs.FanOut
import ShellWorkers.Proofs.HeldSessions
import ShellWorkers.Proofs.Leftovers
import ShellWorkers.Proofs.LiteralPaths
import ShellWorkers.Proofs.MergedOutput
import ShellWorkers.Proofs.ObjectExtensions
import ShellWorkers.Proofs.ObjectPaths
import ShellWorkers.Proofs.OnePass
import ShellWorkers.Proofs.Outcome
import ShellWorkers.Proofs.Places
import ShellWorkers.Proofs.PlannedWork
import ShellWorkers.Proofs.QuotedWords
import ShellWorkers.Proofs.Reaping
import ShellWorkers.Proofs.RecipeDocuments
import ShellWorkers.Proofs.RecipeFields
import ShellWorkers.Proofs.RecipeRoundTrip
import ShellWorkers.Proofs.RecordLines
import ShellWorkers.Proofs.ReplacedExtensions
import ShellWorkers.Proofs.RoundRobin
import ShellWorkers.Proofs.SerialWork
import ShellWorkers.Proofs.SessionRuns
import ShellWorkers.Proofs.SessionTraces
import ShellWorkers.Proofs.Settling
import ShellWorkers.Proofs.ShellQueue
import ShellWorkers.Proofs.StatusCodes
import ShellWorkers.Proofs.StatusFiles
import ShellWorkers.Proofs.StatusProtocol
import ShellWorkers.Proofs.TornStatus
import ShellWorkers.Proofs.Traces
import ShellWorkers.Proofs.UsableTimeouts
import ShellWorkers.Proofs.Utf8
import ShellWorkers.Proofs.WorkingDirectories
import ShellWorkers.Proofs.Workshop
import ShellWorkers.Proofs.WrittenJson
import ShellWorkers.Quoting
import ShellWorkers.Recipe.Basic
import ShellWorkers.Recipe.File
import ShellWorkers.Recipe.Format
import ShellWorkers.Recipe.Template
import ShellWorkers.Regex.Basic
import ShellWorkers.Regex.Groups
import ShellWorkers.Regex.Preferring
import ShellWorkers.Regex.Reader
import ShellWorkers.Script.Arithmetic
import ShellWorkers.Script.Braces
import ShellWorkers.Script.Builtin.Children
import ShellWorkers.Script.Builtin.Search
import ShellWorkers.Script.Builtin.Settings
import ShellWorkers.Script.Builtin.Streams
import ShellWorkers.Script.Builtin.Table
import ShellWorkers.Script.Builtin.Variables
import ShellWorkers.Script.Computation
import ShellWorkers.Script.Condition
import ShellWorkers.Script.Execution
import ShellWorkers.Script.Expansion
import ShellWorkers.Script.Extended.Assigning
import ShellWorkers.Script.Extended.Children
import ShellWorkers.Script.Extended.Command
import ShellWorkers.Script.Extended.Compound
import ShellWorkers.Script.Extended.Declarations
import ShellWorkers.Script.Extended.Directories
import ShellWorkers.Script.Extended.Formats
import ShellWorkers.Script.Extended.Names
import ShellWorkers.Script.Extended.Settings
import ShellWorkers.Script.Extended.Starting
import ShellWorkers.Script.Extended.Streams
import ShellWorkers.Script.Formatting
import ShellWorkers.Script.Interpreter
import ShellWorkers.Script.Jobs
import ShellWorkers.Script.Parser
import ShellWorkers.Script.Pattern
import ShellWorkers.Script.Printing
import ShellWorkers.Script.Redirection
import ShellWorkers.Script.References
import ShellWorkers.Script.Referring
import ShellWorkers.Script.Scanner
import ShellWorkers.Script.SimpleCommand
import ShellWorkers.Script.State
import ShellWorkers.Script.Syntax
import ShellWorkers.Script.Tokens
import ShellWorkers.Script.Words
import ShellWorkers.Session
import ShellWorkers.Shell
import ShellWorkers.StatusText
import ShellWorkers.SystemFault
import ShellWorkers.Text.Blank
import ShellWorkers.Text.CharKind
import ShellWorkers.Text.Directive
import ShellWorkers.Text.Quoted
import ShellWorkers.Text.Replace
import ShellWorkers.Text.Unprintable
import ShellWorkers.Text.Utf8
import ShellWorkers.Utility.Amounts
import ShellWorkers.Utility.Attributes
import ShellWorkers.Utility.BlockCopy
import ShellWorkers.Utility.Checksums
import ShellWorkers.Utility.Columns
import ShellWorkers.Utility.Conditions
import ShellWorkers.Utility.Copies
import ShellWorkers.Utility.Copying
import ShellWorkers.Utility.Dates
import ShellWorkers.Utility.Differences
import ShellWorkers.Utility.Differences.Report
import ShellWorkers.Utility.Editing
import ShellWorkers.Utility.Editor.Reader
import ShellWorkers.Utility.Encodings
import ShellWorkers.Utility.Ends
import ShellWorkers.Utility.Finding
import ShellWorkers.Utility.Finding.Reader
import ShellWorkers.Utility.Gathering
import ShellWorkers.Utility.Identity
import ShellWorkers.Utility.Listing
import ShellWorkers.Utility.Numbering
import ShellWorkers.Utility.Options
import ShellWorkers.Utility.Ordered
import ShellWorkers.Utility.Pieces
import ShellWorkers.Utility.Programs
import ShellWorkers.Utility.Records
import ShellWorkers.Utility.Records.Memory
import ShellWorkers.Utility.Records.Reader
import ShellWorkers.Utility.Records.Scanner
import ShellWorkers.Utility.Records.Value
import ShellWorkers.Utility.Removal
import ShellWorkers.Utility.Running
import ShellWorkers.Utility.Selection
import ShellWorkers.Utility.Sorting
import ShellWorkers.Utility.Texts
import ShellWorkers.Utility.Translation
import ShellWorkers.Utility.Work
