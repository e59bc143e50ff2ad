import Bindery.Binding.Blocking
import Bindery.Binding.Callback
import Bindery.Binding.CodeType
import Bindery.Binding.CommandShape
import Bindery.Binding.Declaration
import Bindery.Binding.DomainUnit
import Bindery.Binding.Enumeration
import Bindery.Binding.Record
import Bindery.Capability
import Bindery.CommandLine
import Bindery.Compiler.Options
import Bindery.Compiler.Run
import Bindery.Decimal.Reading
import Bindery.Decimal.Rounded
import Bindery.Decimal.Shortest
import Bindery.Digest
import Bindery.Document.Basic
import Bindery.Document.Reading
import Bindery.Error
import Bindery.File.Operations
import Bindery.File.Mode
import Bindery.File.Path
import Bindery.File.Tree
import Bindery.Formatter
import Bindery.Help
import Bindery.Json.Decode
import Bindery.Json.Defect
import Bindery.Json.Document
import Bindery.Json.Encode
import Bindery.Json.Escape
import Bindery.Json.Fault
import Bindery.Json.Held
import Bindery.Json.Number
import Bindery.Json.Reader
import Bindery.Main
import Bindery.NameTable
import Bindery.Naming
import Bindery.NodeProtocol.Codec
import Bindery.NodeProtocol.Command
import Bindery.NodeProtocol.Record
import Bindery.Output.GeneratedFile
import Bindery.Output.Placement
import Bindery.Program
import Bindery.Proofs.Identifiers
import Bindery.Regex.Basic
import Bindery.Regex.Parser
import Bindery.Regex.Search
import Bindery.Schema.Basic
import Bindery.Schema.Merge
import Bindery.Schema.Reading
import Bindery.Session.BlockingHandle
import Bindery.Session.CallbackHandle
import Bindery.Session.Dispatcher
import Bindery.Session.Frame
import Bindery.Session.Interleaving
import Bindery.Session.ProtocolError
import Bindery.Session.RemoteCall
import Bindery.Session.Time
import Bindery.Shell.Arithmetic
import Bindery.Shell.Builtin
import Bindery.Shell.Condition
import Bindery.Shell.Escape
import Bindery.Shell.Expand
import Bindery.Shell.Field
import Bindery.Shell.Words
import Bindery.Shell.Lookup
import Bindery.Shell.Switches
import Bindery.Shell.Pattern
import Bindery.Shell.Process
import Bindery.Shell.Reader
import Bindery.Shell.Redirection
import Bindery.Shell.Run
import Bindery.Shell.Signal
import Bindery.Shell.Source
import Bindery.Shell.State
import Bindery.Shell.Statement
import Bindery.Shell.Stream
import Bindery.SystemError
import Bindery.Text.Alphanumeric
import Bindery.Text.Blank
import Bindery.Text.CaseMap
import Bindery.Text.CharSet
import Bindery.Text.Units
import Bindery.Text.FinalSigma
import Bindery.Text.Layout
import Bindery.Text.Lowercase
import Bindery.Text.Octets
import Bindery.Text.Printable
import Bindery.Text.Quoted
import Bindery.Text.Uppercase
import Bindery.Utility.Arguments
import Bindery.Utility.Attributes
import Bindery.Utility.Awk
import Bindery.Utility.Awk.Evaluation
import Bindery.Utility.Awk.Value
import Bindery.Utility.Awk.Lexer
import Bindery.Utility.Awk.Machine
import Bindery.Utility.Awk.Reader
import Bindery.Utility.Awk.Script
import Bindery.Utility.Basic
import Bindery.Utility.Blocks
import Bindery.Utility.Catalogue
import Bindery.Utility.Characters
import Bindery.Utility.Columns
import Bindery.Utility.Copying
import Bindery.Utility.Counting
import Bindery.Utility.Difference
import Bindery.Utility.Difference.Matching
import Bindery.Utility.Directories
import Bindery.Utility.Display
import Bindery.Utility.Dump
import Bindery.Utility.Errand
import Bindery.Utility.Excerpt
import Bindery.Utility.Expression
import Bindery.Utility.Find
import Bindery.Utility.Find.Expression
import Bindery.Utility.Grep
import Bindery.Utility.Identity
import Bindery.Utility.Launching
import Bindery.Utility.Links
import Bindery.Utility.Listing
import Bindery.Utility.Paragraphs
import Bindery.Utility.Progression
import Bindery.Utility.Quoting
import Bindery.Utility.Sed.Editor
import Bindery.Utility.Sed.Script
import Bindery.Utility.Small
import Bindery.Utility.SortedFiles
import Bindery.Utility.Sorting
import Bindery.Utility.Work
import Bindery.Proofs.Session.Moves
import Bindery.Proofs.Session.RequestIds
import Bindery.Proofs.Session.Completion
import Bindery.Proofs.Lines
import Bindery.Proofs.References
import Bindery.Proofs.Results
import Bindery.Proofs.Definitions
import Bindery.Proofs.File.Paths
import Bindery.Proofs.File.Trees
import Bindery.Proofs.Placement
import Bindery.Proofs.KeptFiles
import Bindery.Proofs.Containment
import Bindery.Proofs.Emission
import Bindery.Proofs.Json.Fields
import Bindery.Proofs.Session.Causes
import Bindery.Proofs.Session.Invariant
import Bindery.Proofs.Session.Outcomes
import Bindery.Proofs.Session.Continuations
import Bindery.Proofs.Session.Cancellation
import Bindery.Proofs.Session.BlockingRuns
import Bindery.Proofs.Session.Conventions
import Bindery.Proofs.Lowercase
import Bindery.Proofs.ModuleIndex
import Bindery.Proofs.Comments
import Bindery.Proofs.Descriptions
import Bindery.Proofs.Literals
import Bindery.Proofs.WireMarks
import Bindery.Proofs.GeneratedLines
import Bindery.Proofs.WireNames
import Bindery.Proofs.Brackets
import Bindery.Proofs.Nesting
import Bindery.Proofs.CamelCase
import Bindery.Proofs.ItemNames
import Bindery.Proofs.DistinctNames
import Bindery.Proofs.Json.Grammar
import Bindery.Proofs.Json.Scalars
import Bindery.Proofs.Json.Content
import Bindery.Proofs.Json.Filling
import Bindery.Proofs.NodeProtocol.RoundTrip
import Bindery.Proofs.Session.Frames
import Bindery.Proofs.Imports
import Bindery.Proofs.Versions
import Bindery.Proofs.Mentions
import Bindery.Proofs.Progress
import Bindery.Proofs.SeveralVersions
import Bindery.Proofs.Stops
import Bindery.Proofs.Session.Responses
import Bindery.Proofs.Session.Deliveries
import Bindery.Proofs.DanglingReferences
import Bindery.Proofs.Interruptions
import Bindery.Proofs.DomainOrder
import Bindery.Proofs.Accounts
import Bindery.Proofs.Merging
import Bindery.Proofs.TableAnswers
import Bindery.Proofs.NumberedNames
import Bindery.Proofs.Constants
import Bindery.Proofs.FieldNames
import Bindery.Proofs.Conversion
import Bindery.Proofs.Indentation
import Bindery.Proofs.LegalNames
import Bindery.Proofs.Session.Submissions
import Bindery.Proofs.SchemaEdits
import Bindery.Proofs.SnakeCase
import Bindery.Proofs.Session.Timeouts
