import LogSearch.Assembly
import LogSearch.Backend.Remote
import LogSearch.Call.Parts
import LogSearch.Call.Signature
import LogSearch.CommandLine.Arguments
import LogSearch.CommandLine.Command
import LogSearch.CommandLine.Request
import LogSearch.CommandLine.Run
import LogSearch.Decimal.Binary64
import LogSearch.Decimal.Nearest
import LogSearch.Decimal.Reader
import LogSearch.Decimal.Rounding
import LogSearch.Decimal.Shortest
import LogSearch.Decoration.Builtin
import LogSearch.Decoration.Chain
import LogSearch.Decoration.Config
import LogSearch.Decoration.Template
import LogSearch.Failure
import LogSearch.Fault
import LogSearch.FieldType.Mapping
import LogSearch.FieldType.Table
import LogSearch.Files.Path
import LogSearch.Files.Tree
import LogSearch.Flow
import LogSearch.Host
import LogSearch.Http
import LogSearch.IndexScope
import LogSearch.Json.Encoded
import LogSearch.Json.Reader
import LogSearch.Json.Writer
import LogSearch.Main
import LogSearch.Message.Hit
import LogSearch.Message.Response
import LogSearch.Query.Body
import LogSearch.Query.Build
import LogSearch.Registry
import LogSearch.Service
import LogSearch.Settings
import LogSearch.Settings.EnvFile
import LogSearch.Settings.Reading
import LogSearch.Setup
import LogSearch.Sort.Clause
import LogSearch.Sort.Normalize
import LogSearch.Sort.Order
import LogSearch.Sort.Written
import LogSearch.Spec
import LogSearch.Text.Blank
import LogSearch.Text.Digit
import LogSearch.Text.Encoding
import LogSearch.Text.Integer
import LogSearch.Text.Lines
import LogSearch.Text.Printable
import LogSearch.Text.Quoted
import LogSearch.Text.Unpaired
import LogSearch.Time.Calendar
import LogSearch.Time.DateTime
import LogSearch.Time.Epoch
import LogSearch.Time.Iso
import LogSearch.Time.Range
import LogSearch.Time.Stamp
import LogSearch.Value.Access
import LogSearch.Value.Basic
import LogSearch.Value.Equal
import LogSearch.Value.Hash
import LogSearch.Value.Literal
import LogSearch.Value.Runs
import LogSearch.Value.Sorted
import LogSearch.Proofs.Assembly
import LogSearch.Proofs.Message.Reading
import LogSearch.Proofs.Json.Fuel
import LogSearch.Proofs.Json.Reader
import LogSearch.Proofs.Sort.Comparison
import LogSearch.Proofs.Backend.Remote
import LogSearch.Proofs.IndexScope
import LogSearch.Proofs.Query.Build
import LogSearch.Proofs.Search
import LogSearch.Proofs.Query.Body
import LogSearch.Proofs.Sort.Requests
import LogSearch.Proofs.Query.Lookup
import LogSearch.Proofs.Decoration.Sequence
import LogSearch.Proofs.Decoration.Writer
import LogSearch.Proofs.Decoration.Builtin
import LogSearch.Proofs.Decoration.Failures
import LogSearch.Proofs.Backend.Refusal
import LogSearch.Proofs.FieldType.Mapping
import LogSearch.Proofs.Search.Requests
import LogSearch.Proofs.Search.Collaborators
import LogSearch.Proofs.Text.Digit
import LogSearch.Proofs.Time.Calendar
import LogSearch.Proofs.Time.Iso
import LogSearch.Proofs.Message.Times
import LogSearch.Proofs.Message.Highlights
import LogSearch.Proofs.FieldType.Table
import LogSearch.Proofs.Failure
import LogSearch.Proofs.Flow.Outcome
import LogSearch.Proofs.Search.Streams
import LogSearch.Proofs.CommandLine.Arguments
import LogSearch.Proofs.Registry
import LogSearch.Proofs.Setup
import LogSearch.Proofs.CommandLine.Surroundings
import LogSearch.Proofs.CommandLine.Request
import LogSearch.Proofs.Message.Written
import LogSearch.Proofs.Backend.Outcome
import LogSearch.Proofs.Search.Told
import LogSearch.Proofs.CommandLine.Search
import LogSearch.Proofs.CommandLine.Outcome
import LogSearch.Proofs.Time.Milliseconds
import LogSearch.Proofs.Query.TimeFilter
import LogSearch.Proofs.Decoration.Frame
import LogSearch.Proofs.Decoration.Alone
import LogSearch.Proofs.Registry.Coherent
import LogSearch.Proofs.Setup.Reconfigured
import LogSearch.Proofs.Sort.Idempotence
import LogSearch.Proofs.Query.SequenceType
import LogSearch.Proofs.Text.Order
import LogSearch.Proofs.Time.Order
import LogSearch.Proofs.Text.Shape
import LogSearch.Proofs.Query.TimeFormat
import LogSearch.Proofs.Time.Written
import LogSearch.Proofs.Time.Numeral
import LogSearch.Proofs.Message.TimeText
import LogSearch.Proofs.Decimal.Lowest
import LogSearch.Proofs.Value.Keys
import LogSearch.Proofs.Decoration.Template
import LogSearch.Proofs.Decoration.Reads
import LogSearch.Proofs.Decoration.Commutation
import LogSearch.Proofs.Text.Integer
import LogSearch.Proofs.Value.Integer
import LogSearch.Proofs.Decoration.Severity
import LogSearch.Proofs.Decoration.Repetition
import LogSearch.Proofs.FieldType.Agreement
import LogSearch.Proofs.Message.Idempotence
import LogSearch.Proofs.Time.Range
import LogSearch.Proofs.Query.TimeRange
import LogSearch.Proofs.Value.Records
import LogSearch.Proofs.Query.Rendering
import LogSearch.Proofs.Sort.Written
import LogSearch.Proofs.CommandLine.Readiness
import LogSearch.Proofs.Decimal.Nearest
import LogSearch.Proofs.Message.EpochTime
import LogSearch.Proofs.Json.Data
import LogSearch.Proofs.Assembly.Data
import LogSearch.Proofs.IndexScope.Union
import LogSearch.Proofs.Registry.Watched
import LogSearch.Proofs.Registry.History
import LogSearch.Proofs.Registry.Parts
