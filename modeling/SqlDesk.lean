import SqlDesk.Batch
import SqlDesk.Batch.Execution
import SqlDesk.Batch.Message
import SqlDesk.Batch.Order
import SqlDesk.Bytes
import SqlDesk.Cell
import SqlDesk.Column
import SqlDesk.Config
import SqlDesk.Config.Toml
import SqlDesk.Config.Toml.Reader
import SqlDesk.Decimal.Binary
import SqlDesk.Decimal.Numeral
import SqlDesk.Decimal.Paired
import SqlDesk.Decimal.Shortest
import SqlDesk.Decimal.Style
import SqlDesk.Desk
import SqlDesk.Desk.Service
import SqlDesk.Event
import SqlDesk.Files
import SqlDesk.Instant
import SqlDesk.Json.Basic
import SqlDesk.Json.Number
import SqlDesk.Json.Printer
import SqlDesk.Json.Reader
import SqlDesk.Json.Record
import SqlDesk.LogFilter
import SqlDesk.Main
import SqlDesk.Options
import SqlDesk.Progress
import SqlDesk.Query
import SqlDesk.Query.Execution
import SqlDesk.Query.Run
import SqlDesk.Regex
import SqlDesk.Regex.Reader
import SqlDesk.ResultSet
import SqlDesk.ResultSet.Export
import SqlDesk.ResultSet.Reading
import SqlDesk.Row.Codec
import SqlDesk.Rpc.Frame
import SqlDesk.Rpc.Message
import SqlDesk.Rpc.Params
import SqlDesk.Rpc.Stream
import SqlDesk.Server
import SqlDesk.Server.Methods
import SqlDesk.Settings
import SqlDesk.Source.Host
import SqlDesk.Source.Message
import SqlDesk.Source.Script
import SqlDesk.Source.Weight
import SqlDesk.Splitting
import SqlDesk.Sql.Address
import SqlDesk.Sql.Answer
import SqlDesk.Sql.Answer.Merge
import SqlDesk.Sql.Answer.Order
import SqlDesk.Sql.Answer.Part
import SqlDesk.Sql.Answer.Selected
import SqlDesk.Sql.Answer.Sorting
import SqlDesk.Sql.Connections
import SqlDesk.Sql.Database
import SqlDesk.Sql.Error
import SqlDesk.Sql.Expression
import SqlDesk.Sql.Expression.Affinity
import SqlDesk.Sql.Expression.Known
import SqlDesk.Sql.Expression.Obstacles
import SqlDesk.Sql.Expression.Reader
import SqlDesk.Sql.Expression.Same
import SqlDesk.Sql.Expression.Scope
import SqlDesk.Sql.Expression.Value
import SqlDesk.Sql.Flow
import SqlDesk.Sql.Function
import SqlDesk.Sql.Modification
import SqlDesk.Sql.Numeral
import SqlDesk.Sql.Path.Choice
import SqlDesk.Sql.Path.Estimate
import SqlDesk.Sql.Path.Fit
import SqlDesk.Sql.Path.Listing
import SqlDesk.Sql.Path.Restriction
import SqlDesk.Sql.Path.Visit
import SqlDesk.Sql.Path.Way
import SqlDesk.Sql.Plan
import SqlDesk.Sql.Plan.Outline
import SqlDesk.Sql.Plan.Passage
import SqlDesk.Sql.Plan.Selection
import SqlDesk.Sql.Plan.Steps
import SqlDesk.Sql.Prepared
import SqlDesk.Sql.Query.Reader
import SqlDesk.Sql.Reader
import SqlDesk.Sql.Statement
import SqlDesk.Sql.Statement.Reader
import SqlDesk.Sql.Submission
import SqlDesk.Sql.Table
import SqlDesk.Sql.TableDefinition.Reader
import SqlDesk.Sql.Token
import SqlDesk.Sql.Value
import SqlDesk.Sql.Value.Affinity
import SqlDesk.Sql.Value.Operation
import SqlDesk.Sql.Value.Order
import SqlDesk.Sql.Value.Pattern
import SqlDesk.Sql.Word
import SqlDesk.Store
import SqlDesk.Text.Alphabetic
import SqlDesk.Text.Alphanumeric
import SqlDesk.Text.Ascii
import SqlDesk.Text.Layout
import SqlDesk.Text.Offset
import SqlDesk.Proofs.Row.RoundTrip
import SqlDesk.Proofs.Store.Contents
import SqlDesk.Proofs.Batch.Turn
import SqlDesk.Proofs.Reading.Turn
import SqlDesk.Proofs.Store.Log
import SqlDesk.Proofs.Batch.Numbering
import SqlDesk.Proofs.Batch.Story
import SqlDesk.Proofs.Query.Course
import SqlDesk.Proofs.Query.Grammar
import SqlDesk.Proofs.Source.Yield
import SqlDesk.Proofs.Reading.Yield
import SqlDesk.Proofs.Batch.Yield
import SqlDesk.Proofs.Query.Undisturbed
import SqlDesk.Proofs.Acts
import SqlDesk.Proofs.Query.Stage
import SqlDesk.Proofs.Query.Cancellation
import SqlDesk.Proofs.Query.Ending
import SqlDesk.Proofs.Source.Notices
import SqlDesk.Proofs.Batch.Bench
import SqlDesk.Proofs.Batch.Tally
import SqlDesk.Proofs.Batch.Log
import SqlDesk.Proofs.Batch.Hearing
import SqlDesk.Proofs.Batch.Account
import SqlDesk.Proofs.Batch.Ledger
import SqlDesk.Proofs.Batch.Policy
import SqlDesk.Proofs.Text.Lines
import SqlDesk.Proofs.Splitting.Separator
import SqlDesk.Proofs.Splitting.Stretch
import SqlDesk.Proofs.Splitting.Lossless
import SqlDesk.Proofs.Rpc.Feeding
import SqlDesk.Proofs.Rpc.Heading
import SqlDesk.Proofs.Rpc.Frames
import SqlDesk.Proofs.Server.Answers
import SqlDesk.Proofs.Batch.Winding
import SqlDesk.Proofs.Query.Disposal
import SqlDesk.Proofs.Query.Life
import SqlDesk.Proofs.Desk.Requests
import SqlDesk.Proofs.Desk.Office
import SqlDesk.Proofs.Desk.Admission
import SqlDesk.Proofs.Desk.Succession
import SqlDesk.Proofs.Server.Hall
import SqlDesk.Proofs.Server.Order
import SqlDesk.Proofs.Server.Turns
import SqlDesk.Proofs.Server.Service
import SqlDesk.Proofs.Server.Delivery
import SqlDesk.Proofs.ResultSet.Csv
import SqlDesk.Proofs.Store.Window
import SqlDesk.Proofs.ResultSet.Export
import SqlDesk.Proofs.Desk.Closing
import SqlDesk.Proofs.Batch.Showing
import SqlDesk.Proofs.Query.Finality
import SqlDesk.Proofs.Batch.Alike
import SqlDesk.Proofs.Query.Transparency
import SqlDesk.Proofs.Text.Numeral
import SqlDesk.Proofs.Json.ReadBack
import SqlDesk.Proofs.Json.Collect
import SqlDesk.Proofs.ResultSet.Objects
import SqlDesk.Proofs.Query.Results
import SqlDesk.Proofs.Desk.Bureau
import SqlDesk.Proofs.Query.Saves
import SqlDesk.Proofs.Desk.Saving
import SqlDesk.Proofs.Query.Calls
import SqlDesk.Proofs.Reading.Trace
import SqlDesk.Proofs.Query.Limits
import SqlDesk.Proofs.Desk.Places
import SqlDesk.Proofs.Desk.Terms
import SqlDesk.Proofs.Query.Separation
import SqlDesk.Proofs.ResultSet.Trees
import SqlDesk.Proofs.Desk.Counter
import SqlDesk.Proofs.Desk.Dealings
import SqlDesk.Proofs.Desk.Bystanders
import SqlDesk.Proofs.Desk.Apart
import SqlDesk.Proofs.Rpc.Kinds
import SqlDesk.Proofs.Rpc.Messages
import SqlDesk.Proofs.Splitting.Lexing
import SqlDesk.Proofs.Splitting.Joining
import SqlDesk.Proofs.ResultSet.Growth
import SqlDesk.Proofs.Query.Gathering
import SqlDesk.Proofs.Query.Readable
import SqlDesk.Proofs.ResultSet.Paging
import SqlDesk.Proofs.ResultSet.Chunks
import SqlDesk.Proofs.ResultSet.Whole
import SqlDesk.Proofs.ResultSet.Refusal
import SqlDesk.Proofs.Rpc.Decoding
import SqlDesk.Proofs.Row.Spelling
import SqlDesk.Proofs.Desk.Declining
import SqlDesk.Proofs.Sql.Comment
import SqlDesk.Proofs.Store.Extents
