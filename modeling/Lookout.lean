import Lookout.Alert.Chunks
import Lookout.Alert.Delivery
import Lookout.Alert.Markdown
import Lookout.Calendar.Format
import Lookout.Calendar.Moment
import Lookout.Calendar.Reading
import Lookout.Command.Arguments
import Lookout.Command.Help
import Lookout.Command.Similarity
import Lookout.Condition.Evaluation
import Lookout.Condition.Normal
import Lookout.Condition.Truth
import Lookout.Config.Basic
import Lookout.Config.Environment
import Lookout.Config.Fault
import Lookout.Config.Layers
import Lookout.Config.Loading
import Lookout.Config.Path
import Lookout.Config.Reading
import Lookout.Config.Tree
import Lookout.Config.Validation
import Lookout.Config.Writing
import Lookout.Cycle
import Lookout.Decimal.Reading
import Lookout.Decimal.Shortest
import Lookout.Duration
import Lookout.Http.Attempt
import Lookout.Http.Fetch
import Lookout.Http.Request
import Lookout.Http.Status
import Lookout.Json.Reader
import Lookout.Json.Value
import Lookout.Json.Writer
import Lookout.Log.Filter
import Lookout.Log.Line
import Lookout.Main
import Lookout.Panic
import Lookout.Pattern.Machine
import Lookout.Pattern.Syntax
import Lookout.Pipeline.Event
import Lookout.Pipeline.Fanout
import Lookout.Pipeline.Group
import Lookout.Pipeline.Plan
import Lookout.Pipeline.Schedule
import Lookout.Program
import Lookout.Proofs.Condition.Truth
import Lookout.Proofs.Condition.Whole
import Lookout.Proofs.Config.Agreement
import Lookout.Proofs.Config.Files
import Lookout.Proofs.Config.Layering
import Lookout.Proofs.Config.Layers
import Lookout.Proofs.Config.Ordered
import Lookout.Proofs.Config.Overlays
import Lookout.Proofs.Config.Places
import Lookout.Proofs.Config.Settings
import Lookout.Proofs.Config.Sorted
import Lookout.Proofs.Decimal.Text
import Lookout.Proofs.Decimal.Whole
import Lookout.Proofs.Json.Fields
import Lookout.Proofs.Json.Whole
import Lookout.Proofs.Pipeline.Answers
import Lookout.Proofs.Pipeline.Backlog
import Lookout.Proofs.Pipeline.Closing
import Lookout.Proofs.Pipeline.Course
import Lookout.Proofs.Pipeline.Drain
import Lookout.Proofs.Pipeline.Faults
import Lookout.Proofs.Pipeline.Interleaving
import Lookout.Proofs.Pipeline.Lifecycle
import Lookout.Proofs.Pipeline.Matching
import Lookout.Proofs.Pipeline.Messages
import Lookout.Proofs.Pipeline.Neighbours
import Lookout.Proofs.Pipeline.Order
import Lookout.Proofs.Pipeline.Pace
import Lookout.Proofs.Pipeline.Promptness
import Lookout.Proofs.Pipeline.Readiness
import Lookout.Proofs.Pipeline.Realization
import Lookout.Proofs.Pipeline.Refusal
import Lookout.Proofs.Pipeline.Rest
import Lookout.Proofs.Pipeline.Rhythm
import Lookout.Proofs.Pipeline.Scheduled
import Lookout.Proofs.Pipeline.Shutdown
import Lookout.Proofs.Pipeline.Stopping
import Lookout.Proofs.Pipeline.Stories
import Lookout.Proofs.Pipeline.Ticking
import Lookout.Proofs.Pipeline.Turns
import Lookout.Proofs.Pipeline.Views
import Lookout.Proofs.Pipeline.Wakeups
import Lookout.Proofs.Text.Digits
import Lookout.Proofs.Text.Order
import Lookout.Proofs.Text.Utf8
import Lookout.Query
import Lookout.Query.Access
import Lookout.Query.Arithmetic
import Lookout.Query.Calculation
import Lookout.Query.Collections
import Lookout.Query.Document
import Lookout.Query.Failure
import Lookout.Query.Filter
import Lookout.Query.Library
import Lookout.Query.Matching
import Lookout.Query.Numbers
import Lookout.Query.Operation
import Lookout.Query.Run
import Lookout.Query.Stream
import Lookout.Query.Term
import Lookout.Query.Texts
import Lookout.Query.Times
import Lookout.Query.Token
import Lookout.Query.Value
import Lookout.Template
import Lookout.Text.Base64
import Lookout.Text.Blank
import Lookout.Text.Lowercase
import Lookout.Text.Quoted
import Lookout.Text.Utf8
import Lookout.Text.Word
import Lookout.Url.Address
import Lookout.Url.Basic
import Lookout.Url.Domain
import Lookout.Url.Mapping
import Lookout.Url.Parse
import Lookout.Url.Punycode
import Lookout.Yaml.Cursor
import Lookout.Yaml.Node
import Lookout.Yaml.Scalar
import Lookout.Yaml.Token
import Lookout.Proofs.Alert.Chunks
import Lookout.Proofs.Alert.Markdown
import Lookout.Proofs.Config.Commuting
import Lookout.Proofs.Config.AnyOrder
import Lookout.Proofs.Duration
import Lookout.Proofs.Json.Quoted
import Lookout.Proofs.Json.RoundTrip
import Lookout.Proofs.Config.Written
import Lookout.Proofs.Template
import Lookout.Proofs.Pipeline.Outcomes
import Lookout.Proofs.Pipeline.Taking
import Lookout.Proofs.Pipeline.Fanout
import Lookout.Proofs.Url.Base
import Lookout.Proofs.Alert.Delivery
import Lookout.Proofs.Cycle
import Lookout.Proofs.Http.Request
import Lookout.Proofs.Json.Ordered
import Lookout.Proofs.Condition.Outputs
import Lookout.Proofs.Condition.Identity
import Lookout.Proofs.Condition.Grammar
import Lookout.Proofs.Condition.Normal
import Lookout.Proofs.Config.Subscripts
import Lookout.Proofs.Pipeline.Cancelling
