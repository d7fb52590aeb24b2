import SqlSelect.Text.Blank
import SqlSelect.Text.Case
import SqlSelect.Text.Search
import SqlSelect.Text.Nesting
import SqlSelect.Text.Comment
import SqlSelect.Text.Quoted
import SqlSelect.Text.Bytes
import SqlSelect.Text.Slices
import SqlSelect.Number.Integer
import SqlSelect.Number.Floating
import SqlSelect.Number.Decimal
import SqlSelect.Number.Shortest
import SqlSelect.Value.Calendar
import SqlSelect.Value.Uuid
import SqlSelect.Value.Basic
import SqlSelect.Value.Bundle
import SqlSelect.Value.FromValue
import SqlSelect.Error
import SqlSelect.Query.Comparator
import SqlSelect.Query.Basic
import SqlSelect.Query.Phrase
import SqlSelect.Query.Render
import SqlSelect.Query.Clause
import SqlSelect.Query.JoinText
import SqlSelect.Query.Parser
import SqlSelect.Query.Trace
import SqlSelect.Condition.Comparison
import SqlSelect.Condition.Membership
import SqlSelect.Query.Edit
import SqlSelect.Query.Count
import SqlSelect.Query.Page
import SqlSelect.Query.Stream
import SqlSelect.Query.PageStream
import SqlSelect.Query.KeywordSlices
import SqlSelect.Query.ValueStream
import SqlSelect.Parameters.Name
import SqlSelect.Parameters.Basic
import SqlSelect.Result.Table
import SqlSelect.Result.Binder
import SqlSelect.Runner.Basic
import SqlSelect.Runner.Operation
import SqlSelect.Proofs.Text.Joining
import SqlSelect.Proofs.Text.Spacing
import SqlSelect.Proofs.Text.Words
import SqlSelect.Proofs.Text.Letters
import SqlSelect.Proofs.Text.Nested
import SqlSelect.Proofs.Text.Splitting
import SqlSelect.Proofs.Text.Tidy
import SqlSelect.Proofs.Text.Entries
import SqlSelect.Proofs.Text.Cutting
import SqlSelect.Proofs.Text.Lexing
import SqlSelect.Proofs.Value.NumberText
import SqlSelect.Proofs.Query.Written
import SqlSelect.Proofs.Condition.Precedence
import SqlSelect.Proofs.Condition.Literals
import SqlSelect.Proofs.Query.FilterText
import SqlSelect.Proofs.Query.AddedFilter
import SqlSelect.Proofs.Query.Names
import SqlSelect.Proofs.Query.FieldText
import SqlSelect.Proofs.Query.JoinText
import SqlSelect.Proofs.Query.Segments
import SqlSelect.Proofs.Query.Projection
import SqlSelect.Proofs.Query.PlainShape
import SqlSelect.Proofs.Query.RoundTrip
import SqlSelect.Proofs.Query.Switches
import SqlSelect.Proofs.Query.JoinSwitches
import SqlSelect.Proofs.Query.Reached
import SqlSelect.Proofs.Query.Streaming
import SqlSelect.Proofs.Text.Comments
import SqlSelect.Proofs.Query.FilteredText
import SqlSelect.Proofs.Query.WritingFailure
import SqlSelect.Proofs.Runner.Exchange
import SqlSelect.Proofs.Runner.CallTrace
import SqlSelect.Proofs.Runner.Logging
import SqlSelect.Proofs.Query.ColumnPage
import SqlSelect.Proofs.Query.Termination
import SqlSelect.Proofs.Query.PageParts
import SqlSelect.Proofs.Query.PageTotal
import SqlSelect.Proofs.Condition.Emptiness
import SqlSelect.Proofs.Query.PageFilter
import SqlSelect.Proofs.Query.PageWindow
import SqlSelect.Proofs.Query.IntoTarget
import SqlSelect.Proofs.Query.TemporaryPage
import SqlSelect.Proofs.Query.ShownNames
import SqlSelect.Proofs.Query.PageStreaming
import SqlSelect.Proofs.Query.NestedText
import SqlSelect.Proofs.Text.Pairs
import SqlSelect.Proofs.Query.Unwrapping
import SqlSelect.Proofs.Condition.Combining
import SqlSelect.Proofs.Query.Building
import SqlSelect.Proofs.Query.Identifiers
import SqlSelect.Proofs.Condition.ValueList
import SqlSelect.Proofs.Condition.ComparisonText
import SqlSelect.Proofs.Query.CommentedLines
import SqlSelect.Proofs.Query.JoinPredicate
import SqlSelect.Proofs.Parameters.History
import SqlSelect.Proofs.Text.FirstPlace
import SqlSelect.Proofs.Distinct
import SqlSelect.Proofs.Result.Lookup
import SqlSelect.Proofs.Traversal
import SqlSelect.Proofs.Result.Binding
import SqlSelect.Proofs.Text.Boundaries
import SqlSelect.Proofs.Text.LiteralPieces
import SqlSelect.Proofs.Text.TopLevelCuts
import SqlSelect.Proofs.Text.ByteSearch
import SqlSelect.Proofs.Query.KeywordSearch
import SqlSelect.Proofs.Value.Bundling
