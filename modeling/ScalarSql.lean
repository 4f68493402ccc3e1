import ScalarSql.AdaptiveSort
import ScalarSql.Aggregate.Accumulator
import ScalarSql.Aggregate.Basic
import ScalarSql.Aggregate.Grouping
import ScalarSql.Catalog
import ScalarSql.Columnar.Basic
import ScalarSql.Columnar.Encoding
import ScalarSql.Columnar.Grid
import ScalarSql.Config
import ScalarSql.DataType
import ScalarSql.Decimal.Arithmetic
import ScalarSql.Decimal.Basic
import ScalarSql.Decimal.Conversion
import ScalarSql.Decimal.Text
import ScalarSql.Document.Expr
import ScalarSql.Document.Plan
import ScalarSql.Document.Type
import ScalarSql.Document.Value
import ScalarSql.Double.Arithmetic
import ScalarSql.Double.Basic
import ScalarSql.Double.Reading
import ScalarSql.Double.Shortest
import ScalarSql.Error
import ScalarSql.Expr.Basic
import ScalarSql.Expr.Coercion
import ScalarSql.Expr.Evaluation
import ScalarSql.Expr.OfTerm
import ScalarSql.Expr.Resolution
import ScalarSql.Function.Builtin
import ScalarSql.Function.Callable
import ScalarSql.Function.Description
import ScalarSql.Function.HostType
import ScalarSql.Function.Registry
import ScalarSql.Function.Signature
import ScalarSql.Json.Access
import ScalarSql.Json.Basic
import ScalarSql.Json.Conversion
import ScalarSql.Json.Reading
import ScalarSql.Number.BoundedInt
import ScalarSql.Number.Digits
import ScalarSql.Number.Natural
import ScalarSql.Operator
import ScalarSql.Parser
import ScalarSql.Plan.Analysis
import ScalarSql.Plan.Basic
import ScalarSql.Plan.Execution
import ScalarSql.Plan.OfQuery
import ScalarSql.Plan.Rewrite
import ScalarSql.Proofs.AdaptiveSort
import ScalarSql.Proofs.AdaptiveSort.Mapping
import ScalarSql.Proofs.AdaptiveSort.Merging
import ScalarSql.Proofs.AdaptiveSort.Runs
import ScalarSql.Proofs.AdaptiveSort.Small
import ScalarSql.Proofs.Aggregate.Counting
import ScalarSql.Proofs.Aggregate.Covering
import ScalarSql.Proofs.Aggregate.EqualKeys
import ScalarSql.Proofs.Aggregate.Extremes
import ScalarSql.Proofs.Aggregate.FailedUpdates
import ScalarSql.Proofs.Aggregate.Grouping
import ScalarSql.Proofs.Aggregate.Groups
import ScalarSql.Proofs.Aggregate.Sums
import ScalarSql.Proofs.Aggregate.Typing
import ScalarSql.Proofs.Catalog
import ScalarSql.Proofs.Columnar.Acceptance
import ScalarSql.Proofs.Columnar.Decimal
import ScalarSql.Proofs.Columnar.Places
import ScalarSql.Proofs.Columnar.RoundTrip
import ScalarSql.Proofs.Columnar.Rounding
import ScalarSql.Proofs.Columnar.Scanning
import ScalarSql.Proofs.Columnar.Types
import ScalarSql.Proofs.Computation
import ScalarSql.Proofs.DataType
import ScalarSql.Proofs.Expr.Aggregates
import ScalarSql.Proofs.Expr.Agreement
import ScalarSql.Proofs.Expr.Calls
import ScalarSql.Proofs.Expr.Coercion
import ScalarSql.Proofs.Expr.Columns
import ScalarSql.Proofs.Expr.Constants
import ScalarSql.Proofs.Expr.Failure
import ScalarSql.Proofs.Expr.Identity
import ScalarSql.Proofs.Expr.Induction
import ScalarSql.Proofs.Expr.Invocations
import ScalarSql.Proofs.Expr.Legible
import ScalarSql.Proofs.Expr.LetterCase
import ScalarSql.Proofs.Expr.Names
import ScalarSql.Proofs.Expr.Narrowing
import ScalarSql.Proofs.Expr.Normalization
import ScalarSql.Proofs.Expr.Numbers
import ScalarSql.Proofs.Expr.Operands
import ScalarSql.Proofs.Expr.Overloads
import ScalarSql.Proofs.Expr.ParameterTypes
import ScalarSql.Proofs.Expr.Paths
import ScalarSql.Proofs.Expr.Pieces
import ScalarSql.Proofs.Expr.Qualifiers
import ScalarSql.Proofs.Expr.Rank
import ScalarSql.Proofs.Expr.Resolution
import ScalarSql.Proofs.Expr.Respelling
import ScalarSql.Proofs.Expr.Rewriting
import ScalarSql.Proofs.Expr.Spelling
import ScalarSql.Proofs.Expr.Typing
import ScalarSql.Proofs.Function.HostType
import ScalarSql.Proofs.Function.Listing
import ScalarSql.Proofs.Function.Registry
import ScalarSql.Proofs.Function.Signature
import ScalarSql.Proofs.Function.Substring
import ScalarSql.Proofs.Function.Typed
import ScalarSql.Proofs.Function.WrittenForm
import ScalarSql.Proofs.Number.BoundedInt
import ScalarSql.Proofs.Plan.Agreement
import ScalarSql.Proofs.Plan.Aliases
import ScalarSql.Proofs.Plan.Batching
import ScalarSql.Proofs.Plan.Invocations
import ScalarSql.Proofs.Plan.Operators
import ScalarSql.Proofs.Plan.Order
import ScalarSql.Proofs.Plan.Policies
import ScalarSql.Proofs.Plan.Preservation
import ScalarSql.Proofs.Plan.Reanalysis
import ScalarSql.Proofs.Plan.References
import ScalarSql.Proofs.Plan.RegisteredCalls
import ScalarSql.Proofs.Plan.ResolvedCalls
import ScalarSql.Proofs.Plan.RespelledGrouping
import ScalarSql.Proofs.Plan.RespelledOrder
import ScalarSql.Proofs.Plan.RespelledSelect
import ScalarSql.Proofs.Plan.Respelling
import ScalarSql.Proofs.Plan.Rewriting
import ScalarSql.Proofs.Plan.Rows
import ScalarSql.Proofs.Plan.SameMatches
import ScalarSql.Proofs.Plan.Select
import ScalarSql.Proofs.Plan.SharedAggregates
import ScalarSql.Proofs.Plan.SortKeys
import ScalarSql.Proofs.Plan.SortOrder
import ScalarSql.Proofs.Plan.SortedProjection
import ScalarSql.Proofs.Plan.Sorting
import ScalarSql.Proofs.Plan.Soundness
import ScalarSql.Proofs.Plan.Typing
import ScalarSql.Proofs.Session
import ScalarSql.Proofs.Session.Distinct
import ScalarSql.Proofs.Session.Groupings
import ScalarSql.Proofs.Session.LetterCase
import ScalarSql.Proofs.Session.OrderBy
import ScalarSql.Proofs.Session.Settling
import ScalarSql.Proofs.Session.SortKeys
import ScalarSql.Proofs.Session.Star
import ScalarSql.Proofs.StableSort
import ScalarSql.Proofs.SucceedAlike
import ScalarSql.Proofs.Syntax.Distinct
import ScalarSql.Proofs.Syntax.LetterCase
import ScalarSql.Proofs.Text.LetterCase
import ScalarSql.Proofs.Value.Conversion
import ScalarSql.Proofs.Value.Exchange
import ScalarSql.Proofs.Value.Fields
import ScalarSql.Proofs.Value.Hashing
import ScalarSql.Proofs.Value.Integers
import ScalarSql.Proofs.Value.Keys
import ScalarSql.Proofs.Value.Order
import ScalarSql.Proofs.Value.Reading
import ScalarSql.Proofs.Value.Sorting
import ScalarSql.Proofs.Value.Text
import ScalarSql.Proofs.Value.Typing
import ScalarSql.QueryResult
import ScalarSql.Schema
import ScalarSql.Session
import ScalarSql.StableSort
import ScalarSql.Syntax.Alteration
import ScalarSql.Syntax.BinaryOperator
import ScalarSql.Syntax.Call
import ScalarSql.Syntax.Column
import ScalarSql.Syntax.Command
import ScalarSql.Syntax.Definition
import ScalarSql.Syntax.From
import ScalarSql.Syntax.Interval
import ScalarSql.Syntax.Keyword
import ScalarSql.Syntax.Merging
import ScalarSql.Syntax.Modification
import ScalarSql.Syntax.Phrase
import ScalarSql.Syntax.Query
import ScalarSql.Syntax.Quoted
import ScalarSql.Syntax.RowPattern
import ScalarSql.Syntax.Select
import ScalarSql.Syntax.SpecialForm
import ScalarSql.Syntax.Statement
import ScalarSql.Syntax.TableForm
import ScalarSql.Syntax.Term
import ScalarSql.Syntax.Token
import ScalarSql.Syntax.Tree
import ScalarSql.Syntax.TypeName
import ScalarSql.Text.Case
import ScalarSql.Text.CaseRuns
import ScalarSql.Text.Escaped
import ScalarSql.Text.Letter
import ScalarSql.Text.LetterRanges
import ScalarSql.Text.Width
import ScalarSql.Text.WidthRanges
import ScalarSql.Value.Arithmetic
import ScalarSql.Value.Basic
import ScalarSql.Value.Cast
import ScalarSql.Value.Order
