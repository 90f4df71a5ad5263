import PromptChart.Analyst
import PromptChart.Arithmetic
import PromptChart.Binary64.Arithmetic
import PromptChart.Binary64.Basic
import PromptChart.Calendar.Date
import PromptChart.Catalog.Basic
import PromptChart.Catalog.Freight
import PromptChart.Catalog.Reader
import PromptChart.Catalog.Resolve
import PromptChart.Chart.Basic
import PromptChart.Chart.Describe
import PromptChart.Chart.Material
import PromptChart.Chart.Own
import PromptChart.Chart.Service
import PromptChart.Decimal.Basic
import PromptChart.Decimal.Cents
import PromptChart.Decimal.Notation
import PromptChart.Decimal.Numeral
import PromptChart.Decimal.Shortest
import PromptChart.Demo.Draw
import PromptChart.Demo.Tables
import PromptChart.Entries
import PromptChart.Execute.FanOut
import PromptChart.Execute.Plan
import PromptChart.Execute.Run
import PromptChart.Failure
import PromptChart.Json.Access
import PromptChart.Json.Basic
import PromptChart.Json.Display
import PromptChart.Json.Number
import PromptChart.Json.Reader
import PromptChart.Json.Writer
import PromptChart.Merge.Merger
import PromptChart.Merge.Pivot
import PromptChart.Order.Insertion
import PromptChart.Prompt.Classify
import PromptChart.Prompt.Intent
import PromptChart.Prompt.Keywords
import PromptChart.Proofs.Analyst.Answerable
import PromptChart.Proofs.Analyst.Charts
import PromptChart.Proofs.Analyst.Executable
import PromptChart.Proofs.Analyst.Filters
import PromptChart.Proofs.Analyst.Grouping
import PromptChart.Proofs.Analyst.Isolation
import PromptChart.Proofs.Analyst.PassedOn
import PromptChart.Proofs.Analyst.Reported
import PromptChart.Proofs.Analyst.Requests
import PromptChart.Proofs.Analyst.Routing
import PromptChart.Proofs.Analyst.Status
import PromptChart.Proofs.Analyst.Window
import PromptChart.Proofs.Arithmetic.Rational
import PromptChart.Proofs.Binary64.Cents
import PromptChart.Proofs.Binary64.Index
import PromptChart.Proofs.Binary64.Integer
import PromptChart.Proofs.Binary64.Monotone
import PromptChart.Proofs.Binary64.Nearest
import PromptChart.Proofs.Binary64.Projection
import PromptChart.Proofs.Binary64.Rank
import PromptChart.Proofs.Calendar.Date
import PromptChart.Proofs.Calendar.Order
import PromptChart.Proofs.Catalog.Aliases
import PromptChart.Proofs.Catalog.Mapped
import PromptChart.Proofs.Catalog.Names
import PromptChart.Proofs.Catalog.Products
import PromptChart.Proofs.Chart.Axes
import PromptChart.Proofs.Chart.Redacted
import PromptChart.Proofs.Chart.Visualized
import PromptChart.Proofs.Decimal.Grid
import PromptChart.Proofs.Decimal.Shortest
import PromptChart.Proofs.Entries
import PromptChart.Proofs.Execute.Average
import PromptChart.Proofs.Execute.Comparison
import PromptChart.Proofs.Execute.DrillDown
import PromptChart.Proofs.Execute.Exact
import PromptChart.Proofs.Execute.Failure
import PromptChart.Proofs.Execute.FanOut
import PromptChart.Proofs.Execute.Plan
import PromptChart.Proofs.Execute.Raw
import PromptChart.Proofs.Execute.Relabelled
import PromptChart.Proofs.Execute.Repeated
import PromptChart.Proofs.Execute.Skipped
import PromptChart.Proofs.Execute.Tables
import PromptChart.Proofs.Execute.Window
import PromptChart.Proofs.Json.Display
import PromptChart.Proofs.Json.Escaped
import PromptChart.Proofs.Json.Reader
import PromptChart.Proofs.Json.RoundTrip
import PromptChart.Proofs.Json.WrittenNumber
import PromptChart.Proofs.Merge.Batch
import PromptChart.Proofs.Merge.Calls
import PromptChart.Proofs.Merge.Combine
import PromptChart.Proofs.Merge.Formula
import PromptChart.Proofs.Merge.Integer
import PromptChart.Proofs.Merge.Keyed
import PromptChart.Proofs.Merge.Permutation
import PromptChart.Proofs.Merge.Pivot
import PromptChart.Proofs.Merge.ReadBack
import PromptChart.Proofs.Merge.Refused
import PromptChart.Proofs.Merge.Repeated
import PromptChart.Proofs.Merge.Valued
import PromptChart.Proofs.Merge.Weighted
import PromptChart.Proofs.Order.Stable
import PromptChart.Proofs.Outcome
import PromptChart.Proofs.Prompt.Accepted
import PromptChart.Proofs.Prompt.Aggregation
import PromptChart.Proofs.Prompt.Dimensions
import PromptChart.Proofs.Prompt.Hints
import PromptChart.Proofs.Prompt.Overlap
import PromptChart.Proofs.Prompt.Places
import PromptChart.Proofs.Prompt.Products
import PromptChart.Proofs.Prompt.Respaced
import PromptChart.Proofs.Prompt.Rules
import PromptChart.Proofs.Prompt.Templates
import PromptChart.Proofs.Reasoning.Question
import PromptChart.Proofs.Reasoning.Reply
import PromptChart.Proofs.Regex.Blind
import PromptChart.Proofs.Regex.Captures
import PromptChart.Proofs.Regex.Preferred
import PromptChart.Proofs.Regex.Respaced
import PromptChart.Proofs.Regex.Scans
import PromptChart.Proofs.Regex.Takes
import PromptChart.Proofs.Session.Desk
import PromptChart.Proofs.Session.Invariant
import PromptChart.Proofs.Session.Supersession
import PromptChart.Proofs.Store.Averages
import PromptChart.Proofs.Store.Counts
import PromptChart.Proofs.Store.Filtering
import PromptChart.Proofs.Store.Groups
import PromptChart.Proofs.Store.Integers
import PromptChart.Proofs.Store.Layers
import PromptChart.Proofs.Store.Parts
import PromptChart.Proofs.Store.Payload
import PromptChart.Proofs.Store.Ranking
import PromptChart.Proofs.Store.Reading
import PromptChart.Proofs.Store.Scoped
import PromptChart.Proofs.Store.Selection
import PromptChart.Proofs.Store.Sql.Binding
import PromptChart.Proofs.Store.Sql.Compile
import PromptChart.Proofs.Store.Sql.Pattern
import PromptChart.Proofs.Store.Sql.Text
import PromptChart.Proofs.Store.Sql.Transaction
import PromptChart.Proofs.Store.Window
import PromptChart.Proofs.Text.Blank
import PromptChart.Proofs.Text.Lower
import PromptChart.Proofs.Text.Lowered
import PromptChart.Proofs.Text.Plain
import PromptChart.Proofs.Text.Respaced
import PromptChart.Proofs.Text.Runs
import PromptChart.Proofs.Text.Words
import PromptChart.Proofs.Trace.Alike
import PromptChart.Proofs.Trace.Clause
import PromptChart.Proofs.Trace.Drawn
import PromptChart.Proofs.Trace.Gathered
import PromptChart.Proofs.Trace.Queried
import PromptChart.Proofs.Trace.Quoted
import PromptChart.Proofs.Trace.ReadBack
import PromptChart.Proofs.Validation.Checked
import PromptChart.Proofs.Validation.Row
import PromptChart.Proofs.Web.Bounds
import PromptChart.Proofs.Web.Resolve
import PromptChart.Query.Aggregation
import PromptChart.Query.Request
import PromptChart.Query.Scope
import PromptChart.Reasoning.Basic
import PromptChart.Reasoning.Question
import PromptChart.Reasoning.Service
import PromptChart.Regex.Basic
import PromptChart.Regex.Search
import PromptChart.Remote.Post
import PromptChart.Session.Basic
import PromptChart.Session.Desk
import PromptChart.Settings
import PromptChart.Store.Memory
import PromptChart.Store.Payload
import PromptChart.Store.Remote
import PromptChart.Store.Sql.Query
import PromptChart.Store.Sql.Store
import PromptChart.Store.Sql.Transaction
import PromptChart.Text.Case
import PromptChart.Text.CaseMap
import PromptChart.Text.Cased
import PromptChart.Text.Class
import PromptChart.Text.Printable
import PromptChart.Text.Quoted
import PromptChart.Text.Search
import PromptChart.Text.Word
import PromptChart.Trace.Reader
import PromptChart.Trace.Step
import PromptChart.Validation.Chart
import PromptChart.Validation.Checked
import PromptChart.Validation.Date
import PromptChart.Validation.Issue
import PromptChart.Validation.Query
import PromptChart.Validation.Scalar
import PromptChart.Web.Basic
import PromptChart.Web.Form
import PromptChart.Web.Service
