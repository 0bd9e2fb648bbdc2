import RowAudit.Aggregation.Basic
import RowAudit.Aggregation.CallSite
import RowAudit.Aggregation.Compute
import RowAudit.Aggregation.Function
import RowAudit.Aggregation.Memo
import RowAudit.Cell.Basic
import RowAudit.Cell.Comparison
import RowAudit.Check.Basic
import RowAudit.Check.Chain
import RowAudit.Check.Columns
import RowAudit.Check.Context
import RowAudit.Check.Draft
import RowAudit.Check.Formula
import RowAudit.Check.Interval
import RowAudit.Check.Limit
import RowAudit.Check.Membership
import RowAudit.Check.Outcome
import RowAudit.Check.Presence
import RowAudit.Check.Spelling
import RowAudit.Columnar
import RowAudit.Fields
import RowAudit.Finding.Basic
import RowAudit.Finding.Buffer
import RowAudit.Formula.Eval
import RowAudit.Formula.Evaluated
import RowAudit.Formula.Expr
import RowAudit.Formula.Fault
import RowAudit.Formula.Parser
import RowAudit.Formula.Scope
import RowAudit.Formula.Token
import RowAudit.Formula.Token.Scan
import RowAudit.Json.Basic
import RowAudit.Json.Decode
import RowAudit.Json.Document
import RowAudit.Json.Misfit
import RowAudit.Json.Numeral
import RowAudit.Moment.Basic
import RowAudit.Moment.Layout
import RowAudit.Moment.Reader
import RowAudit.Number.Exact
import RowAudit.Number.Reader
import RowAudit.Number.Shortest
import RowAudit.Number.Text
import RowAudit.Pattern.Basic
import RowAudit.Pattern.CharSet
import RowAudit.Pattern.Expr
import RowAudit.Pattern.Fault
import RowAudit.Pattern.Meaning
import RowAudit.Pattern.Property
import RowAudit.Pattern.Property.Binary
import RowAudit.Pattern.Property.Boundary
import RowAudit.Pattern.Property.Category
import RowAudit.Pattern.Reader
import RowAudit.Pattern.Tree
import RowAudit.Pattern.Weight
import RowAudit.Problem
import RowAudit.Proofs.Buffer
import RowAudit.Proofs.Finding.Merging
import RowAudit.Proofs.Check.Calls
import RowAudit.Proofs.Formula.Agreement
import RowAudit.Proofs.Formula.Grammar
import RowAudit.Proofs.Formula.Steps
import RowAudit.Proofs.Run.Blocks
import RowAudit.Proofs.Run.Findings
import RowAudit.Proofs.Run.Pool
import RowAudit.Report
import RowAudit.Rule.Basic
import RowAudit.Rule.Connective
import RowAudit.Rule.Kind
import RowAudit.Rule.Severity
import RowAudit.Run.Basic
import RowAudit.Run.Plan
import RowAudit.Run.Settings
import RowAudit.Store
import RowAudit.Table
import RowAudit.Text.Basic
import RowAudit.Text.Case
import RowAudit.Text.Class
import RowAudit.Text.Span
import RowAudit.Text.Table.Ages
import RowAudit.Text.Table.Boundaries
import RowAudit.Text.Table.Cases
import RowAudit.Text.Table.Letters
import RowAudit.Text.Table.Marks
import RowAudit.Text.Table.Properties
import RowAudit.Text.Table.Recent
import RowAudit.Text.Table.Scripts
import RowAudit.Text.Table.SharedScripts
import RowAudit.Text.Table.Signs
import RowAudit.Proofs.Basic
import RowAudit.Proofs.Formula.Soundness
import RowAudit.Proofs.Formula.Completeness
import RowAudit.Proofs.Aggregation.CallSite
import RowAudit.Proofs.Aggregation.Memo
import RowAudit.Proofs.Run.Memoizing
import RowAudit.Proofs.Formula.Sandbox
import RowAudit.Proofs.Formula.Scanning
import RowAudit.Proofs.Formula.Phrase
import RowAudit.Proofs.Aggregation.ReadingBack
import RowAudit.Proofs.Number.Bits
import RowAudit.Proofs.Number.Rounding
import RowAudit.Proofs.Number.Nearest
import RowAudit.Proofs.Number.ReadingBack
import RowAudit.Proofs.Moment.ReadingBack
import RowAudit.Proofs.Cell.Keys
import RowAudit.Proofs.Aggregation.Conditions
import RowAudit.Proofs.Cell.Order
import RowAudit.Proofs.Cell.ReadingBack
import RowAudit.Proofs.Check.Chain
import RowAudit.Proofs.Check.Lookup
import RowAudit.Proofs.Json.Reading
import RowAudit.Proofs.Run.ReadingBack
import RowAudit.Proofs.Aggregation.Grouping
import RowAudit.Proofs.Formula.Answers
import RowAudit.Proofs.Formula.GroupedOperands
import RowAudit.Proofs.Formula.Labels
import RowAudit.Proofs.Store.History
import RowAudit.Proofs.Store.Clones
import RowAudit.Proofs.Aggregation.Callers
import RowAudit.Proofs.Formula.ColumnAccess
import RowAudit.Proofs.Number.Range
import RowAudit.Proofs.Aggregation.Overflow
import RowAudit.Proofs.Formula.Overflow
import RowAudit.Proofs.Check.Overflow
import RowAudit.Proofs.Formula.Columns
import RowAudit.Proofs.Cell.Transitivity
import RowAudit.Proofs.Aggregation.Extremes
import RowAudit.Proofs.Aggregation.RowOrder
import RowAudit.Proofs.Check.Equality
import RowAudit.Proofs.Formula.Absence
import RowAudit.Proofs.Check.Intervals
import RowAudit.Proofs.Text.Lowering
import RowAudit.Proofs.Check.Containment
import RowAudit.Proofs.Cell.Moments
import RowAudit.Proofs.Formula.Separation
import RowAudit.Proofs.Formula.Faults
import RowAudit.Proofs.Formula.Positions
import RowAudit.Proofs.Formula.Loops
import RowAudit.Proofs.Formula.Size
import RowAudit.Proofs.Finding.Holding
import RowAudit.Proofs.Moment.Patterns
import RowAudit.Proofs.Text.Cutting
import RowAudit.Proofs.Columnar.Loading
