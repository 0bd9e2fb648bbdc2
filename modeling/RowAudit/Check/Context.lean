import RowAudit.Problem
import RowAudit.Aggregation.Memo

/-!
# What a check sees

A check looks at one row at a time. Everything else that it may look at is the same for all rows of
a table and stands in the `Context`. An `Audit` is a computation in this setting: it may fail with a
problem, and it carries the memo of aggregations, which survives problems.
-/

namespace RowAudit

/-- What a check sees besides the row. -/
structure Context where
  /-- The name of the rule. -/
  rule : String
  table : Table
  datasets : Datasets
  lists : List ValueList
  /-- Whether moments are always compared with the time of day. -/
  timeAware : Bool
  /-- Whether aggregations are remembered. -/
  memoize : Bool
  /-- The present moment. -/
  now : Moment

namespace Context

/-- Fails because of the rule. -/
def fault {α : Type} (ctx : Context) (message : String) : Except Problem α :=
  .error (.configuration ctx.rule message)

/-- The precision of a check that may ask for times of day itself. -/
def precision (ctx : Context) (timeAware : Bool) : Precision :=
  .ofTimeAware (timeAware || ctx.timeAware)

end Context

/-- A computation that carries the memo of aggregations. -/
abbrev Audit (α : Type) := ExceptT Problem (StateM Memo) α

namespace Audit

/-- A computation without state. -/
def ofExcept {α : Type} (x : Except Problem α) : Audit α := ExceptT.mk (pure x)

/-- The evaluation of a formula. -/
def ofRun {α : Type} (r : Formula.Run Memo α) : Audit α :=
  ExceptT.mk do
    match ← r.run with
    | .ok a => pure (.ok a)
    | .error fault => pure (.error (.evaluation fault))

end Audit

end RowAudit
