import RowAudit.Aggregation.Memo

/-!
# Formulas over a table

A `Scope` is the table that the aggregations of a formula range over, with the configured
aggregations, to which formulas refer by their label or their call site. `Formula.evaluate`
evaluates a formula on a row, with such a table or without one.
-/

namespace RowAudit

namespace Formula

/-- The table behind a formula. -/
structure Scope where
  name : String
  rows : List Row
  /-- The configured aggregations. -/
  aggregations : List Aggregation
  /-- Whether computed values are remembered. -/
  memoize : Bool

namespace Scope

/-- The configured aggregation with the call site of a given one, or else that one. -/
def configured (s : Scope) (a : Aggregation) : Aggregation :=
  let site := a.callSite
  (s.aggregations.find? fun c => c.callSite == site).getD a

/-- The value of an aggregation as the value of a formula. -/
def evaluated (handling : Aggregation.Handling) : Aggregation.Result → Evaluated
  | .scalar c => .scalar c
  | .grouped groups => .groups (groups.map Aggregation.Group.value) handling

/-- Computes an aggregation over the table. -/
def call (s : Scope) (a : Aggregation) : Run Memo Evaluated := do
  let a := s.configured a
  let result ←
    if s.memoize then Memo.fetch s.name s.rows a
    else
      match a.compute s.rows with
      | .ok r => pure r
      | .error fault => throw fault
  pure (evaluated a.handling result)

/-- What a formula sees on a row. -/
def view (s : Scope) (row : Row) (bound : Option Cell) : View Memo :=
  ⟨row, bound, fun name => s.aggregations.find? fun a => a.label == some name, s.call⟩

end Scope

/-- What a formula sees on a row without a table. -/
def bareView (row : Row) (bound : Option Cell) : View Memo :=
  ⟨row, bound, fun _ => none, fun a => throw (Expr.needsTable a)⟩

/-- The value of a formula on a row. -/
def evaluate (f : Formula) (row : Row) (bound : Option Cell) (scope : Option Scope) :
    Run Memo Evaluated :=
  f.expr.eval <|
    match scope with
    | some s => s.view row bound
    | none => bareView row bound

end Formula

end RowAudit
