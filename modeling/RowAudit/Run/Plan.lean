import RowAudit.Check.Chain

/-!
# Plans of rules

The path of a rule says which of its parts decide: the check that its kind names, its conditions on
columns, or its conditions on tables. A `Plan` is what becomes of a rule before the rows are
checked; a rule that cannot be planned has a plan that reports why on every row.
-/

namespace RowAudit

/-- Which parts of a rule decide. -/
inductive Path where
  /-- A date check, which needs a column. -/
  | date
  | columnComparison
  | calculation
  | composite
  | reference
  /-- The conditions on columns. -/
  | chain
  /-- The conditions on tables. -/
  | tables
  /-- The check that the kind names. -/
  | plain
  deriving DecidableEq, Repr

/-- The path of a rule. Date rules, and rules of four other kinds, ignore conditions on columns. -/
def Rule.path (r : Rule) : Path :=
  if r.kind.isDate then .date
  else
    match r.kind with
    | .columnComparison => .columnComparison
    | .mathOperation => .calculation
    | .compositeReference => .composite
    | .referenceIntegrity => .reference
    | _ =>
      if !r.columnConditions.isEmpty then .chain
      else if !r.tableConditions.isEmpty then .tables
      else .plain

/-- What becomes of a rule before the rows are checked. -/
inductive Plan where
  | single (check : Prepared)
  | chain (links : Chain Prepared)
  /-- The rule cannot be planned. -/
  | broken (message : String)

namespace Plan

/-- The message of a rule that cannot be planned. -/
def brokenBy : Problem → Plan
  | .configuration _ message => .broken message
  | p => .broken p.message

/-- Plans a rule, or says why it cannot be planned. -/
def build (ctx : Context) (r : Rule) : Except Problem Plan :=
  match r.path with
  | .chain => (Chain.ofRule r).map fun links => .chain (Chain.prepare ctx links)
  | .tables => .ok (.single ((Check.tableConditions r.tableConditions).prepare ctx))
  | .date =>
    if Text.isBlankText r.column then
      (Draft.ofRule r).fault (r.kind.name ++ " requires a column")
    else (Draft.ofRule r).plan.map fun check => .single (check.prepare ctx)
  | _ => (Draft.ofRule r).plan.map fun check => .single (check.prepare ctx)

/-- The plan of a rule. -/
def ofRule (ctx : Context) (r : Rule) : Plan :=
  match build ctx r with
  | .ok plan => plan
  | .error p => brokenBy p

/-- Checks a row. -/
def judge (plan : Plan) (r : Rule) (ctx : Context) (row : Row) : Audit Outcome :=
  match plan with
  | single check => check.judge r.column ctx row
  | chain links => links.judge ctx row
  | broken message => throw (.configuration r.name message)

end Plan

end RowAudit
