import RowAudit.Check.Basic

/-!
# Chains of conditions

The conditions of a rule are checked from left to right without precedence between the connectives:
each connective joins the verdict on everything before it to the next condition, and a condition
that cannot change the verdict is skipped.
-/

namespace RowAudit

/-- A condition of a chain, and what joins it to the next one. -/
structure Link (α : Type) where
  column : String
  check : α
  connective : Connective

/-- Conditions in their order. -/
abbrev Chain (α : Type) := List (Link α)

namespace Chain

/-- Plans the conditions of a rule; the first one that cannot be planned is the problem. -/
def ofConditions (r : Rule) : List ColumnCondition → Except Problem (Chain Check)
  | [] => .ok []
  | c :: rest => do
    let check ← (Draft.ofCondition r c).plan
    let links ← ofConditions r rest
    .ok (⟨c.column, check, c.connective.getD .and⟩ :: links)

/-- Plans the conditions of a rule. -/
def ofRule (r : Rule) : Except Problem (Chain Check) := ofConditions r r.columnConditions

/-- Sets up the checks of a chain. -/
def prepare (ctx : Context) (chain : Chain Check) : Chain Prepared :=
  chain.map fun l => ⟨l.column, l.check.prepare ctx, l.connective⟩

/-- The outcome to report after a condition: a failing condition keeps the first failure since the
last condition that passed, a passing one forgets it. -/
def reported (column : String) (earlier : Option Outcome) (o : Outcome) : Option Outcome :=
  if o.isValid then none
  else some (earlier.getD (o.onColumn (o.column.getD column)))

/-- Goes on along a chain after a condition with a connective, given the verdict so far and the
outcome to report. -/
def judgeFrom (judge : String → Prepared → Audit Outcome) :
    Connective → Bool → Option Outcome → Chain Prepared → Audit Outcome
  | _, running, failure, [] =>
    pure (if running then .pass else failure.getD (.fail "Column conditions not satisfied"))
  | before, running, failure, l :: rest =>
    match before.settled? running with
    | some verdict => judgeFrom judge l.connective verdict failure rest
    | none => do
      let o ← judge l.column l.check
      judgeFrom judge l.connective o.isValid (reported l.column failure o) rest

/-- Checks a row. A chain without conditions passes. -/
def judge (chain : Chain Prepared) (ctx : Context) (row : Row) : Audit Outcome :=
  judgeFrom (fun column p => p.judge column ctx row) .and true none chain

end Chain

end RowAudit
