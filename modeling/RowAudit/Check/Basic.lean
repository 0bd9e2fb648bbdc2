import RowAudit.Check.Presence
import RowAudit.Check.Interval
import RowAudit.Check.Columns
import RowAudit.Check.Formula
import RowAudit.Check.Membership
import RowAudit.Check.Spelling

/-!
# Checks

A `Check` is a rule, or a condition of one, whose parameters have been read. `Draft.plan` makes it
from a draft. Before the rows of a table are checked, `Check.prepare` sets up what a check needs
from other tables; `Prepared.judge` then checks one row.
-/

namespace RowAudit

/-- A check whose parameters have been read. -/
inductive Check where
  | required
  | valueLimit (check : ValueLimit)
  | numberInterval (check : NumberInterval)
  | pattern (check : PatternCheck)
  | dataType (check : DataType)
  | oneOf (check : OneOf)
  | listed (check : Listed)
  | contains (check : Contains)
  | custom (check : CustomFormula)
  | dependency (check : Dependency)
  | dateBound (check : DateBound)
  | dateInterval (check : DateInterval)
  | dateSpelling (check : DateSpelling)
  | columnComparison (check : ColumnComparison)
  | calculation (check : CalculationCheck)
  | composite (check : CompositeReference)
  | reference (check : Reference)
  | tableFormula (check : TableFormula)
  | rowFormula (check : RowFormula)
  | tableConditions (conditions : List TableCondition)

/-- Plans the check that a draft describes. -/
def Draft.plan (d : Draft) : Except Problem Check :=
  match d.kind with
  | .required => .ok .required
  | .equals => (ValueLimit.plan d .equal false).map .valueLimit
  | .notEquals => (ValueLimit.plan d .notEqual false).map .valueLimit
  | .greaterThan => (ValueLimit.plan d .greater true).map .valueLimit
  | .greaterThanEquals => (ValueLimit.plan d .atLeast true).map .valueLimit
  | .lessThan => (ValueLimit.plan d .less true).map .valueLimit
  | .lessThanEquals => (ValueLimit.plan d .atMost true).map .valueLimit
  | .range => (NumberInterval.plan d).map .numberInterval
  | .regex => (PatternCheck.plan d).map .pattern
  | .dataType => (DataType.plan d).map .dataType
  | .oneOf => (OneOf.plan d).map .oneOf
  | .list => (Listed.plan d).map .listed
  | .contains => (Contains.plan d).map .contains
  | .custom => (CustomFormula.plan d).map .custom
  | .dependency => (Dependency.plan d).map .dependency
  | .dateBefore => (DateBound.plan d .before).map .dateBound
  | .dateAfter => (DateBound.plan d .after).map .dateBound
  | .dateBetween => (DateInterval.plan d).map .dateInterval
  | .dateFormat => (DateSpelling.plan d).map .dateSpelling
  | .columnComparison => (ColumnComparison.plan d).map .columnComparison
  | .mathOperation => (CalculationCheck.plan d).map .calculation
  | .compositeReference => (CompositeReference.plan d).map .composite
  | .referenceIntegrity => (Reference.plan d).map .reference
  | .formula => (TableFormula.plan d).map .tableFormula
  | .rowFormula => (RowFormula.plan d).map .rowFormula
  | .crossTable => .ok (.tableConditions d.tableConditions)

namespace Check

/-- Whether an absent cell passes without being checked. -/
def passesAbsent : Check → Bool
  | required => false
  | dependency _ => false
  | tableConditions _ => false
  | dateBound check => !check.required
  | dateInterval check => !check.required
  | dateSpelling check => !check.required
  | _ => true

end Check

/-- A check with what it needs from other tables, which is computed when it is first needed. -/
inductive Prepared where
  | plain (check : Check)
  | keyed (check : Reference) (keys : Thunk (Except Problem (List String)))
  | combined (check : CompositeReference)
      (combinations : Thunk (Except Problem (List (List String))))
  | settled (conditions : List TableCondition) (outcome : Thunk (Except Problem Outcome))

namespace Prepared

/-- The check itself. -/
def check : Prepared → Check
  | plain check => check
  | keyed check _ => .reference check
  | combined check _ => .composite check
  | settled conditions _ => .tableConditions conditions

/-- Checks a cell that does not pass for being absent. -/
def judgeCell (p : Prepared) (column : String) (value : Cell) (ctx : Context) (row : Row) :
    Audit Outcome :=
  match p with
  | keyed check keys => .ofExcept (check.judge keys column value ctx)
  | combined check combinations => .ofExcept (check.judge combinations ctx row)
  | settled _ outcome => .ofExcept outcome.get
  | plain check =>
    match check with
    | .required => pure (Check.requirePresent column value)
    | .valueLimit check => pure (check.judge column value)
    | .numberInterval check => pure (check.judge column value)
    | .pattern check => pure (check.judge column value)
    | .dataType check => pure (check.judge column value)
    | .oneOf check => pure (check.judge column value)
    | .listed check => .ofExcept (check.judge column value ctx)
    | .contains check => pure (check.judge column value)
    | .custom check => .ofExcept (check.judge column value row)
    | .dependency check => pure (check.judge column value row)
    | .dateBound check => pure (check.judge column value ctx)
    | .dateInterval check => pure (check.judge column value ctx)
    | .dateSpelling check => pure (check.judge column value)
    | .columnComparison check => pure (check.judge column value ctx row)
    | .calculation check => .ofExcept (check.judge row)
    | .composite check => .ofExcept (check.judge (check.combinations ctx) ctx row)
    | .reference check => .ofExcept (check.judge (check.keys ctx) column value ctx)
    | .tableFormula check => check.judge ctx row
    | .rowFormula check => .ofExcept (check.judge row)
    | .tableConditions conditions => .ofExcept (TableCondition.outcome ctx conditions)

/-- Checks a column of a row. -/
def judge (p : Prepared) (column : String) (ctx : Context) (row : Row) : Audit Outcome :=
  let value := row.get column
  if column ≠ "" ∧ value.isAbsent ∧ p.check.passesAbsent then pure .pass
  else p.judgeCell column value ctx row

end Prepared

namespace Check

/-- Sets up what a check needs from other tables. -/
def prepare (ctx : Context) : Check → Prepared
  | reference check => .keyed check (Thunk.mk fun _ => check.keys ctx)
  | composite check => .combined check (Thunk.mk fun _ => check.combinations ctx)
  | tableConditions conditions =>
    .settled conditions (Thunk.mk fun _ => TableCondition.outcome ctx conditions)
  | check => .plain check

/-- Checks a column of a row without setting anything up. -/
def judge (check : Check) (column : String) (ctx : Context) (row : Row) : Audit Outcome :=
  (Prepared.plain check).judge column ctx row

end Check

end RowAudit
