import RowAudit.Check.Draft
import RowAudit.Check.Context
import RowAudit.Formula.Scope

/-!
# Checks by formula

Checks that a formula is true of a row. A table formula may also aggregate over the table of the row
and may compare its value with a configured one; a row formula sees the row alone; a custom formula
sees the row and the cell of the column under the name `value`.
-/

namespace RowAudit

open Document

/-- The number of bytes of a formula that a message quotes. -/
def quotedFormulaLength : Nat := 120

/-- Reads the formula of a check. -/
def Draft.compile (d : Draft) (dialect : Formula.Dialect) (source : String) :
    Except Problem Formula :=
  match Formula.compile dialect source with
  | .ok f => .ok f
  | .error fault =>
    d.fault ("invalid expression '" ++ Text.truncate (Text.trim source) quotedFormulaLength ++ "': "
      ++ fault.message)

/-! ## Table formulas -/

/-- A formula over a row and its table. -/
structure TableFormula where
  formula : Formula
  operator : Option Comparison
  /-- The cell that the value is compared with; null for none. -/
  expected : Cell
  aggregations : List Aggregation

namespace TableFormula

/-- The parameters as they are written. -/
structure Written where
  source : String
  operator : Option Comparison
  value : Cell
  aggregations : List Aggregation

/-- Reads the parameters. -/
def read : Reader Written := fun d => do
  let aggregations := asList Aggregation.read
  let rec ← Parameters.record
    [aliasedSlot "formula" "expression" asText, slot "operator" (asOption Comparison.read),
     slot "value" Cell.read, slot "aggregations" aggregations] d
  let source ← rec.require "formula" asText
  let operator ← rec.optional "operator" (asOption Comparison.read) none
  let value ← rec.optional "value" Cell.read .null
  let aggregations ← rec.optional "aggregations" aggregations []
  .ok ⟨source, operator, value, aggregations⟩

/-- Plans the check. -/
def plan (d : Draft) : Except Problem TableFormula := do
  let w ← d.decode read
  d.requireText "formula" w.source
  let formula ← d.compile .table w.source
  .ok ⟨formula, w.operator, w.value, w.aggregations⟩

/-- The comparison that the value of the formula has to satisfy, unless the formula is a verdict
itself. -/
def comparison? (check : TableFormula) : Option Comparison :=
  if check.formula.expr.isPredicate || check.expected.isNull then none else check.operator

/-- The verdict on a cell that is compared with nothing: a truth value, or whether a number is
positive, or whether the cell counts as true. -/
def accepts : Cell → Bool
  | .bool b => b
  | c =>
    match c.number? with
    | some x => 0.0 < x
    | none => c.truthy

/-- The verdicts on the value of the formula. -/
def verdicts (check : TableFormula) (value : Formula.Evaluated) :
    Except Formula.Fault Formula.Evaluated :=
  if check.formula.expr.isPredicate then .ok value
  else
    match check.comparison? with
    | some o => value.map fun c => .ok (.bool (o.holds c check.expected))
    | none => value.map fun c => .ok (.bool (accepts c))

/-- Why the value fails. -/
def describe (check : TableFormula) (value : Formula.Evaluated) : String :=
  "Formula '" ++ check.formula.source ++ "' evaluated to " ++ value.describe
    ++ match check.comparison? with
       | some o => ", expected " ++ o.describe ++ " " ++ check.expected.display
       | none => ""

/-- The table that the formula ranges over. -/
def scope (check : TableFormula) (ctx : Context) : Formula.Scope :=
  ⟨ctx.table.name, ctx.table.rows, check.aggregations, ctx.memoize⟩

/-- Checks a row. -/
def judge (check : TableFormula) (ctx : Context) (row : Row) : Audit Outcome := do
  let value ← Audit.ofRun (check.formula.evaluate row none (some (check.scope ctx)))
  match check.verdicts value with
  | .ok verdicts => pure (.check verdicts.verdict (check.describe value))
  | .error fault => throw (.evaluation fault)

end TableFormula

/-! ## Row formulas -/

/-- The verdict of a formula on a row alone. -/
def Formula.holdsOn (f : Formula) (row : Row) (bound : Option Cell) : Except Problem Bool :=
  match f.expr.evalRow row bound with
  | .ok value => .ok value.verdict
  | .error fault => .error (.evaluation fault)

/-- A formula over a row. -/
structure RowFormula where
  formula : Formula

namespace RowFormula

/-- Reads the source. -/
def read : Reader String := fun d => do
  let rec ← Parameters.record [aliasedSlot "formula" "expression" asText] d
  rec.require "formula" asText

/-- Plans the check. -/
def plan (d : Draft) : Except Problem RowFormula := do
  let source ← d.decode read
  d.requireText "formula" source
  let formula ← d.compile .row source
  .ok ⟨formula⟩

/-- Checks a row. -/
def judge (check : RowFormula) (row : Row) : Except Problem Outcome := do
  let verdict ← check.formula.holdsOn row none
  .ok (.check verdict ("Formula '" ++ check.formula.source ++ "' is not satisfied"))

end RowFormula

/-- A formula over a row and the cell of the column. -/
structure CustomFormula where
  formula : Formula

namespace CustomFormula

/-- Reads the source. -/
def read : Reader String := fun d => do
  let rec ← Parameters.record [slot "functionBody" asText] d
  rec.require "functionBody" asText

/-- Plans the check. -/
def plan (d : Draft) : Except Problem CustomFormula := do
  let source ← d.decode read
  d.requireText "functionBody" source
  let formula ← d.compile .row source
  .ok ⟨formula⟩

/-- Checks a cell of a row. -/
def judge (check : CustomFormula) (column : String) (value : Cell) (row : Row) :
    Except Problem Outcome := do
  let verdict ← check.formula.holdsOn row (some value)
  .ok (.check verdict (column ++ " value '" ++ value.display ++ "' failed custom validation"))

end CustomFormula

end RowAudit
