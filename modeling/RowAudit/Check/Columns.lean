import RowAudit.Check.Limit

/-!
# Checks between columns

Checks that relate several columns of one row: a comparison of two columns, and a chain of
calculations whose result is compared with a value or with another column.
-/

namespace RowAudit

open Document

/-! ## Comparisons -/

/-- A column compared with another column. -/
structure ColumnComparison where
  other : String
  operator : Comparison
  /-- Whether an absent cell of the other column passes. -/
  allowAbsent : Bool
  timeAware : Bool

namespace ColumnComparison

/-- Reads the parameters. -/
def read : Reader ColumnComparison := fun d => do
  let rec ← Parameters.record
    [slot "compareColumn" asText, slot "operator" Comparison.read,
     slot "allowNull" Parameters.asFlag, slot "timeAware" Parameters.asFlag] d
  let other ← rec.require "compareColumn" asText
  let operator ← rec.require "operator" Comparison.read
  let allowAbsent ← rec.optional "allowNull" Parameters.asFlag false
  let timeAware ← rec.optional "timeAware" Parameters.asFlag false
  .ok ⟨other, operator, allowAbsent, timeAware⟩

/-- Plans the check. -/
def plan (d : Draft) : Except Problem ColumnComparison := do
  let check ← d.decode read
  d.requireText "compareColumn" check.other
  .ok check

/-- Checks a cell of a row. -/
def judge (check : ColumnComparison) (column : String) (value : Cell) (ctx : Context) (row : Row) :
    Outcome :=
  let other := row.get check.other
  if other.isAbsent then
    .check check.allowAbsent
      (check.other ++ " is empty; cannot compare " ++ column ++ " against it")
  else
    .check (check.operator.holdsAt (ctx.precision check.timeAware) value other)
      (column ++ " ('" ++ value.display ++ "') must be " ++ check.operator.describe ++ " "
        ++ check.other ++ " ('" ++ other.display ++ "')")

end ColumnComparison

/-! ## Calculations -/

/-- The operation of a calculation. -/
inductive Calculation where
  | add
  | subtract
  | multiply
  | divide
  deriving DecidableEq, Repr

namespace Calculation

/-- The words that name operations. -/
def choices : Choices Calculation :=
  [(["+", "add"], add), (["-", "subtract"], subtract), (["*", "multiply"], multiply),
   (["/", "divide"], divide)]

/-- Reads an operation. -/
def read : Reader Calculation := asChoice choices

/-- The sign of an operation. -/
def symbol : Calculation → String
  | add => "+"
  | subtract => "-"
  | multiply => "*"
  | divide => "/"

/-- The result of an operation. -/
def apply (c : Calculation) (x y : Float) : Except Formula.Fault Float :=
  match c with
  | add => .ok (x + y)
  | subtract => .ok (x - y)
  | multiply => .ok (x * y)
  | divide => if Number.isZero y then .error .divisionByZero else .ok (x / y)

/-- The result of operations one after the other. -/
def chain (c : Calculation) (x : Float) : List Float → Except Formula.Fault Float
  | [] => .ok x
  | y :: ys =>
    match c.apply x y with
    | .ok z => chain c z ys
    | .error fault => .error fault

end Calculation

/-- What the result of a calculation is compared with. -/
inductive CalculationTarget where
  | value (x : Float)
  | column (name : String)

/-- A calculation over columns whose result is compared with a target. -/
structure CalculationCheck where
  operation : Calculation
  operands : List String
  operator : Comparison
  target : CalculationTarget

namespace CalculationCheck

/-- The parameters as they are written. -/
structure Written where
  operation : Calculation
  columns : List String
  operator : Option Comparison
  value : Cell
  compareColumn : Option String

/-- Reads the parameters. -/
def read : Reader Written := fun d => do
  let rec ← Parameters.record
    [slot "operation" Calculation.read, slot "columns" Parameters.asTexts,
     slot "operator" (asOption Comparison.read), slot "value" Cell.read,
     slot "compareColumn" Parameters.asOptionalText] d
  let operation ← rec.require "operation" Calculation.read
  let columns ← rec.optional "columns" Parameters.asTexts []
  let operator ← rec.optional "operator" (asOption Comparison.read) none
  let value ← rec.optional "value" Cell.read .null
  let compareColumn ← rec.optional "compareColumn" Parameters.asOptionalText none
  .ok ⟨operation, columns, operator, value, compareColumn⟩

/-- The target of a calculation; a present value goes before a column. -/
def targetOf (d : Draft) (value : Cell) (column : Option String) :
    Except Problem CalculationTarget :=
  if value.isAbsent then
    match column with
    | some name => .ok (.column name)
    | none => d.fault "math-operation requires 'value' or 'compareColumn'"
  else
    match value.number? with
    | some x => .ok (.value x)
    | none => d.fault ("math-operation 'value' must be numeric, got '" ++ value.display ++ "'")

/-- Plans the check. -/
def plan (d : Draft) : Except Problem CalculationCheck := do
  let w ← d.decode read
  let operands := d.columnsOr w.columns
  if operands.length < 2 then
    d.fault ("math-operation needs at least two operand columns, got "
      ++ toString operands.length)
  else do
    let target ← targetOf d w.value w.compareColumn
    .ok ⟨w.operation, operands, w.operator.getD .equal, target⟩

/-- Two numbers closer than this are equal. -/
def tolerance : Float := 1e-9

/-- Whether two numbers are closer than the tolerance. -/
def isClose (x y : Float) : Bool :=
  let d := x - y
  (if d < 0.0 then -d else d) < tolerance

/-- Whether two numbers are at least the tolerance apart. -/
def isApart (x y : Float) : Bool :=
  let d := x - y
  tolerance ≤ (if d < 0.0 then -d else d)

/-- Whether a result satisfies a comparison with a target. -/
def accepts (operator : Comparison) (result target : Float) : Bool :=
  match operator with
  | .equal => isClose result target
  | .notEqual => isApart result target
  | o => (Number.order result target).any o.allows

/-- The number of a column; an absent cell ends the check with a pass, and a cell that is no number
with a failure. -/
def operand (row : Row) (column : String) : Except Outcome Float :=
  let value := row.get column
  if value.isAbsent then .error .pass
  else
    match value.number? with
    | some x => .ok x
    | none =>
      .error ((Outcome.fail ("Cannot compare non-numeric values: " ++ column ++ " is '"
        ++ value.display ++ "'")).onColumn column)

/-- The numbers of columns. -/
def operandsOf (row : Row) : List String → Except Outcome (List Float)
  | [] => .ok []
  | column :: rest => do
    let x ← operand row column
    let xs ← operandsOf row rest
    .ok (x :: xs)

/-- The number of the target and how messages name it. -/
def targetNumber (row : Row) : CalculationTarget → Except Outcome (Float × String)
  | .value x => .ok (x, Number.text x)
  | .column name => (operand row name).map fun x => (x, name ++ " (" ++ Number.text x ++ ")")

/-- The numbers that a check needs. -/
def numbers (check : CalculationCheck) (row : Row) :
    Except Outcome (List Float × Float × String) := do
  let xs ← operandsOf row check.operands
  let (target, label) ← targetNumber row check.target
  .ok (xs, target, label)

/-- The calculation as a formula. -/
def describe (check : CalculationCheck) : String :=
  String.intercalate (" " ++ check.operation.symbol ++ " ") check.operands

/-- Checks a row. -/
def judge (check : CalculationCheck) (row : Row) : Except Problem Outcome :=
  match check.numbers row with
  | .error outcome => .ok outcome
  | .ok (xs, target, label) =>
    match check.operation.chain (xs.headD 0.0) xs.tail with
    | .error fault => .error (.evaluation fault)
    | .ok result =>
      .ok (.check (accepts check.operator result target)
        (check.describe ++ " = " ++ Number.text result ++ " must be " ++ check.operator.describe
          ++ " " ++ label))

end CalculationCheck

end RowAudit
