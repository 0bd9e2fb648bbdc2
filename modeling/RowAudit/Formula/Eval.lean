import RowAudit.Formula.Evaluated
import RowAudit.Table

/-!
# Evaluating formulas

`Expr.eval` walks a tree. What a formula sees is a `View`: the row, the cell bound to the name
`value`, the aggregations that have a label, and a way to compute an aggregation. The state that the
walk carries belongs to that last part. `Expr.evalRow` is the walk over a row alone, where every
aggregation is a fault.
-/

namespace RowAudit.Formula

/-- A walk with a state that survives a fault. -/
abbrev Run (σ α : Type) := ExceptT Fault (StateM σ) α

/-- What a formula sees. -/
structure View (σ : Type) where
  row : Row
  /-- The cell bound to the name `value`. -/
  bound : Option Cell
  /-- The aggregation with a label. -/
  labelled : String → Option Aggregation
  /-- Computes an aggregation. -/
  call : Aggregation → Run σ Evaluated

/-- What a name means: the bound cell, a column of the row, an aggregation with that label, or
else null. -/
def View.column {σ : Type} (v : View σ) (name : String) : Run σ Evaluated :=
  match if name = "value" then v.bound else none with
  | some c => pure (.scalar c)
  | none =>
    if v.row.has name then pure (.scalar (v.row.get name))
    else
      match v.labelled name with
      | some a => v.call a
      | none => pure (.scalar .null)

namespace Expr

/-- Whether an operator with a literal null beside it asks for absence, and if so, whether the
other operand has to be absent. -/
def absenceTest? (op : Operator) (left right : Expr) : Option Bool :=
  if left.isNullLiteral || right.isNullLiteral then
    match op with
    | .comparison .equal => some true
    | .comparison .notEqual => some false
    | _ => none
  else none

/-- The verdict on two cells under an operator that needs both. -/
def applyOperator (op : Operator) (a b : Cell) : Except Fault Cell :=
  match op with
  | .arithmetic o => o.onCells a b
  | .comparison c => .ok (.bool (c.holds a b))
  | .and => .ok (.bool (a.truthy && b.truthy))
  | .or => .ok (.bool (a.truthy || b.truthy))

/-- The cell of a list item, which must not have groups. -/
def itemCell {σ : Type} : Evaluated → Run σ Cell
  | .scalar c => pure c
  | .groups _ _ => throw (.misuse .groupsInList)

mutual

/-- The value of a tree. Conjunctions and disjunctions evaluate the right side only if the left one
leaves the verdict open. -/
def eval {σ : Type} (v : View σ) : Expr → Run σ Evaluated
  | literal c => pure (.scalar c)
  | column name => v.column name
  | list items => do
    let cells ← evalItems v items
    pure (.scalar (.list cells))
  | negate e => do
    let a ← eval v e
    a.map negateCell
  | not e => do
    let a ← eval v e
    a.map fun c => .ok (.bool !c.truthy)
  | binary .and l r => do
    let a ← eval v l
    if a.verdict then
      let b ← eval v r
      pure (.scalar (.bool b.verdict))
    else pure (.scalar (.bool false))
  | binary .or l r => do
    let a ← eval v l
    if a.verdict then pure (.scalar (.bool true))
    else
      let b ← eval v r
      pure (.scalar (.bool b.verdict))
  | binary op l r =>
    match absenceTest? op l r with
    | some wanted => do
      let a ← if l.isNullLiteral then eval v r else eval v l
      a.map fun c => .ok (.bool (c.isAbsent == wanted))
    | none => do
      let a ← eval v l
      let b ← eval v r
      a.combine (applyOperator op) b
  | aggregate a => v.call a

/-- The cells of the items of a list. -/
def evalItems {σ : Type} (v : View σ) : List Expr → Run σ (List Cell)
  | [] => pure []
  | e :: rest => do
    let a ← eval v e
    let c ← itemCell a
    let cs ← evalItems v rest
    pure (c :: cs)

end

/-- The fault of an aggregation without a table. -/
def needsTable (a : Aggregation) : Fault :=
  .aggregation (a.function.name ++ " needs table context and cannot be used here")

/-- A row alone, with a cell bound to the name `value` or none. -/
def rowView (row : Row) (bound : Option Cell) : View Unit :=
  ⟨row, bound, fun _ => none, fun a => throw (needsTable a)⟩

/-- The value of a tree over a row alone. -/
def evalRow (e : Expr) (row : Row) (bound : Option Cell) : Except Fault Evaluated :=
  ((e.eval (rowView row bound)).run ()).1

end Expr

end RowAudit.Formula
