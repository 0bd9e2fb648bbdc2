import RowAudit.Formula.Eval
import RowAudit.Formula.Parser

/-!
# Computing aggregations

`Aggregation.compute` filters the rows of a table, splits them into groups if the function asks for
that, keeps the first row for each cell of the distinct column, and reduces what is left. Groups are
told apart by the join keys of their columns and stand in ascending order of them.
-/

namespace RowAudit

namespace Aggregation

open RowAudit.Formula

/-- The value of one group of rows. -/
structure Group where
  /-- The join keys of the group columns, in the order of the columns. -/
  key : List String
  value : Cell

/-- The value of an aggregation. -/
inductive Result where
  | scalar (c : Cell)
  | grouped (groups : List Group)

/-! ## Filters -/

/-- Whether a row satisfies a condition, moments by calendar day. -/
def Condition.holds (c : Condition) (row : Row) : Bool :=
  c.operator.holds (row.get c.column) c.value

/-- Whether a row satisfies conditions joined by a logic. -/
def Logic.holds (l : Logic) (cs : List Condition) (row : Row) : Bool :=
  match l with
  | .and => cs.all (·.holds row)
  | .or => cs.any (·.holds row)

/-- A filter that has been read. -/
inductive Test where
  | always
  | conditions (conditions : List Condition) (logic : Logic)
  | formula (e : Expr)

/-- Reads a filter. -/
def Test.ofFilter : Option Filter → Except Fault Test
  | none => .ok .always
  | some f =>
    if f.isEmpty then .ok .always
    else
      match f with
      | .conditions cs logic => .ok (.conditions cs logic)
      | .formula source => (parse .row source).map .formula

/-- Whether a row passes. -/
def Test.passes : Test → Row → Except Fault Bool
  | always, _ => .ok true
  | conditions cs logic, row => .ok (logic.holds cs row)
  | formula e, row => (e.evalRow row none).map Evaluated.verdict

/-- The rows that pass, in their order. -/
def Test.select (t : Test) : List Row → Except Fault (List Row)
  | [] => .ok []
  | row :: rest => do
    let keep ← t.passes row
    let rows ← t.select rest
    .ok (if keep then row :: rows else rows)

/-! ## Reductions -/

/-- The first row for each join key in a column, given the keys that have been met. -/
def distinctAfter (column : String) : List (Option String) → List Row → List Row
  | _, [] => []
  | met, row :: rest =>
    let key := (row.get column).key?
    if met.contains key then distinctAfter column met rest
    else row :: distinctAfter column (key :: met) rest

/-- The first row for each join key in a column, if there is one. -/
def distinctRows : Option String → List Row → List Row
  | none, rows => rows
  | some column, rows => distinctAfter column [] rows

/-- The present cells of a column. -/
def present (column : String) (rows : List Row) : List Cell :=
  (rows.map (·.get column)).filter fun c => !c.isAbsent

/-- The numbers in a column. -/
def numbers (column : String) (rows : List Row) : List Float :=
  (present column rows).filterMap Cell.number?

/-- The number of a count. -/
def ofCount (n : Nat) : Float := (UInt64.ofNat n).toFloat

/-- The first number of a list to which no later one is in the wanted order. -/
def extremeNumber (wanted : Ordering) (best : Float) : List Float → Float
  | [] => best
  | x :: rest =>
    extremeNumber wanted (if Number.order x best = some wanted then x else best) rest

/-- The first cell of a list to which no later one is in the wanted order. -/
def extremeCell (wanted : Ordering) (best : Cell) : List Cell → Cell
  | [] => best
  | c :: rest =>
    let better := (coerce .exact c best).bind Coerced.order = some wanted
    extremeCell wanted (if better then c else best) rest

/-- The least or the greatest of the numbers in a column, or, if there are none, of its present
cells. -/
def extreme (wanted : Ordering) (numbers : List Float) (present : List Cell) : Cell :=
  match numbers, present with
  | x :: xs, _ => .number (extremeNumber wanted x xs)
  | [], c :: cs => extremeCell wanted c cs
  | [], [] => .null

/-- The reduction of a column over rows. Cells that are no numbers do not count for sums and
averages; the column `*` counts rows. -/
def Reducer.apply (r : Reducer) (column : String) (rows : List Row) : Cell :=
  match r with
  | .count => .number (ofCount (if column = "*" then rows.length else (present column rows).length))
  | .sum => .number ((numbers column rows).foldl (· + ·) (-0.0))
  | .avg =>
    let xs := numbers column rows
    if xs.isEmpty then .null else .number (xs.foldl (· + ·) 0.0 / ofCount xs.length)
  | .min => extreme .lt (numbers column rows) (present column rows)
  | .max => extreme .gt (numbers column rows) (present column rows)
  | .distinctCount =>
    .number (ofCount ((present column rows).filterMap Cell.key?).eraseDups.length)

/-! ## Groups -/

/-- The key of the group of a row. An absent cell counts as an empty key. -/
def groupKey (columns : List String) (row : Row) : List String :=
  columns.map fun c => ((row.get c).key?).getD ""

/-- Rows by group key, in ascending order of the keys. -/
abbrev Groups := List (List String × List Row)

/-- Adds a row at the end of its group. -/
def Groups.add (key : List String) (row : Row) : Groups → Groups
  | [] => [(key, [row])]
  | (k, rows) :: rest =>
    if key < k then (key, [row]) :: (k, rows) :: rest
    else if key = k then (k, rows ++ [row]) :: rest
    else (k, rows) :: Groups.add key row rest

/-- The groups of a list of rows. -/
def Groups.ofRows (columns : List String) (rows : List Row) : Groups :=
  rows.foldl (fun groups row => groups.add (groupKey columns row) row) []

/-- The value of an aggregation over the rows of a table. -/
def compute (a : Aggregation) (rows : List Row) : Except Fault Result := do
  let test ← Test.ofFilter a.filter
  let rows ← test.select rows
  let reduce (rows : List Row) : Cell :=
    a.function.reducer.apply a.column (distinctRows a.distinctColumn rows)
  if a.function.grouped then
    pure (.grouped ((Groups.ofRows a.groupColumns rows).map fun (key, rows) => ⟨key, reduce rows⟩))
  else pure (.scalar (reduce rows))

end Aggregation

end RowAudit
