import RowAudit.Problem
import RowAudit.Table

/-!
# Columnar tables

Tables may also come as batches of typed columns. A batch becomes one row for each index; a missing
value, or a date outside the calendar, becomes null. A batch with a column of a type that has no
cells is refused, and nothing is loaded.
-/

namespace RowAudit

namespace Columnar

/-- The unit in which a timestamp counts. -/
inductive TimeUnit where
  | second
  | millisecond
  | microsecond
  | nanosecond
  deriving DecidableEq, Repr

/-- A timestamp in milliseconds. Finer units are cut toward the start of 1970. -/
def TimeUnit.milliseconds (u : TimeUnit) (n : Int) : Int :=
  match u with
  | second => n * 1000
  | millisecond => n
  | microsecond => Int.tdiv n 1000
  | nanosecond => Int.tdiv n 1000000

/-- The values of a column. -/
inductive Values where
  | nulls
  | bools (values : List (Option Bool))
  | integers (values : List (Option Int))
  | singles (values : List (Option Float32))
  /-- Also the values of other numeric types, converted one by one. -/
  | doubles (values : List (Option Float))
  | texts (values : List (Option String))
  /-- Days since the start of 1970. -/
  | days (values : List (Option Int))
  /-- Times since the start of 1970. -/
  | times (unit : TimeUnit) (values : List (Option Int))
  /-- Values of another type, of which only the name is known. -/
  | other (type : String)

namespace Values

/-- The value at an index as a cell. -/
def cellOf {α : Type} (f : α → Option Cell) (values : List (Option α)) (i : Nat) : Cell :=
  ((values[i]?.bind id).bind f).getD .null

/-- The cell of a number of milliseconds since the start of 1970. -/
def momentCell (ms : Int) : Option Cell := (Moment.ofMilliseconds? ms).map .moment

/-- The cell at an index. -/
def cell (v : Values) (i : Nat) : Cell :=
  match v with
  | nulls => .null
  | bools values => cellOf (fun b => some (.bool b)) values i
  | integers values => cellOf (fun n => some (.number (Cell.ofInteger n))) values i
  | singles values => cellOf (fun x => some (.number x.toFloat)) values i
  | doubles values => cellOf (fun x => some (.number x)) values i
  | texts values => cellOf (fun s => some (.text s)) values i
  | days values => cellOf (fun n => momentCell (n * 86400000)) values i
  | times unit values => cellOf (fun n => momentCell (unit.milliseconds n)) values i
  | other _ => .null

end Values

/-- A named column. -/
structure Column where
  name : String
  values : Values

/-- Columns of one length. -/
structure Batch where
  columns : List Column
  size : Nat

/-- Refuses a column whose type has no cells. -/
def Column.check (c : Column) : Except Problem Unit :=
  match c.values with
  | .other type =>
    .error (.typeMismatch
      ("utf8, numeric, boolean, date or timestamp column for '" ++ c.name ++ "'") type)
  | _ => .ok ()

/-- Refuses the first column whose type has no cells. -/
def checkColumns : List Column → Except Problem Unit
  | [] => .ok ()
  | c :: rest => do
    c.check
    checkColumns rest

namespace Batch

/-- The row at an index; of two columns with one name the later counts. -/
def row (b : Batch) (i : Nat) : Row := .ofList (b.columns.map fun c => (c.name, c.values.cell i))

/-- The rows of a batch. -/
def rows (b : Batch) : List Row := (List.range b.size).map b.row

end Batch

/-- The rows of batches one after the other. -/
def rowsOf : List Batch → Except Problem (List Row)
  | [] => .ok []
  | b :: rest => do
    checkColumns b.columns
    let more ← rowsOf rest
    .ok (b.rows ++ more)

/-- Loads batches as a table into the datasets at hand, in place of an earlier one with its name. -/
def load (name : String) (batches : List Batch) : ExceptT Problem (StateM Datasets) Unit := do
  let rows ← rowsOf batches
  modify (·.insert ⟨name, rows⟩)

end Columnar

/-- The datasets with a table loaded from batches. -/
def Datasets.load (d : Datasets) (name : String) (batches : List Columnar.Batch) :
    Except Problem Datasets :=
  match (Columnar.load name batches).run d with
  | (.ok (), loaded) => .ok loaded
  | (.error p, _) => .error p

end RowAudit
