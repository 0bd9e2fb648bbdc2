import RowAudit.Cell.Basic

/-!
# Rows, tables and value lists

A `Row` maps column names to cells, a `Table` is a named list of rows, and `Datasets` is a set of
tables by name. A `ValueList` is a named list of allowed texts. Rows and datasets keep their names
in ascending order; a column that a row does not have reads as null.
-/

namespace RowAudit

/-- One record of a table. -/
structure Row where
  cells : Fields Cell
  ordered : cells.Ordered

namespace Row

/-- A row without columns. -/
def empty : Row := ⟨[], Fields.ordered_nil⟩

/-- The row of a list of columns; of two columns with one name the later counts. -/
def ofList (pairs : List (String × Cell)) : Row :=
  ⟨Fields.ofList pairs, Fields.ordered_ofList pairs⟩

/-- The cell of a column. -/
def get (r : Row) (column : String) : Cell := (r.cells.get? column).getD .null

/-- Whether the row has a column. -/
def has (r : Row) (column : String) : Bool := r.cells.has column

/-- Sets a column. -/
def set (r : Row) (column : String) (c : Cell) : Row := ⟨r.cells.insert column c, r.ordered.insert⟩

/-- The column names in ascending order. -/
def columns (r : Row) : List String := r.cells.names

/-- The number of columns. -/
def size (r : Row) : Nat := r.cells.length

/-- Equality of rows, with the equality of cells. -/
def same (r s : Row) : Bool := Cell.sameFields r.cells s.cells

/-- Reads a row. -/
def read : Reader Row := fun d => (Document.asPairs Cell.read d).map ofList

/-- A row as JSON. -/
def toJson (r : Row) : Json := .object (Cell.fieldsJson r.cells)

end Row

/-- A named list of rows. -/
structure Table where
  name : String
  rows : List Row

/-- The cells of one column. -/
def Table.column (t : Table) (name : String) : List Cell := t.rows.map (·.get name)

/-- Tables by name. -/
structure Datasets where
  tables : Fields (List Row)
  ordered : tables.Ordered

namespace Datasets

/-- No tables. -/
def empty : Datasets := ⟨[], Fields.ordered_nil⟩

/-- The datasets of a list of named tables; of two tables with one name the later counts. -/
def ofList (pairs : List (String × List Row)) : Datasets :=
  ⟨Fields.ofList pairs, Fields.ordered_ofList pairs⟩

/-- The table of a name. -/
def table? (d : Datasets) (name : String) : Option Table :=
  (d.tables.get? name).map fun rows => ⟨name, rows⟩

/-- Adds or replaces a table. -/
def insert (d : Datasets) (t : Table) : Datasets :=
  ⟨d.tables.insert t.name t.rows, d.ordered.insert⟩

/-- The table names in ascending order. -/
def names (d : Datasets) : List String := d.tables.names

/-- Reads datasets. -/
def read : Reader Datasets := fun d =>
  (Document.asPairs (Document.asList Row.read) d).map ofList

/-- Datasets as JSON. -/
def toJson (d : Datasets) : Json :=
  .object (d.tables.map fun (name, rows) => (name, .array (rows.map Row.toJson)))

end Datasets

/-- A named list of allowed texts. -/
structure ValueList where
  id : String
  name : String
  values : List String
  deriving DecidableEq, Repr

namespace ValueList

/-- Whether a text is one of the values. -/
def contains (l : ValueList) (candidate : String) : Bool := l.values.contains candidate

/-- The list that a key names: by its id, or else by its name. -/
def find? (ls : List ValueList) (key : String) : Option ValueList :=
  (ls.find? (·.id == key)).or (ls.find? (·.name == key))

/-- Reads a value list. Values of any kind are taken by their texts. -/
def read : Reader ValueList := fun d => do
  let values : Reader (List String) :=
    fun d => (Document.asList Cell.read d).map (·.map Cell.display)
  let rec ← Document.asRecord "ValueList"
    [Document.slot "id" Document.asText, Document.slot "name" Document.asText,
     Document.slot "values" values] d
  let id ← rec.require "id" Document.asText
  let name ← rec.require "name" Document.asText
  let vs ← rec.require "values" values
  rec.finish
  .ok ⟨id, name, vs⟩

/-- A value list as JSON. -/
def toJson (l : ValueList) : Json :=
  .object [("id", .text l.id), ("name", .text l.name), ("values", Json.ofTexts l.values)]

end ValueList

end RowAudit
