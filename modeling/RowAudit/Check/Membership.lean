import RowAudit.Check.Draft
import RowAudit.Check.Context
import RowAudit.Text.Case

/-!
# Membership

Checks that a cell is one of a set of values: a set written in the rule, a named list, or the cells
of a column of another table, alone or in combination with other columns. What is needed from the
other table does not depend on the row, so that it is computed once, as a `keys` or `combinations`
value, and handed to `judge` for every row.
-/

namespace RowAudit

open Document

/-! ## Fixed sets -/

/-- A set of allowed texts. -/
structure OneOf where
  allowed : List String
  ignoreCase : Bool

namespace OneOf

/-- Reads the parameters. -/
def read : Reader OneOf := fun d => do
  let rec ← Parameters.record
    [slot "allowedValues" Parameters.asTexts, slot "caseInsensitive" Parameters.asFlag] d
  let allowed ← rec.require "allowedValues" Parameters.asTexts
  let ignoreCase ← rec.optional "caseInsensitive" Parameters.asFlag false
  .ok ⟨allowed, ignoreCase⟩

/-- Plans the check. -/
def plan (d : Draft) : Except Problem OneOf := do
  let check ← d.decode read
  if check.allowed.isEmpty then d.fault "enum requires at least one allowed value" else .ok check

/-- Whether a text is allowed. -/
def contains (check : OneOf) (s : String) : Bool :=
  if check.ignoreCase then check.allowed.any fun a => Text.lower a == Text.lower s
  else check.allowed.contains s

/-- Checks a cell. -/
def judge (check : OneOf) (column : String) (value : Cell) : Outcome :=
  .check (check.contains value.display)
    (column ++ " value '" ++ value.display ++ "' is not one of: "
      ++ String.intercalate ", " check.allowed)

end OneOf

/-! ## Named lists -/

/-- The values of a named list. -/
structure Listed where
  list : String

namespace Listed

/-- Reads the parameters. -/
def read : Reader Listed := fun d => do
  let rec ← Parameters.record [slot "listId" asText] d
  let list ← rec.require "listId" asText
  .ok ⟨list⟩

/-- Plans the check. -/
def plan (d : Draft) : Except Problem Listed := do
  let check ← d.decode read
  d.requireText "listId" check.list
  .ok check

/-- Checks a cell. -/
def judge (check : Listed) (column : String) (value : Cell) (ctx : Context) :
    Except Problem Outcome :=
  match ValueList.find? ctx.lists check.list with
  | none => ctx.fault ("value list '" ++ check.list ++ "' not found")
  | some l =>
    .ok (.check (l.contains value.display)
      (column ++ " value '" ++ value.display ++ "' is not in list '" ++ l.name ++ "'"))

end Listed

/-! ## Columns of other tables -/

/-- The table that a check refers to. -/
def Context.referenceTable (ctx : Context) (name : String) : Except Problem Table :=
  match ctx.datasets.table? name with
  | some t => .ok t
  | none => ctx.fault ("reference table '" ++ name ++ "' not found")

/-- The cells of a column of another table, or the cells that are not in it. -/
structure Reference where
  table : String
  column : String
  /-- Whether the cell has to occur there or must not. -/
  mustExist : Bool

namespace Reference

/-- The words for whether a cell has to occur. -/
def choices : Choices Bool := [(["exists"], true), (["not-exists"], false)]

/-- Reads the parameters. -/
def read : Reader Reference := fun d => do
  let rec ← Parameters.record
    [slot "referenceTable" asText, slot "referenceColumn" asText,
     slot "checkType" (asChoice choices)] d
  let table ← rec.require "referenceTable" asText
  let column ← rec.require "referenceColumn" asText
  let mustExist ← rec.optional "checkType" (asChoice choices) true
  .ok ⟨table, column, mustExist⟩

/-- Plans the check. -/
def plan (d : Draft) : Except Problem Reference := do
  let check ← d.decode read
  d.requireText "referenceTable" check.table
  d.requireText "referenceColumn" check.column
  .ok check

/-- The join keys in the other column. -/
def keys (check : Reference) (ctx : Context) : Except Problem (List String) :=
  (ctx.referenceTable check.table).map fun t => (t.column check.column).filterMap Cell.key?

/-- Checks a cell, given the keys of the other column. -/
def judge (check : Reference) (keys : Thunk (Except Problem (List String))) (column : String)
    (value : Cell) (ctx : Context) : Except Problem Outcome :=
  match value.key? with
  | none => .ok .pass
  | some key =>
    match keys.get with
    | .error p => .error p
    | .ok keys =>
      .ok (.check (keys.contains key == check.mustExist)
        ("Value " ++ value.display ++ " in " ++ ctx.table.name ++ "." ++ column
          ++ (if check.mustExist then " does not exist in " else " must not exist in ")
          ++ check.table ++ "." ++ check.column))

end Reference

/-- Adds a text to an ascending list without repetition. -/
def addKey (key : String) : List String → List String
  | [] => [key]
  | k :: rest =>
    if key < k then key :: k :: rest else if key = k then k :: rest else k :: addKey key rest

/-- The set of some texts, as an ascending list without repetition. -/
def keySet (keys : List String) : List String := keys.foldl (fun ks k => addKey k ks) []

/-- The set of the join keys of columns of a row; none if one of the cells is absent. -/
def Row.keySet? (row : Row) (columns : List String) : Option (List String) :=
  (columns.mapM fun c => (row.get c).key?).map keySet

/-- The combinations of cells in columns of another table, in any order. -/
structure CompositeReference where
  sourceColumns : List String
  table : String
  columns : List String

namespace CompositeReference

/-- Reads the parameters. -/
def read : Reader CompositeReference := fun d => do
  let rec ← Parameters.record
    [slot "sourceColumns" Parameters.asTexts, slot "referenceTable" asText,
     slot "referenceColumns" Parameters.asTexts] d
  let sourceColumns ← rec.optional "sourceColumns" Parameters.asTexts []
  let table ← rec.require "referenceTable" asText
  let columns ← rec.require "referenceColumns" Parameters.asTexts
  .ok ⟨sourceColumns, table, columns⟩

/-- Plans the check. -/
def plan (d : Draft) : Except Problem CompositeReference := do
  let check ← d.decode read
  d.requireText "referenceTable" check.table
  let sourceColumns := d.columnsOr check.sourceColumns
  if sourceColumns.isEmpty || sourceColumns.length != check.columns.length then
    d.fault ("composite-reference needs matching column lists, got "
      ++ toString sourceColumns.length ++ " source and " ++ toString check.columns.length
      ++ " reference columns")
  else .ok { check with sourceColumns }

/-- The key sets of the complete rows of the other table. -/
def combinations (check : CompositeReference) (ctx : Context) :
    Except Problem (List (List String)) :=
  (ctx.referenceTable check.table).map fun t => t.rows.filterMap fun r => r.keySet? check.columns

/-- Checks a row, given the combinations in the other table. -/
def judge (check : CompositeReference)
    (combinations : Thunk (Except Problem (List (List String)))) (ctx : Context) (row : Row) :
    Except Problem Outcome :=
  match row.keySet? check.sourceColumns with
  | none => .ok .pass
  | some wanted =>
    match combinations.get with
    | .error p => .error p
    | .ok combinations =>
      .ok (.check (combinations.contains wanted)
        ("Combination ("
          ++ String.intercalate ", " (check.sourceColumns.map fun c => (row.get c).display)
          ++ ") in " ++ ctx.table.name ++ ".(" ++ String.intercalate ", " check.sourceColumns
          ++ ") does not exist in " ++ check.table ++ ".("
          ++ String.intercalate ", " check.columns ++ ")"))

end CompositeReference

/-! ## Conditions on other tables -/

namespace TableCondition

/-- Whether some row of a table satisfies the condition, moments by calendar day. -/
def holdsIn (c : TableCondition) (t : Table) : Bool :=
  (t.column c.column).any fun v => c.operator.holds v c.value

/-- The outcome of conditions, none of which depends on the row: the first one that no row of its
table satisfies fails. -/
def outcome (ctx : Context) : List TableCondition → Except Problem Outcome
  | [] => .ok .pass
  | c :: rest =>
    match ctx.datasets.table? c.table with
    | none => ctx.fault ("cross-table condition references unknown table '" ++ c.table ++ "'")
    | some t =>
      if c.holdsIn t then outcome ctx rest
      else
        .ok ((Outcome.fail ("No row in " ++ c.table ++ " has " ++ c.column ++ " "
          ++ c.operator.describe ++ " " ++ c.value.display)).onColumn c.column)

end TableCondition

end RowAudit
