import RowAudit.Aggregation.Function
import RowAudit.Cell.Comparison

/-!
# Aggregations

An `Aggregation` says which function is computed over which column, after which filter, by which
groups, and whether rows with equal cells in one column count once. Filters are written as formula
text or as a list of conditions.
-/

namespace RowAudit

namespace Aggregation

/-- How the conditions of a filter are joined. -/
inductive Logic where
  | and
  | or
  deriving DecidableEq, Repr

namespace Logic

/-- The name of a logic. -/
def name : Logic → String
  | and => "AND"
  | or => "OR"

/-- The words that name logics. -/
def choices : Document.Choices Logic := [(["AND", "and"], and), (["OR", "or"], or)]

/-- Reads a logic. -/
def read : Reader Logic := Document.asChoice choices

/-- A logic as JSON. -/
def toJson (l : Logic) : Json := .text l.name

end Logic

/-- One condition of a filter: a column compared with a fixed cell. -/
structure Condition where
  column : String
  operator : Comparison
  value : Cell

namespace Condition

/-- Reads a condition. -/
def read : Reader Condition := fun d => do
  let rec ← Document.asRecord "FilterCondition"
    [Document.slot "column" Document.asText, Document.slot "operator" Comparison.read,
     Document.slot "value" Cell.read] d
  let column ← rec.require "column" Document.asText
  let operator ← rec.require "operator" Comparison.read
  let value ← rec.optional "value" Cell.read .null
  rec.finish
  .ok ⟨column, operator, value⟩

/-- A condition as JSON. -/
def toJson (c : Condition) : Json :=
  .object [("column", .text c.column), ("operator", c.operator.toJson), ("value", c.value.toJson)]

end Condition

/-- Which rows count. -/
inductive Filter where
  /-- The rows on which a formula is true. -/
  | formula (source : String)
  /-- The rows that satisfy all conditions, or one of them. -/
  | conditions (conditions : List Condition) (logic : Logic)

namespace Filter

/-- A filter that lets every row pass: blank text, or no conditions. -/
def isEmpty : Filter → Bool
  | formula source => Text.isBlankText source
  | conditions cs _ => cs.isEmpty

/-- Reads a list of conditions with their logic. -/
def readConditions : Reader Filter := fun d => do
  let conditions := Document.asList Condition.read
  let rec ← Document.asRecord "Conditions"
    [Document.slot "conditions" conditions, Document.slot "type" Logic.read] d
  let cs ← rec.require "conditions" conditions
  let logic ← rec.optional "type" Logic.read .and
  rec.finish
  .ok (.conditions cs logic)

/-- Reads a filter. Its conditions are always named fields, never a list of fields; of a document
that is neither form it is only said that it fits none. -/
def read : Reader Filter := fun d => do
  let _ ← Document.asJson d
  match d, readConditions d with
  | .text s, _ => .ok (.formula s)
  | .object _ _, .ok f => .ok f
  | _, _ => .error (.other "data did not match any variant of untagged enum AggregationFilter")

/-- A filter as JSON. -/
def toJson : Filter → Json
  | formula source => .text source
  | conditions cs logic =>
    .object [("conditions", .array (cs.map Condition.toJson)), ("type", logic.toJson)]

end Filter

end Aggregation

/-- A value computed over the rows of a table. -/
structure Aggregation where
  function : Aggregation.Function
  column : String
  /-- A name by which formulas may refer to it. -/
  label : Option String := none
  filter : Option Aggregation.Filter := none
  groupColumns : List String := []
  /-- Of rows with equal cells in this column the first one counts. -/
  distinctColumn : Option String := none
  handling : Aggregation.Handling := .all

namespace Aggregation

/-- Reads an aggregation. -/
def read : Reader Aggregation := fun d => do
  let texts := Document.asList Document.asText
  let rec ← Document.asRecord "AggregationConfig"
    [Document.slot "function" Function.read, Document.slot "column" Document.asText,
     Document.slot "alias" (Document.asOption Document.asText),
     Document.slot "filter" (Document.asOption Filter.read),
     Document.slot "groupColumns" texts,
     Document.slot "distinctColumn" (Document.asOption Document.asText),
     Document.slot "resultHandling" Handling.read] d
  let function ← rec.require "function" Function.read
  let column ← rec.require "column" Document.asText
  let label ← rec.optional "alias" (Document.asOption Document.asText) none
  let filter ← rec.optional "filter" (Document.asOption Filter.read) none
  let groupColumns ← rec.optional "groupColumns" texts []
  let distinctColumn ← rec.optional "distinctColumn" (Document.asOption Document.asText) none
  let handling ← rec.optional "resultHandling" Handling.read .all
  rec.finish
  .ok ⟨function, column, label, filter, groupColumns, distinctColumn, handling⟩

/-- An aggregation as JSON; what is not set is left out. -/
def toJson (a : Aggregation) : Json :=
  .object <|
    [("function", a.function.toJson), ("column", .text a.column)]
      ++ (a.label.map fun s => ("alias", Json.text s)).toList
      ++ (a.filter.map fun f => ("filter", f.toJson)).toList
      ++ (if a.groupColumns.isEmpty then [] else [("groupColumns", Json.ofTexts a.groupColumns)])
      ++ (a.distinctColumn.map fun s => ("distinctColumn", Json.text s)).toList
      ++ [("resultHandling", a.handling.toJson)]

end Aggregation

end RowAudit
