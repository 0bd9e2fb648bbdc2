import RowAudit.Rule.Severity
import RowAudit.Rule.Kind
import RowAudit.Rule.Connective
import RowAudit.Cell.Comparison

/-!
# Rules

A `Rule` is a statement about the rows of one table, as it is written down: a kind, a column and
free parameters, which are given a meaning only when the rule is planned. A rule may instead consist
of conditions on several columns, or of conditions on other tables.
-/

namespace RowAudit

/-- Free parameters of a rule. -/
abbrev Parameters := Fields Json

/-- The parameters that a JSON value gives; only an object gives any. -/
def Parameters.ofJson : Json → Parameters
  | .object fields => fields
  | _ => []

/-- Reads parameters. -/
def Parameters.read : Reader Parameters := Document.asFields Document.asJson

/-- A condition on one column inside a rule. -/
structure ColumnCondition where
  column : String
  kind : RuleKind
  parameters : Parameters
  /-- What joins the condition to the next one; conjunction if it is not set. -/
  connective : Option Connective

namespace ColumnCondition

/-- Reads a condition. -/
def read : Reader ColumnCondition := fun d => do
  let rec ← Document.asRecord "ColumnCondition"
    [Document.slot "column" Document.asText, Document.slot "ruleType" RuleKind.read,
     Document.slot "parameters" Parameters.read,
     Document.slot "logicalOperator" (Document.asOption Connective.read)] d
  let column ← rec.require "column" Document.asText
  let kind ← rec.require "ruleType" RuleKind.read
  let parameters ← rec.optional "parameters" Parameters.read []
  let connective ← rec.optional "logicalOperator" (Document.asOption Connective.read) none
  rec.finish
  .ok ⟨column, kind, parameters, connective⟩

/-- A condition as JSON. -/
def toJson (c : ColumnCondition) : Json :=
  .object <|
    [("column", .text c.column), ("ruleType", c.kind.toJson), ("parameters", .object c.parameters)]
      ++ (c.connective.map fun o => ("logicalOperator", o.toJson)).toList

end ColumnCondition

/-- A condition that some row of a table has to satisfy. -/
structure TableCondition where
  table : String
  column : String
  operator : Comparison
  value : Cell
  /-- Kept as it is written; all conditions have to hold. -/
  connective : Option Connective

namespace TableCondition

/-- Reads a condition. -/
def read : Reader TableCondition := fun d => do
  let rec ← Document.asRecord "CrossTableCondition"
    [Document.slot "table" Document.asText, Document.slot "column" Document.asText,
     Document.slot "operator" Comparison.read, Document.slot "value" Cell.read,
     Document.slot "logicalOperator" (Document.asOption Connective.read)] d
  let table ← rec.require "table" Document.asText
  let column ← rec.require "column" Document.asText
  let operator ← rec.require "operator" Comparison.read
  let value ← rec.optional "value" Cell.read .null
  let connective ← rec.optional "logicalOperator" (Document.asOption Connective.read) none
  rec.finish
  .ok ⟨table, column, operator, value, connective⟩

/-- A condition as JSON. -/
def toJson (c : TableCondition) : Json :=
  .object <|
    [("table", .text c.table), ("column", .text c.column), ("operator", c.operator.toJson),
     ("value", c.value.toJson)]
      ++ (c.connective.map fun o => ("logicalOperator", o.toJson)).toList

end TableCondition

/-- A rule about the rows of a table. -/
structure Rule where
  id : String
  name : String
  table : String
  column : String
  kind : RuleKind
  parameters : Parameters := []
  severity : Severity := .failure
  enabled : Bool := true
  description : Option String := none
  secondaryColumns : List String := []
  /-- Conditions that stand in place of the column, the kind and the parameters. -/
  columnConditions : List ColumnCondition := []
  tableConditions : List TableCondition := []

namespace Rule

/-- Reads a rule. -/
def read : Reader Rule := fun d => do
  let texts := Document.asList Document.asText
  let columnConditions := Document.asList ColumnCondition.read
  let tableConditions := Document.asList TableCondition.read
  let rec ← Document.asRecord "Rule"
    [Document.slot "id" Document.asText, Document.slot "name" Document.asText,
     Document.slot "table" Document.asText, Document.slot "column" Document.asText,
     Document.slot "ruleType" RuleKind.read, Document.slot "parameters" Parameters.read,
     Document.slot "severity" Severity.read, Document.slot "enabled" Document.asBool,
     Document.slot "description" (Document.asOption Document.asText),
     Document.slot "secondaryColumns" texts, Document.slot "columnConditions" columnConditions,
     Document.slot "crossTableConditions" tableConditions] d
  let id ← rec.require "id" Document.asText
  let name ← rec.require "name" Document.asText
  let table ← rec.require "table" Document.asText
  let column ← rec.optional "column" Document.asText ""
  let kind ← rec.require "ruleType" RuleKind.read
  let parameters ← rec.optional "parameters" Parameters.read []
  let severity ← rec.optional "severity" Severity.read .warning
  let enabled ← rec.optional "enabled" Document.asBool true
  let description ← rec.optional "description" (Document.asOption Document.asText) none
  let secondaryColumns ← rec.optional "secondaryColumns" texts []
  let columnConditions ← rec.optional "columnConditions" columnConditions []
  let tableConditions ← rec.optional "crossTableConditions" tableConditions []
  rec.finish
  .ok ⟨id, name, table, column, kind, parameters, severity, enabled, description,
    secondaryColumns, columnConditions, tableConditions⟩

/-- The JSON of a list under a name, unless the list is empty. -/
def listField {α : Type} (name : String) (f : α → Json) (items : List α) : List (String × Json) :=
  if items.isEmpty then [] else [(name, .array (items.map f))]

/-- A rule as JSON; what is not set is left out. -/
def toJson (r : Rule) : Json :=
  .object <|
    [("id", .text r.id), ("name", .text r.name), ("table", .text r.table),
     ("column", .text r.column), ("ruleType", r.kind.toJson),
     ("parameters", .object r.parameters), ("severity", r.severity.toJson),
     ("enabled", .bool r.enabled)]
      ++ (r.description.map fun s => ("description", Json.text s)).toList
      ++ listField "secondaryColumns" .text r.secondaryColumns
      ++ listField "columnConditions" ColumnCondition.toJson r.columnConditions
      ++ listField "crossTableConditions" TableCondition.toJson r.tableConditions

/-- Sets one parameter. -/
def setParameter (r : Rule) (name : String) (value : Json) : Rule :=
  { r with parameters := Fields.insert name value r.parameters }

/-- Replaces all parameters. -/
def setParameters (r : Rule) (value : Json) : Rule := { r with parameters := .ofJson value }

end Rule

end RowAudit
