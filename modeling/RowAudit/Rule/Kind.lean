import RowAudit.Json.Decode

/-!
# Kinds of rules

The kind of a rule names the check that it makes.
-/

namespace RowAudit

/-- What a rule checks. -/
inductive RuleKind where
  | required
  | equals
  | notEquals
  | greaterThan
  | greaterThanEquals
  | lessThan
  | lessThanEquals
  | range
  | regex
  | dataType
  | oneOf
  | list
  | contains
  | custom
  | dependency
  | dateBefore
  | dateAfter
  | dateBetween
  | dateFormat
  | columnComparison
  | mathOperation
  | formula
  | rowFormula
  | referenceIntegrity
  | compositeReference
  | crossTable
  deriving DecidableEq, Repr

namespace RuleKind

/-- The name of a kind. -/
def name : RuleKind → String
  | required => "required"
  | equals => "equals"
  | notEquals => "not-equals"
  | greaterThan => "greater-than"
  | greaterThanEquals => "greater-than-equals"
  | lessThan => "less-than"
  | lessThanEquals => "less-than-equals"
  | range => "range"
  | regex => "regex"
  | dataType => "type"
  | oneOf => "enum"
  | list => "list"
  | contains => "contains"
  | custom => "custom"
  | dependency => "dependency"
  | dateBefore => "date-before"
  | dateAfter => "date-after"
  | dateBetween => "date-between"
  | dateFormat => "date-format"
  | columnComparison => "column-comparison"
  | mathOperation => "math-operation"
  | formula => "formula"
  | rowFormula => "javascript-formula"
  | referenceIntegrity => "reference-integrity"
  | compositeReference => "composite-reference"
  | crossTable => "cross-table"

/-- All kinds. -/
def all : List RuleKind :=
  [required, equals, notEquals, greaterThan, greaterThanEquals, lessThan, lessThanEquals, range,
   regex, dataType, oneOf, list, contains, custom, dependency, dateBefore, dateAfter, dateBetween,
   dateFormat, columnComparison, mathOperation, formula, rowFormula, referenceIntegrity,
   compositeReference, crossTable]

/-- All kinds are listed. -/
theorem mem_all (k : RuleKind) : k ∈ all := by cases k <;> decide

/-- Whether a kind is about dates. -/
def isDate : RuleKind → Bool
  | dateBefore => true
  | dateAfter => true
  | dateBetween => true
  | dateFormat => true
  | _ => false

/-- Whether a later finding of a rule of this kind replaces an earlier one on the same row. -/
def isReplacing : RuleKind → Bool
  | list => true
  | rowFormula => true
  | _ => false

/-- The words that name kinds. -/
def choices : Document.Choices RuleKind := all.map fun k => ([k.name], k)

/-- Reads a kind. -/
def read : Reader RuleKind := Document.asChoice choices

/-- A kind as JSON. -/
def toJson (k : RuleKind) : Json := .text k.name

end RuleKind

end RowAudit
