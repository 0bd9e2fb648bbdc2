import RowAudit.Rule.Severity

/-!
# Findings

A `Finding` is what one rule says about one row, or about the whole table if the rule cannot be
applied to it at all.
-/

namespace RowAudit

open Document

/-- What a rule says about a row. -/
structure Finding where
  /-- The row; none if the rule found no table. -/
  rowIndex : Option Nat
  table : String
  column : String
  ruleName : String
  message : String
  grade : Grade
  ruleId : String
  deriving DecidableEq, Repr

/-- The rule, the table and the row that a finding is about. -/
structure FindingKey where
  ruleId : String
  table : String
  rowIndex : Option Nat
  deriving DecidableEq, Repr

namespace Finding

/-- What a finding is about. -/
def key (f : Finding) : FindingKey := ⟨f.ruleId, f.table, f.rowIndex⟩

/-- Whether the row passes. -/
def isSuccess (f : Finding) : Bool := f.grade.isSuccess

/-- Reads a finding. -/
def read : Reader Finding := fun d => do
  let rec ← asRecord "ValidationResult"
    [slot "rowIndex" (asOption (asCount "usize")), slot "table" asText, slot "column" asText,
     slot "ruleName" asText, slot "message" asText, slot "severity" Grade.read,
     slot "ruleId" asText] d
  let rowIndex ← rec.nullable "rowIndex" (asCount "usize")
  let table ← rec.require "table" asText
  let column ← rec.require "column" asText
  let ruleName ← rec.require "ruleName" asText
  let message ← rec.require "message" asText
  let grade ← rec.require "severity" Grade.read
  let ruleId ← rec.require "ruleId" asText
  rec.finish
  .ok ⟨rowIndex, table, column, ruleName, message, grade, ruleId⟩

/-- A finding as JSON. -/
def toJson (f : Finding) : Json :=
  .object
    [("rowIndex", Json.ofOption (fun n => .integer (Int.ofNat n)) f.rowIndex),
     ("table", .text f.table), ("column", .text f.column), ("ruleName", .text f.ruleName),
     ("message", .text f.message), ("severity", f.grade.toJson), ("ruleId", .text f.ruleId)]

end Finding

end RowAudit
