import RowAudit.Check.Draft
import RowAudit.Table

/-!
# Presence

Checks that a cell is not absent: always, or depending on another column of the row.
-/

namespace RowAudit

open Document

namespace Check

/-- A cell must be present. -/
def requirePresent (column : String) (value : Cell) : Outcome :=
  .check (!value.isAbsent) (column ++ " is required")

end Check

/-- What the other column must be for the check to apply. -/
inductive Trigger where
  | present
  | absent
  | equal
  | notEqual
  deriving DecidableEq, Repr

namespace Trigger

/-- The words that name triggers. -/
def choices : Choices Trigger :=
  [(["exists", "not-empty", "notEmpty"], present), (["empty", "not-exists"], absent),
   (["equals"], equal), (["not-equals", "notEquals"], notEqual)]

/-- Reads a trigger. -/
def read : Reader Trigger := asChoice choices

/-- Whether a trigger compares with a value. -/
def isComparing : Trigger → Bool
  | present => false
  | absent => false
  | equal => true
  | notEqual => true

end Trigger

/-- A cell must be present if another column is as the trigger says. -/
structure Dependency where
  column : String
  trigger : Trigger
  value : Cell

namespace Dependency

/-- Reads the parameters. -/
def read : Reader Dependency := fun d => do
  let rec ← Parameters.record
    [slot "dependsOnColumn" asText, slot "condition" Trigger.read, slot "value" Cell.read] d
  let column ← rec.require "dependsOnColumn" asText
  let trigger ← rec.optional "condition" Trigger.read .present
  let value ← rec.optional "value" Cell.read .null
  .ok ⟨column, trigger, value⟩

/-- Plans the check. -/
def plan (d : Draft) : Except Problem Dependency := do
  let check ← d.decode read
  d.requireText "dependsOnColumn" check.column
  if check.trigger.isComparing && check.value.isAbsent then
    d.fault "dependency conditions 'equals' and 'not-equals' require a value"
  else .ok check

/-- Whether the check applies, given the cell of the other column. Cells are equal if their keys
are. -/
def applies (check : Dependency) (other : Cell) : Bool :=
  match check.trigger with
  | .present => !other.isAbsent
  | .absent => other.isAbsent
  | .equal => other.key? == check.value.key?
  | .notEqual => other.key? != check.value.key?

/-- The trigger in words. -/
def describe (check : Dependency) : String :=
  match check.trigger with
  | .present => check.column ++ " is provided"
  | .absent => check.column ++ " is empty"
  | .equal => check.column ++ " is '" ++ check.value.display ++ "'"
  | .notEqual => check.column ++ " is not '" ++ check.value.display ++ "'"

/-- Checks a cell of a row. -/
def judge (check : Dependency) (column : String) (value : Cell) (row : Row) : Outcome :=
  if check.applies (row.get check.column) then
    .check (!value.isAbsent) (column ++ " is required when " ++ check.describe)
  else .pass

end Dependency

end RowAudit
