import RowAudit.Json.Decode

/-!
# Outcomes

The outcome of a check on one row: whether it passes, and if not, why, and on which column if that
is not the column of the rule.
-/

namespace RowAudit

/-- What a check says about a row. -/
structure Outcome where
  isValid : Bool
  message : Option String
  column : Option String
  deriving DecidableEq, Repr

namespace Outcome

/-- The row passes. -/
def pass : Outcome := ⟨true, none, none⟩

/-- The row fails. -/
def fail (message : String) : Outcome := ⟨false, some message, none⟩

/-- The row passes or fails. -/
def check (ok : Bool) (message : String) : Outcome := if ok then pass else fail message

/-- An outcome about a given column. -/
def onColumn (o : Outcome) (column : String) : Outcome := { o with column := some column }

/-- Whether the row fails. -/
def isFailure (o : Outcome) : Bool := !o.isValid

/-- An outcome made of a truth value is as valid as that. -/
theorem isValid_check (ok : Bool) (message : String) : (check ok message).isValid = ok := by
  cases ok <;> rfl

/-- Reads an outcome. -/
def read : Reader Outcome := fun d => do
  let rec ← Document.asRecord "Outcome"
    [Document.slot "isValid" Document.asBool,
     Document.slot "message" (Document.asOption Document.asText),
     Document.slot "column" (Document.asOption Document.asText)] d
  let isValid ← rec.require "isValid" Document.asBool
  let message ← rec.nullable "message" Document.asText
  let column ← rec.nullable "column" Document.asText
  rec.finish
  .ok ⟨isValid, message, column⟩

/-- An outcome as JSON; what is not set is left out. -/
def toJson (o : Outcome) : Json :=
  .object <|
    ("isValid", .bool o.isValid) :: (o.message.map fun s => ("message", Json.text s)).toList
      ++ (o.column.map fun s => ("column", Json.text s)).toList

end Outcome

end RowAudit
