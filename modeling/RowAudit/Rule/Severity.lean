import RowAudit.Json.Decode

/-!
# Severities

A rule says how serious its failures are; a finding has a grade, which is success or the severity of
what went wrong. Both are ordered by how serious they are.
-/

namespace RowAudit

/-- How serious the failures of a rule are. -/
inductive Severity where
  | warning
  | failure
  deriving DecidableEq, Repr

namespace Severity

/-- The name of a severity. -/
def name : Severity → String
  | warning => "warning"
  | failure => "failure"

/-- The place of a severity in the order. -/
def rank : Severity → Nat
  | warning => 0
  | failure => 1

/-- The words that name severities. -/
def choices : Document.Choices Severity :=
  [(["warning"], warning), (["error", "failure"], failure)]

/-- Reads a severity. -/
def read : Reader Severity := Document.asChoice choices

/-- A severity as JSON. -/
def toJson (s : Severity) : Json := .text s.name

end Severity

/-- The grade of a finding. -/
inductive Grade where
  | success
  | warning
  | failure
  deriving DecidableEq, Repr

namespace Grade

/-- The grade of a failure of some severity. -/
def ofSeverity : Severity → Grade
  | .warning => warning
  | .failure => failure

/-- The name of a grade. -/
def name : Grade → String
  | success => "success"
  | warning => "warning"
  | failure => "failure"

/-- The place of a grade in the order. -/
def rank : Grade → Nat
  | success => 0
  | warning => 1
  | failure => 2

/-- Whether a grade is success. -/
def isSuccess (g : Grade) : Bool := g == success

/-- The words that name grades. -/
def choices : Document.Choices Grade :=
  [(["success"], success), (["warning"], warning), (["failure"], failure)]

/-- Reads a grade. -/
def read : Reader Grade := Document.asChoice choices

/-- A grade as JSON. -/
def toJson (g : Grade) : Json := .text g.name

end Grade

end RowAudit
