import RowAudit.Rule.Basic
import RowAudit.Problem
import RowAudit.Check.Outcome
import RowAudit.Text.Basic

/-!
# Planning a check

A `Draft` is what a check is planned from: a whole rule or one of its conditions. `Draft.decode`
reads its parameters. Parameters come from forms, so that the readers here take a text for a truth
value, a comma-separated text for a list, and any cell for a text.
-/

namespace RowAudit

open Document

/-- What a check is planned from. -/
structure Draft where
  rule : String
  kind : RuleKind
  column : String
  secondaryColumns : List String
  parameters : Parameters
  tableConditions : List TableCondition

namespace Draft

/-- A rule as a draft. -/
def ofRule (r : Rule) : Draft :=
  ⟨r.name, r.kind, r.column, r.secondaryColumns, r.parameters, r.tableConditions⟩

/-- A condition of a rule as a draft. -/
def ofCondition (r : Rule) (c : ColumnCondition) : Draft :=
  ⟨r.name, c.kind, c.column, [], c.parameters, r.tableConditions⟩

/-- Fails because of the rule. -/
def fault {α : Type} (d : Draft) (message : String) : Except Problem α :=
  .error (.configuration d.rule message)

/-- Reads the parameters. -/
def decode {α : Type} (d : Draft) (r : Reader α) : Except Problem α :=
  match r (.ofJson (.object d.parameters)) with
  | .ok a => .ok a
  | .error m =>
    d.fault ("invalid parameters for " ++ d.kind.name ++ ": " ++ m.message.getD "malformed text")

/-- Fails if a text parameter is blank. -/
def requireText (d : Draft) (name value : String) : Except Problem Unit :=
  if Text.isBlankText value then d.fault (d.kind.name ++ " requires parameter '" ++ name ++ "'")
  else .ok ()

/-- The columns of a parameter, or, if it names none, the columns of the rule. -/
def columnsOr (d : Draft) (columns : List String) : List String :=
  if columns.isEmpty then (if d.column = "" then [] else [d.column]) ++ d.secondaryColumns
  else columns

end Draft

namespace Parameters

/-- Reads the fields of a parameter record. -/
def record (slots : List Slot) : Reader Record := asRecord "Parameters" slots

/-- Reads a truth value from a cell: null and the empty text are false, a number is true if it is
not zero, and a text has to spell a truth value. -/
def asFlag : Reader Bool := fun d => do
  let c ← Cell.read d
  match c with
  | .null => .ok false
  | .bool b => .ok b
  | .number x => .ok (!Number.isZero x)
  | c =>
    if c.isAbsent then .ok false
    else
      match c.bool? with
      | some b => .ok b
      | none => .error (.other ("expected a boolean, got '" ++ c.display ++ "'"))

/-- The texts that a cell stands for: the items of a list, the pieces of a comma-separated text, or
the text of any other cell. -/
def textsOf : Cell → List String
  | .null => []
  | .list items => items.map Cell.display
  | .text s => Text.commaList s
  | c => [c.display]

/-- Reads a list of texts. -/
def asTexts : Reader (List String) := fun d => (Cell.read d).map textsOf

/-- Reads a text from any cell; an absent cell gives none. -/
def asOptionalText : Reader (Option String) := fun d =>
  (Cell.read d).map fun c => if c.isAbsent then none else some c.display

end Parameters

end RowAudit
