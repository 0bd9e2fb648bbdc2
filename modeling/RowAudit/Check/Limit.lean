import RowAudit.Check.Draft
import RowAudit.Check.Context

/-!
# Limits

Checks that compare a cell with one configured value: a cell with equality or order, or a date with
a limit that may be the present day or moment.
-/

namespace RowAudit

open Document

/-! ## Values -/

/-- A cell compared with a value. -/
structure ValueLimit where
  operator : Comparison
  limit : Cell
  /-- Whether both must be numbers. -/
  numeric : Bool

namespace ValueLimit

/-- The outcome for a cell that is no number. -/
def notNumeric (column : String) (value limit : Cell) : Outcome :=
  .fail ("Cannot compare non-numeric values: " ++ column ++ " is '" ++ value.display
    ++ "', limit is '" ++ limit.display ++ "'")

/-- Reads the value. -/
def readValue : Reader Cell := fun d => do
  let rec ← Parameters.record [slot "value" Cell.read] d
  rec.require "value" Cell.read

/-- Plans the check. -/
def plan (d : Draft) (operator : Comparison) (numeric : Bool) : Except Problem ValueLimit := do
  let limit ← d.decode readValue
  if limit.isNull then d.fault (d.kind.name ++ " requires parameter 'value'")
  else if numeric && limit.number?.isNone then
    d.fault (d.kind.name ++ " requires a numeric 'value', got '" ++ limit.display ++ "'")
  else .ok ⟨operator, limit, numeric⟩

/-- Checks a cell. -/
def judge (check : ValueLimit) (column : String) (value : Cell) : Outcome :=
  if check.numeric && value.number?.isNone then notNumeric column value check.limit
  else
    .check (check.operator.holds value check.limit)
      (column ++ " must be " ++ check.operator.describe ++ " " ++ check.limit.display ++ ", got '"
        ++ value.display ++ "'")

end ValueLimit

/-! ## Dates -/

/-- A configured date. -/
inductive DateLimit where
  | fixed (m : Moment)
  /-- The start of the present day. -/
  | today
  /-- The present moment. -/
  | now

namespace DateLimit

/-- The date that a text means. -/
def ofText? (s : String) : Option DateLimit :=
  let word := Text.trim s
  if Text.eqIgnoringAsciiCase word "today" then some today
  else if Text.eqIgnoringAsciiCase word "now" then some now
  else (Moment.ofText? s).map fixed

/-- The moment that a configured date means at a present moment. -/
def resolve (present : Moment) : DateLimit → Moment
  | fixed m => m
  | today => .startOfDay present.date
  | now => present

/-- The date of a parameter that may be missing. -/
def ofParameter (d : Draft) (name : String) : Option String → Except Problem (Option DateLimit)
  | none => .ok none
  | some s =>
    match ofText? s with
    | some l => .ok (some l)
    | none => d.fault ("'" ++ name ++ "' is not a valid date: '" ++ s ++ "'")

/-- Fails because a required date is missing. -/
def missing {α : Type} (d : Draft) (name : String) : Except Problem α :=
  d.fault (d.kind.name ++ " is required but '" ++ name ++ "' is not set")

end DateLimit

/-- On which side of a limit a date has to lie. -/
inductive Side where
  | before
  | after
  deriving DecidableEq, Repr

/-- Whether a date lies on a side of a limit, the limit itself included or not. -/
def Side.holds (side : Side) (inclusive : Bool) (date limit : Moment) : Bool :=
  match side, inclusive with
  | .before, true => date.order limit != .gt
  | .before, false => date.order limit == .lt
  | .after, true => date.order limit != .lt
  | .after, false => date.order limit == .gt

/-- A side of a limit in words. -/
def Side.describe (side : Side) (inclusive : Bool) : String :=
  match side, inclusive with
  | .before, true => "on or before"
  | .before, false => "before"
  | .after, true => "on or after"
  | .after, false => "after"

/-- The outcome for a cell that is no date. -/
def notADate (column : String) (value : Cell) : Outcome :=
  .fail (column ++ " value '" ++ value.display ++ "' is not a valid date")

/-- A date compared with a limit; without a limit every date passes. -/
structure DateBound where
  side : Side
  limit : Option DateLimit
  inclusive : Bool
  required : Bool
  timeAware : Bool

namespace DateBound

/-- Reads the parameters of a check on a side. -/
def read (side : Side) : Reader (Option String × (Option DateLimit → DateBound)) := fun d => do
  let rec ← Parameters.record
    [slot "compareDate" Parameters.asOptionalText, slot "inclusive" Parameters.asFlag,
     slot "required" Parameters.asFlag, slot "timeAware" Parameters.asFlag] d
  let compareDate ← rec.optional "compareDate" Parameters.asOptionalText none
  let inclusive ← rec.optional "inclusive" Parameters.asFlag false
  let required ← rec.optional "required" Parameters.asFlag false
  let timeAware ← rec.optional "timeAware" Parameters.asFlag false
  .ok (compareDate, fun limit => ⟨side, limit, inclusive, required, timeAware⟩)

/-- Plans the check. -/
def plan (d : Draft) (side : Side) : Except Problem DateBound := do
  let (compareDate, check) ← d.decode (read side)
  let limit ← DateLimit.ofParameter d "compareDate" compareDate
  let check := check limit
  if limit.isNone && check.required then DateLimit.missing d "compareDate" else .ok check

/-- Checks a cell. -/
def judge (check : DateBound) (column : String) (value : Cell) (ctx : Context) : Outcome :=
  if value.isAbsent then .check (!check.required) (column ++ " is required")
  else
    match check.limit, value.moment? with
    | none, _ => .pass
    | some _, none => notADate column value
    | some limit, some date =>
      let p := ctx.precision check.timeAware
      let limit := p.truncate (limit.resolve ctx.now)
      .check (check.side.holds check.inclusive (p.truncate date) limit)
        (column ++ " must be " ++ check.side.describe check.inclusive ++ " " ++ limit.text
          ++ ", got '" ++ value.display ++ "'")

end DateBound

end RowAudit
