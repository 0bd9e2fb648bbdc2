import RowAudit.Check.Limit

/-!
# Intervals

Checks that a number or a date lies between two bounds. A bound that is not set leaves its side
open.
-/

namespace RowAudit

open Document

/-- The word for whether the bounds belong to an interval. -/
def intervalMode (inclusive : Bool) : String := if inclusive then "inclusive" else "exclusive"

/-! ## Numbers -/

/-- A number between bounds; an absent bound is not set. -/
structure NumberInterval where
  min : Cell
  max : Cell
  inclusive : Bool

namespace NumberInterval

/-- Reads the parameters. -/
def read : Reader NumberInterval := fun d => do
  let rec ← Parameters.record
    [slot "min" Cell.read, slot "max" Cell.read, slot "inclusive" Parameters.asFlag] d
  let min ← rec.optional "min" Cell.read .null
  let max ← rec.optional "max" Cell.read .null
  let inclusive ← rec.optional "inclusive" Parameters.asFlag true
  .ok ⟨min, max, inclusive⟩

/-- Fails unless a bound is a number or absent. -/
def requireNumber (d : Draft) (name : String) (bound : Cell) : Except Problem Unit :=
  if !bound.isAbsent && bound.number?.isNone then
    d.fault ("range '" ++ name ++ "' must be numeric, got '" ++ bound.display ++ "'")
  else .ok ()

/-- Plans the check. -/
def plan (d : Draft) : Except Problem NumberInterval := do
  let check ← d.decode read
  if check.min.isAbsent && check.max.isAbsent then
    d.fault "range requires 'min', 'max' or both"
  else do
    requireNumber d "min" check.min
    requireNumber d "max" check.max
    .ok check

/-- The comparison with the lower bound. -/
def lower (check : NumberInterval) : Comparison := if check.inclusive then .atLeast else .greater

/-- The comparison with the upper bound. -/
def upper (check : NumberInterval) : Comparison := if check.inclusive then .atMost else .less

/-- The bounds in words. -/
def describe (check : NumberInterval) : String :=
  match check.min.isAbsent, check.max.isAbsent with
  | false, false => "between " ++ check.min.display ++ " and " ++ check.max.display
  | false, true => check.lower.describe ++ " " ++ check.min.display
  | true, _ => check.upper.describe ++ " " ++ check.max.display

/-- Checks a cell. -/
def judge (check : NumberInterval) (column : String) (value : Cell) : Outcome :=
  match value.number? with
  | none =>
    ValueLimit.notNumeric column value (if check.min.isAbsent then check.max else check.min)
  | some x =>
    let aboveMin := check.min.isAbsent || check.lower.holds (.number x) check.min
    let belowMax := check.max.isAbsent || check.upper.holds (.number x) check.max
    .check (aboveMin && belowMax)
      (column ++ " must be " ++ check.describe ++ " (" ++ intervalMode check.inclusive
        ++ "), got '" ++ value.display ++ "'")

end NumberInterval

/-! ## Dates -/

/-- A date between bounds. -/
structure DateInterval where
  start : Option DateLimit
  stop : Option DateLimit
  inclusive : Bool
  required : Bool
  timeAware : Bool

namespace DateInterval

/-- The parameters as they are written. -/
structure Written where
  start : Option String
  stop : Option String
  inclusive : Bool
  required : Bool
  timeAware : Bool

/-- Reads the parameters. -/
def read : Reader Written := fun d => do
  let rec ← Parameters.record
    [slot "startDate" Parameters.asOptionalText, slot "endDate" Parameters.asOptionalText,
     slot "inclusive" Parameters.asFlag, slot "required" Parameters.asFlag,
     slot "timeAware" Parameters.asFlag] d
  let start ← rec.optional "startDate" Parameters.asOptionalText none
  let stop ← rec.optional "endDate" Parameters.asOptionalText none
  let inclusive ← rec.optional "inclusive" Parameters.asFlag true
  let required ← rec.optional "required" Parameters.asFlag false
  let timeAware ← rec.optional "timeAware" Parameters.asFlag false
  .ok ⟨start, stop, inclusive, required, timeAware⟩

/-- Plans the check. Two fixed bounds must not be in the wrong order. -/
def plan (d : Draft) : Except Problem DateInterval := do
  let w ← d.decode read
  let start ← DateLimit.ofParameter d "startDate" w.start
  let stop ← DateLimit.ofParameter d "endDate" w.stop
  if w.required && start.isNone then DateLimit.missing d "startDate"
  else if w.required && stop.isNone then DateLimit.missing d "endDate"
  else
    let check : DateInterval := ⟨start, stop, w.inclusive, w.required, w.timeAware⟩
    match start, stop with
    | some (.fixed s), some (.fixed e) =>
      if s.order e = .gt then
        d.fault ("startDate " ++ s.text ++ " is after endDate " ++ e.text)
      else .ok check
    | _, _ => .ok check

/-- A bound in words. -/
def describe : Option Moment → String
  | some m => m.text
  | none => "open"

/-- Checks a cell. -/
def judge (check : DateInterval) (column : String) (value : Cell) (ctx : Context) : Outcome :=
  if value.isAbsent then .check (!check.required) (column ++ " is required")
  else if check.start.isNone && check.stop.isNone then .pass
  else
    match value.moment? with
    | none => notADate column value
    | some date =>
      let p := ctx.precision check.timeAware
      let date := p.truncate date
      let start := check.start.map fun l => p.truncate (l.resolve ctx.now)
      let stop := check.stop.map fun l => p.truncate (l.resolve ctx.now)
      let afterStart := start.all fun s => Side.after.holds check.inclusive date s
      let beforeStop := stop.all fun e => Side.before.holds check.inclusive date e
      .check (afterStart && beforeStop)
        (column ++ " must be between " ++ describe start ++ " and " ++ describe stop ++ " ("
          ++ intervalMode check.inclusive ++ "), got '" ++ value.display ++ "'")

end DateInterval

end RowAudit
