import RowAudit.Cell.Basic

/-!
# Comparing cells

Two present cells are compared under the first reading that both have: truth values, numbers,
moments, texts. `coerce` makes that choice, `Coerced.order` gives the order under it, and a
`Comparison` holds if it allows that order. An absent cell satisfies no comparison.
-/

namespace RowAudit

/-- How exactly moments are compared. -/
inductive Precision where
  /-- By calendar day. -/
  | day
  /-- With the time of day. -/
  | exact
  deriving DecidableEq, Repr

/-- The precision that a switch for times of day asks for. -/
def Precision.ofTimeAware (timeAware : Bool) : Precision := if timeAware then exact else day

/-- The part of a moment that the precision keeps. -/
def Precision.truncate : Precision → Moment → Moment
  | day, m => .startOfDay m.date
  | exact, m => m

/-- Two cells under a common reading. -/
inductive Coerced where
  | bools (a b : Bool)
  | numbers (a b : Float)
  | moments (a b : Moment)
  | texts (a b : String)

/-- The order of two truth values, false first. -/
def boolOrder : Bool → Bool → Ordering
  | false, true => .lt
  | true, false => .gt
  | _, _ => .eq

/-- The order of two cells under their common reading. -/
def Coerced.order : Coerced → Option Ordering
  | bools a b => some (boolOrder a b)
  | numbers a b => Number.order a b
  | moments a b => some (a.order b)
  | texts a b => some (compare a b)

/-- The first reading that two cells have in common. -/
def coerce (p : Precision) (a b : Cell) : Option Coerced :=
  if a.isAbsent || b.isAbsent then none
  else
    match a, b with
    | .bool x, .bool y => some (.bools x y)
    | a, b =>
      match a.number?, b.number? with
      | some x, some y => some (.numbers x y)
      | _, _ =>
        match a.moment?, b.moment? with
        | some x, some y => some (.moments (p.truncate x) (p.truncate y))
        | _, _ => some (.texts a.display b.display)

/-- A comparison of two cells. -/
inductive Comparison where
  | equal
  | notEqual
  | greater
  | atLeast
  | less
  | atMost
  deriving DecidableEq, Repr

namespace Comparison

/-- The sign of a comparison in formulas. -/
def symbol : Comparison → String
  | equal => "=="
  | notEqual => "!="
  | greater => ">"
  | atLeast => ">="
  | less => "<"
  | atMost => "<="

/-- A comparison in words. -/
def describe : Comparison → String
  | equal => "equal to"
  | notEqual => "not equal to"
  | greater => "greater than"
  | atLeast => "greater than or equal to"
  | less => "less than"
  | atMost => "less than or equal to"

/-- Whether an order satisfies the comparison. -/
def allows : Comparison → Ordering → Bool
  | equal, o => o == .eq
  | notEqual, o => o != .eq
  | greater, o => o == .gt
  | atLeast, o => o != .lt
  | less, o => o == .lt
  | atMost, o => o != .gt

/-- Whether two cells satisfy the comparison at a precision. -/
def holdsAt (c : Comparison) (p : Precision) (a b : Cell) : Bool :=
  match (coerce p a b).bind Coerced.order with
  | some o => c.allows o
  | none => false

/-- Whether two cells satisfy the comparison, moments by calendar day. -/
def holds (c : Comparison) (a b : Cell) : Bool := c.holdsAt .day a b

/-- The name of a comparison in rules. -/
def name : Comparison → String
  | equal => "equals"
  | notEqual => "not-equals"
  | greater => "greater-than"
  | atLeast => "greater-than-equals"
  | less => "less-than"
  | atMost => "less-than-equals"

/-- The words that name comparisons. -/
def choices : Document.Choices Comparison :=
  [(["=", "==", "===", "eq", "equals"], equal),
   (["!=", "!==", "<>", "ne", "not-equals"], notEqual),
   ([">", "greater-than", "gt"], greater),
   ([">=", "greater-than-equals", "greater-than-or-equal", "gte"], atLeast),
   (["<", "less-than", "lt"], less),
   (["<=", "less-than-equals", "less-than-or-equal", "lte"], atMost)]

/-- Reads a comparison. -/
def read : Reader Comparison := Document.asChoice choices

/-- A comparison as JSON. -/
def toJson (c : Comparison) : Json := .text c.name

end Comparison

end RowAudit
