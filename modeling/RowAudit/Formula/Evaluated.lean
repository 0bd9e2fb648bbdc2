import RowAudit.Formula.Expr

/-!
# Values of formulas

A formula yields one cell, or one cell for each group of an aggregation together with the handling
that turns them into a verdict. The operations on cells are carried over to groups here: a cell
beside groups goes with each of them, and groups go with groups one by one.
-/

namespace RowAudit.Formula

/-- The value of a formula. -/
inductive Evaluated where
  | scalar (c : Cell)
  | groups (values : List Cell) (handling : Aggregation.Handling)

namespace Evaluated

/-- Whether a value counts as true: the cell, or as many groups as the handling asks for. -/
def verdict : Evaluated → Bool
  | scalar c => c.truthy
  | groups values handling => handling.reduce (values.map Cell.truthy)

/-- The value of a formula without groups. -/
def scalar? : Evaluated → Option Cell
  | scalar c => some c
  | groups _ _ => none

/-- A value as messages show it. -/
def describe : Evaluated → String
  | scalar c => c.display
  | groups values _ => toString values.length ++ " groups"

/-- Applies a function to cells one after the other. -/
def mapCells (f : Cell → Except Fault Cell) : List Cell → Except Fault (List Cell)
  | [] => .ok []
  | c :: rest => do
    let d ← f c
    let ds ← mapCells f rest
    .ok (d :: ds)

/-- Applies a function to the cell, or to the cell of each group. -/
def map (f : Cell → Except Fault Cell) : Evaluated → Except Fault Evaluated
  | scalar c => (f c).map scalar
  | groups values handling => (mapCells f values).map (groups · handling)

/-- Applies a function to cells pair by pair. -/
def zipCells (f : Cell → Cell → Except Fault Cell) :
    List Cell → List Cell → Except Fault (List Cell)
  | a :: as, b :: bs => do
    let c ← f a b
    let cs ← zipCells f as bs
    .ok (c :: cs)
  | _, _ => .ok []

/-- Applies a function to two values. Two lists of groups must have one length; the handling of the
first one stays. -/
def combine (f : Cell → Cell → Except Fault Cell) : Evaluated → Evaluated → Except Fault Evaluated
  | scalar a, scalar b => (f a b).map scalar
  | groups as handling, scalar b => (mapCells (f · b) as).map (groups · handling)
  | scalar a, groups bs handling => (mapCells (f a) bs).map (groups · handling)
  | groups as handling, groups bs _ =>
    if as.length = bs.length then (zipCells f as bs).map (groups · handling)
    else .error (.misuse (.groupCounts as.length bs.length))

end Evaluated

/-! ## Operations on cells -/

/-- The negative of a cell; an absent cell gives null. -/
def negateCell (c : Cell) : Except Fault Cell :=
  if c.isAbsent then .ok .null
  else
    match c.number? with
    | some x => .ok (.number (-x))
    | none => .error (.misuse (.negation c))

namespace Arithmetic

/-- The result of an operation on two numbers; none for a division by zero. -/
def result? (op : Arithmetic) (x y : Float) : Option Float :=
  match op with
  | add => some (x + y)
  | sub => some (x - y)
  | mul => some (x * y)
  | div => if Number.isZero y then none else some (x / y)
  | rem => if Number.isZero y then none else some (Number.remainder x y)

/-- An operation on two numbers. A result that is not finite is a fault. -/
def onNumbers (op : Arithmetic) (x y : Float) : Except Fault Cell :=
  match op.result? x y with
  | none => .error .divisionByZero
  | some z =>
    if Number.isFinite z then .ok (.number z) else .error (.misuse (.overflow op.symbol x y))

/-- Whether a cell is a text. -/
def isText : Cell → Bool
  | .text _ => true
  | _ => false

/-- An operation on two cells. An absent operand gives null, and a sum with a text that spells no
number joins the texts of its operands. -/
def onCells (op : Arithmetic) (a b : Cell) : Except Fault Cell :=
  if a.isAbsent || b.isAbsent then .ok .null
  else
    match a.number?, b.number? with
    | some x, some y => op.onNumbers x y
    | _, _ =>
      if op = add ∧ (isText a || isText b) then .ok (.text (a.display ++ b.display))
      else .error (.misuse (.operands op.symbol a b))

end Arithmetic

end RowAudit.Formula
