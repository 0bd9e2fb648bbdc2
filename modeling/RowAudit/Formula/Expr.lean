import RowAudit.Aggregation.CallSite

/-!
# Formulas as trees

`Expr` is the tree of a formula. Besides the tree itself this module has what can be said of it
without evaluating it: whether it yields a verdict, which columns it reads, and its outline, a text
in which every node stands in parentheses.
-/

namespace RowAudit.Formula

/-- An arithmetical operation. -/
inductive Arithmetic where
  | add
  | sub
  | mul
  | div
  | rem
  deriving DecidableEq, Repr

/-- The sign of an operation. -/
def Arithmetic.symbol : Arithmetic → String
  | add => "+"
  | sub => "-"
  | mul => "*"
  | div => "/"
  | rem => "%"

/-- An operator between two operands. -/
inductive Operator where
  | arithmetic (a : Arithmetic)
  | comparison (c : Comparison)
  | and
  | or
  deriving DecidableEq, Repr

/-- The sign of an operator. -/
def Operator.symbol : Operator → String
  | arithmetic a => a.symbol
  | comparison c => c.symbol
  | and => "&&"
  | or => "||"

/-- Whether an operator yields a verdict. -/
def Operator.isVerdict : Operator → Bool
  | arithmetic _ => false
  | comparison _ => true
  | and => true
  | or => true

/-- The tree of a formula. -/
inductive Expr where
  | literal (c : Cell)
  | column (name : String)
  | list (items : List Expr)
  | negate (operand : Expr)
  | not (operand : Expr)
  | binary (op : Operator) (left right : Expr)
  | aggregate (a : Aggregation)

namespace Expr

/-- Whether a tree yields a verdict rather than a quantity. -/
def isPredicate : Expr → Bool
  | not _ => true
  | binary op _ _ => op.isVerdict
  | _ => false

/-- Whether a tree is the literal null. -/
def isNullLiteral : Expr → Bool
  | literal c => c.isNull
  | _ => false

mutual

/-- The columns that a tree reads, after those already seen, each once. -/
def columnsAfter (seen : List String) : Expr → List String
  | column name => if seen.contains name then seen else seen ++ [name]
  | list items => columnsAfterItems seen items
  | negate e => columnsAfter seen e
  | not e => columnsAfter seen e
  | binary _ l r => columnsAfter (columnsAfter seen l) r
  | literal _ => seen
  | aggregate _ => seen

/-- `columnsAfter` over the items of a list. -/
def columnsAfterItems (seen : List String) : List Expr → List String
  | [] => seen
  | e :: rest => columnsAfterItems (columnsAfter seen e) rest

end

/-- The columns that a tree reads, in the order in which they first occur. -/
def columns (e : Expr) : List String := columnsAfter [] e

/-- A literal in an outline. -/
def outlineLiteral : Cell → String
  | .number x => Number.display x
  | .text s => Json.quote s
  | c => c.display

mutual

/-- A tree as text, every node in parentheses. -/
def outline : Expr → String
  | literal c => outlineLiteral c
  | column name => "(col " ++ Json.quote name ++ ")"
  | list items => "(list" ++ outlineItems items ++ ")"
  | negate e => "(neg " ++ outline e ++ ")"
  | not e => "(not " ++ outline e ++ ")"
  | binary op l r => "(" ++ op.symbol ++ " " ++ outline l ++ " " ++ outline r ++ ")"
  | aggregate a => "(agg " ++ a.callSite ++ ")"

/-- `outline` over the items of a list, a blank before each. -/
def outlineItems : List Expr → String
  | [] => ""
  | e :: rest => " " ++ outline e ++ outlineItems rest

end

end Expr

end RowAudit.Formula
