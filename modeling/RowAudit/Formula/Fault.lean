import RowAudit.Formula.Token
import RowAudit.Cell.Basic

/-!
# What can be wrong with a formula

A `Flaw` is a mistake in the text of a formula, a `Misuse` a value used for what it is not. `Fault`
puts them together with the other ways in which a formula can fail, and `Fault.message` words them.
-/

namespace RowAudit.Formula

/-- A mistake in the text of a formula. -/
inductive Flaw where
  | empty
  | strayCharacter (c : Char)
  | badNumber (spelling : String)
  | openText
  /-- A token that can start no operand. -/
  | stray (t : Token)
  /-- A token after a whole expression. -/
  | trailing (t : Token)
  /-- Another token, or the end, where a sign has to stand. -/
  | missing (s : Sign) (found : Option Token)
  | unfinished
  | tooDeep
  | tooLarge
  /-- A call where only the columns of a row may be used. -/
  | callRefused (name : String)
  | fieldName
  | quotedFieldName
  | noted (message : String)

/-- The wording of a flaw. -/
def Flaw.message : Flaw → String
  | empty => "empty expression"
  | strayCharacter c => "unexpected character '" ++ String.ofList [c] ++ "'"
  | badNumber spelling => "invalid number '" ++ spelling ++ "'"
  | openText => "unterminated string literal"
  | stray t => "unexpected " ++ t.describe
  | trailing t => "unexpected " ++ t.describe ++ " after expression"
  | missing s found =>
    "expected '" ++ s.symbol ++ "', found "
      ++ (match found with
          | some t => t.describe
          | none => "end of input")
  | unfinished => "unexpected end of expression"
  | tooDeep => "expression nested too deeply"
  | tooLarge => "expression too large"
  | callRefused name => "function calls are not allowed here ('" ++ name ++ "')"
  | fieldName => "expected field name after 'row.'"
  | quotedFieldName => "expected quoted field name in row[...]"
  | noted message => message

/-- A value used for what it is not. -/
inductive Misuse where
  /-- The first argument of a function is no column name. -/
  | columnArgument (function : String)
  /-- The filter argument of a function is no text. -/
  | filterArgument (function : String)
  | groupItem
  | groupArgument
  | distinctArgument
  | groupsInList
  /-- Two grouped operands whose groups do not pair up. -/
  | groupCounts (left right : Nat)
  | negation (c : Cell)
  | operands (symbol : String) (left right : Cell)
  /-- A result beyond the finite numbers. -/
  | overflow (symbol : String) (left right : Float)
  | noted (message : String)

/-- A cell with its kind, as messages show it. -/
def describeCell (c : Cell) : String := c.kind ++ " '" ++ c.display ++ "'"

/-- The wording of a misuse. -/
def Misuse.message : Misuse → String
  | columnArgument function => "first argument of " ++ function ++ " must be a column name"
  | filterArgument function => "filter argument of " ++ function ++ " must be a string"
  | groupItem => "group columns must be string literals"
  | groupArgument => "group columns must be a list of column names"
  | distinctArgument => "distinct column must be a column name"
  | groupsInList => "grouped aggregations cannot appear inside a list"
  | groupCounts left right =>
    "grouped operands have different group counts (" ++ toString left ++ " vs " ++ toString right
      ++ ")"
  | negation c => "cannot negate " ++ describeCell c
  | operands symbol left right =>
    "cannot apply '" ++ symbol ++ "' to " ++ describeCell left ++ " and " ++ describeCell right
  | overflow symbol left right =>
    Number.text left ++ " " ++ symbol ++ " " ++ Number.text right ++ " overflows"
  | noted message => message

/-- Why a formula cannot be read or evaluated. -/
inductive Fault where
  | malformed (flaw : Flaw) (position : Nat)
  | unknownFunction (name : String)
  | arity (function : String) (found : Nat)
  | divisionByZero
  | misuse (m : Misuse)
  | aggregation (message : String)

/-- The wording of a fault. -/
def Fault.message : Fault → String
  | malformed flaw position =>
    "Syntax error at position " ++ toString position ++ ": " ++ flaw.message
  | unknownFunction name => "Unknown function '" ++ name ++ "'"
  | arity function found => function ++ " expects 1 to 4 arguments, got " ++ toString found
  | divisionByZero => "Division by zero"
  | misuse m => "Type error: " ++ m.message
  | aggregation message => "Aggregation error: " ++ message

end RowAudit.Formula
