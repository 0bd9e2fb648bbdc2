import RowAudit.Number.Text
import RowAudit.Number.Reader

/-!
# Tokens of formulas

A formula is read as a row of tokens: numbers, quoted texts, names and signs. A `Spanned` token
carries the byte position at which it starts. This module names the tokens as messages show them.
-/

namespace RowAudit.Formula

/-- A punctuation mark or an operator word. -/
inductive Sign where
  | plus
  | minus
  | star
  | slash
  | percent
  | openParen
  | closeParen
  | openBracket
  | closeBracket
  | comma
  | dot
  | equal
  | notEqual
  | less
  | atMost
  | greater
  | atLeast
  | and
  | or
  | not
  deriving DecidableEq, Repr

/-- The spelling by which messages name a sign. -/
def Sign.symbol : Sign → String
  | plus => "+"
  | minus => "-"
  | star => "*"
  | slash => "/"
  | percent => "%"
  | openParen => "("
  | closeParen => ")"
  | openBracket => "["
  | closeBracket => "]"
  | comma => ","
  | dot => "."
  | equal => "=="
  | notEqual => "!="
  | less => "<"
  | atMost => "<="
  | greater => ">"
  | atLeast => ">="
  | and => "&&"
  | or => "||"
  | not => "!"

/-- The smallest unit of a formula. -/
inductive Token where
  | number (x : Float)
  | text (s : String)
  | name (s : String)
  | sign (s : Sign)
  deriving DecidableEq

/-- A token as messages name it. -/
def Token.describe : Token → String
  | number x => "number " ++ Number.display x
  | text s => "string '" ++ s ++ "'"
  | name s => "identifier '" ++ s ++ "'"
  | sign s => "'" ++ s.symbol ++ "'"

/-- A token and the byte position of its first character. -/
structure Spanned where
  token : Token
  position : Nat

end RowAudit.Formula
