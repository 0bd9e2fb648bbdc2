import RowAudit.Formula.Expr

/-!
# Reading formulas

The levels of the grammar, loosest first, are `||`, `&&`, the comparisons, `+ -`, `* / %`, the
signs in front of an operand, and operands. All operators between operands group to the left.
Parentheses, list items, arguments and signs in front each go one level deeper, of which there are
`maxDepth`; an expression has at most `maxOperators` operators.

In the row dialect a formula sees the columns of one row and calls nothing; it may start with the
word `return`. In the table dialect it may also call aggregate functions.
-/

namespace RowAudit.Formula

open RowAudit.Text

/-- What a formula may refer to. -/
inductive Dialect where
  /-- The columns of a row. -/
  | row
  /-- The columns of a row and aggregations over its table. -/
  | table
  deriving DecidableEq, Repr

/-- The number of levels that an expression may have. -/
def maxDepth : Nat := 64

/-- The number of operators that an expression may have. -/
def maxOperators : Nat := 256

/-! ## Steps -/

/-- What is left to read, and how many operators have been read. -/
structure Progress where
  tokens : List Spanned
  operators : Nat

/-- A step of reading. -/
abbrev Step (α : Type) := StateT Progress (Except Fault) α

/-- What stays the same while an expression is read. -/
structure Setting where
  dialect : Dialect
  /-- The position after the last character. -/
  stop : Nat
  /-- Finds fault with the filter of an aggregation. -/
  checkFilter : String → Except Fault Unit

namespace Setting

/-- The position of the next token, or of the end. -/
def position (s : Setting) (p : Progress) : Nat :=
  match p.tokens with
  | t :: _ => t.position
  | [] => s.stop

/-- Fails at the next token. -/
def failHere {α : Type} (s : Setting) (flaw : Flaw) : Step α := do
  let p ← get
  throw (.malformed flaw (s.position p))

end Setting

/-- The next token. -/
def peek : Step (Option Token) := do
  let p ← get
  pure (p.tokens.head?.map Spanned.token)

/-- Takes the next token. -/
def advance : Step Unit := modify fun p => { p with tokens := p.tokens.tail }

/-- Takes a sign if it comes next, and says whether it did. -/
def eat (sign : Sign) : Step Bool := do
  let t ← peek
  if t = some (.sign sign) then
    advance
    pure true
  else pure false

namespace Setting

/-- Takes a sign, which must come next. -/
def expect (s : Setting) (sign : Sign) : Step Unit := do
  if ← eat sign then pure ()
  else
    let t ← peek
    s.failHere (.missing sign t)

/-- Takes the next token as an operator. -/
def takeOperator (s : Setting) : Step Unit := do
  let p ← get
  if p.operators < maxOperators then
    set { p with operators := p.operators + 1 }
    advance
  else s.failHere .tooLarge

end Setting

/-! ## Operators between operands -/

/-- The operators of a level. -/
abbrev Level := Sign → Option Operator

/-- The operator of a level that a token is. -/
def Level.operator? (level : Level) : Option Token → Option Operator
  | some (.sign s) => level s
  | _ => none

/-- The loosest level. -/
def orLevel : Level
  | .or => some .or
  | _ => none

/-- The level of conjunctions. -/
def andLevel : Level
  | .and => some .and
  | _ => none

/-- The level of comparisons. -/
def comparisonLevel : Level
  | .equal => some (.comparison .equal)
  | .notEqual => some (.comparison .notEqual)
  | .less => some (.comparison .less)
  | .atMost => some (.comparison .atMost)
  | .greater => some (.comparison .greater)
  | .atLeast => some (.comparison .atLeast)
  | _ => none

/-- The level of sums. -/
def sumLevel : Level
  | .plus => some (.arithmetic .add)
  | .minus => some (.arithmetic .sub)
  | _ => none

/-- The level of products. -/
def productLevel : Level
  | .star => some (.arithmetic .mul)
  | .slash => some (.arithmetic .div)
  | .percent => some (.arithmetic .rem)
  | _ => none

namespace Setting

/-- Goes on after an operand of a level as long as an operator of it comes, at most `fuel` times. -/
def chainFrom (s : Setting) (level : Level) (operand : Step Expr) : Nat → Expr → Step Expr
  | 0, left => pure left
  | fuel + 1, left => do
    let t ← peek
    match level.operator? t with
    | none => pure left
    | some op =>
      s.takeOperator
      let right ← operand
      chainFrom s level operand fuel (.binary op left right)

/-- Operands with operators of one level between them. Every operator is a token, so that the number
of tokens bounds the number of rounds. -/
def chain (s : Setting) (level : Level) (operand : Step Expr) : Step Expr := do
  let left ← operand
  let p ← get
  s.chainFrom level operand p.tokens.length left

/-- All levels of operators over operands. -/
def levels (s : Setting) (operand : Step Expr) : Step Expr :=
  s.chain orLevel (s.chain andLevel (s.chain comparisonLevel (s.chain sumLevel
    (s.chain productLevel operand))))

/-! ## Lists and calls -/

/-- Items with commas between them up to a closing sign, at most `fuel` of them. -/
def itemsFrom (s : Setting) (closing : Sign) (item : Step Expr) : Nat → Step (List Expr)
  | 0 => s.failHere .unfinished
  | fuel + 1 => do
    let e ← item
    if ← eat closing then pure [e]
    else
      s.expect .comma
      let es ← itemsFrom s closing item fuel
      pure (e :: es)

/-- Any number of items up to a closing sign. Every item takes a token, so that the number of tokens
bounds the number of items. -/
def items (s : Setting) (closing : Sign) (item : Step Expr) : Step (List Expr) := do
  if ← eat closing then pure []
  else
    let p ← get
    s.itemsFrom closing item (p.tokens.length + 1)

/-- The column that the first argument of a function names. -/
def columnArgument (f : Aggregation.Function) : Expr → Except Fault String
  | .literal (.text name) => .ok name
  | .column name => .ok name
  | _ => .error (.misuse (.columnArgument f.name))

/-- The filter that the second argument of a function gives. -/
def filterArgument (s : Setting) (f : Aggregation.Function) :
    Option Expr → Except Fault (Option Aggregation.Filter)
  | none => .ok none
  | some (.literal .null) => .ok none
  | some (.literal (.text source)) =>
    if isBlankText source then .ok none
    else do
      s.checkFilter source
      .ok (some (.formula source))
  | some _ => .error (.misuse (.filterArgument f.name))

/-- The group columns of a list of literals. -/
def groupItems : List Expr → Except Fault (List String)
  | [] => .ok []
  | .literal (.text name) :: rest => do
    let names ← groupItems rest
    .ok (name :: names)
  | _ :: _ => .error (.misuse .groupItem)

/-- The group columns that the third argument of a function gives. -/
def groupArgument : Option Expr → Except Fault (List String)
  | none => .ok []
  | some (.literal .null) => .ok []
  | some (.literal (.text names)) => .ok (commaList names)
  | some (.list items) => groupItems items
  | some _ => .error (.misuse .groupArgument)

/-- The distinct column that the fourth argument of a function gives. -/
def distinctArgument : Option Expr → Except Fault (Option String)
  | none => .ok none
  | some (.literal .null) => .ok none
  | some (.literal (.text name)) =>
    if name = "" then .error (.misuse .distinctArgument) else .ok (some name)
  | some _ => .error (.misuse .distinctArgument)

/-- The aggregation of a call. -/
def aggregation (s : Setting) (f : Aggregation.Function) (arguments : List Expr) :
    Except Fault Aggregation :=
  match arguments with
  | [] => .error (.arity f.name 0)
  | column :: rest => do
    if 3 < rest.length then throw (.arity f.name arguments.length)
    let name ← columnArgument f column
    let filter ← s.filterArgument f rest[0]?
    let groups ← groupArgument rest[1]?
    let distinct ← distinctArgument rest[2]?
    pure
      { function := f, column := name, filter, groupColumns := groups, distinctColumn := distinct }

/-- The rest of a call after its opening parenthesis. -/
def call (s : Setting) (expression : Step Expr) (name : String) (position : Nat) : Step Expr :=
  match s.dialect with
  | .row => throw (.malformed (.callRefused name) position)
  | .table =>
    match Aggregation.Function.named? name with
    | none => throw (.unknownFunction name)
    | some f => do
      let arguments ← s.items .closeParen expression
      match s.aggregation f arguments with
      | .ok a => pure (.aggregate a)
      | .error fault => throw fault

/-! ## Operands -/

/-- The literal that a name spells. -/
def namedLiteral? (name : String) : Option Cell :=
  if ["true", "TRUE", "True"].contains name then some (.bool true)
  else if ["false", "FALSE", "False"].contains name then some (.bool false)
  else if ["null", "NULL", "undefined"].contains name then some .null
  else none

/-- The rest of an operand that starts with a name: a literal, a call, a column of the row or a
plain column. -/
def afterName (s : Setting) (expression : Step Expr) (name : String) (position : Nat) :
    Step Expr := do
  match namedLiteral? name with
  | some c => pure (.literal c)
  | none =>
    let t ← peek
    if t = some (.sign .openParen) then
      advance
      s.call expression name position
    else if t = some (.sign .dot) ∧ name = "row" then
      advance
      match ← peek with
      | some (.name field) =>
        advance
        pure (.column field)
      | _ => s.failHere .fieldName
    else if t = some (.sign .openBracket) ∧ name = "row" then
      advance
      match ← peek with
      | some (.text field) =>
        advance
        s.expect .closeBracket
        pure (.column field)
      | _ => s.failHere .quotedFieldName
    else pure (.column name)

/-- An operand without signs in front; `expression` reads what stands inside brackets. -/
def primary (s : Setting) (expression : Step Expr) : Step Expr := do
  let p ← get
  match p.tokens with
  | [] => s.failHere .unfinished
  | ⟨t, position⟩ :: _ =>
    advance
    match t with
    | .number x => pure (.literal (.number x))
    | .text content => pure (.literal (.text content))
    | .name name => s.afterName expression name position
    | .sign .openParen => do
      let e ← expression
      s.expect .closeParen
      pure e
    | .sign .openBracket => do
      let es ← s.items .closeBracket expression
      pure (.list es)
    | .sign _ => throw (.malformed (.stray t) position)

/-- The node of a sign in front of an operand; a plus leaves none. -/
def signed? : Option Token → Option (Expr → Expr)
  | some (.sign .minus) => some .negate
  | some (.sign .not) => some .not
  | some (.sign .plus) => some id
  | _ => none

/-- An operand; `operand` reads what stands after a sign in front, and `expression` what stands
inside brackets. -/
def unaryWith (s : Setting) (operand expression : Step Expr) : Step Expr := do
  let t ← peek
  match signed? t with
  | none => s.primary expression
  | some node =>
    s.takeOperator
    let e ← operand
    pure (node e)

/-- An operand inside which there may be `depth` more levels. -/
def unary (s : Setting) : Nat → Step Expr
  | 0 => s.unaryWith (s.failHere .tooDeep) (s.failHere .tooDeep)
  | depth + 1 => s.unaryWith (unary s depth) (s.levels (unary s depth))

/-- A whole expression. -/
def expression (s : Setting) : Step Expr := s.levels (s.unary (maxDepth - 1))

/-- Reads all tokens as one expression. -/
def parse (s : Setting) (tokens : List Spanned) : Except Fault Expr := do
  let (e, p) ← s.expression.run ⟨tokens, 0⟩
  match p.tokens with
  | [] => .ok e
  | ⟨t, position⟩ :: _ => .error (.malformed (.trailing t) position)

end Setting

/-! ## Whole texts -/

/-- Characters together with the byte position of the first one. -/
structure Body where
  chars : List Char
  position : Nat

namespace Body

/-- Drops leading characters up to a suffix. -/
def startingAt (b : Body) (rest : List Char) : Body :=
  ⟨rest, b.position + (byteLength b.chars - byteLength rest)⟩

/-- Drops white space on both sides. -/
def trimmed (b : Body) : Body :=
  let b := b.startingAt (dropBlanks b.chars)
  { b with chars := dropBlanksRight b.chars }

/-- Drops a semicolon at the end, and white space before it. -/
def withoutSemicolon (b : Body) : Body :=
  match b.chars.reverse with
  | ';' :: rest => { b with chars := dropBlanksRight rest.reverse }
  | _ => b

/-- Drops the word `return` in front of a blank or a parenthesis. -/
def withoutReturn (b : Body) : Body :=
  match b.chars with
  | 'r' :: 'e' :: 't' :: 'u' :: 'r' :: 'n' :: c :: rest =>
    if isBlank c || c == '(' then b.startingAt (dropBlanks (c :: rest)) else b
  | _ => b

/-- The part of a text that is the expression. -/
def ofText (s : String) (dialect : Dialect) : Body :=
  let b := (trimmed ⟨s.toList, 0⟩).withoutSemicolon
  match dialect with
  | .row => b.withoutReturn
  | .table => b

end Body

/-- Reads a text as an expression, given what finds fault with filters. -/
def parseWith (checkFilter : String → Except Fault Unit) (dialect : Dialect) (s : String) :
    Except Fault Expr := do
  let body := Body.ofText s dialect
  let tokens ← Token.scanFrom 0 body.position body.chars
  if tokens.isEmpty then throw (.malformed .empty body.position)
  let setting : Setting := ⟨dialect, body.position + byteLength body.chars, checkFilter⟩
  setting.parse tokens

/-- Reads a text as an expression over the columns of a row. -/
def parseRow (s : String) : Except Fault Expr := parseWith (fun _ => .ok ()) .row s

/-- Finds fault with a filter: it must be an expression over the columns of a row. -/
def checkFilter (s : String) : Except Fault Unit := (parseRow s).map fun _ => ()

/-- Reads a text as an expression of a dialect. -/
def parse (dialect : Dialect) (s : String) : Except Fault Expr := parseWith checkFilter dialect s

end RowAudit.Formula

namespace RowAudit

/-- A formula that has been read. -/
structure Formula where
  source : String
  dialect : Formula.Dialect
  expr : Formula.Expr

/-- Reads a formula; its source is kept without the white space around it. -/
def Formula.compile (dialect : Formula.Dialect) (source : String) :
    Except Formula.Fault Formula :=
  (Formula.parse dialect source).map fun e => ⟨Text.trim source, dialect, e⟩

end RowAudit
