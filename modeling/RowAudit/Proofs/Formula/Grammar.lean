import RowAudit.Formula.Parser

/-!
# The grammar of row formulas

`Derives d c ts e` says that a row of tokens is a part of a formula of category `c` with the tree
`e`, where `d` is one more than the number of parentheses, list items and signs in front that the
part stands in. A chain of operators of one layer is derived from the left, which is how its tree is
nested. A formula is a whole row of tokens that derives a tree on the first level, with at most 256
operators (`IsFormula`).

The grammar has tables of its own for operators and literal words, and does not mention the reader.
-/

namespace RowAudit.Formula

/-- The layers of operators between operands, loosest first. -/
inductive Layer where
  | disjunction
  | conjunction
  | comparison
  | sum
  | product
  deriving DecidableEq

/-- What a part of a formula can be. -/
inductive Category where
  /-- Operands with operators of a layer between them. -/
  | layer (l : Layer)
  /-- An operand with signs in front. -/
  | unary
  /-- An operand. -/
  | primary
  /-- The items of a list with commas between them. -/
  | items
  deriving DecidableEq

/-- A whole expression. -/
abbrev Category.expression : Category := .layer .disjunction

/-- What stands between the operators of a layer. -/
def Layer.operand : Layer → Category
  | disjunction => .layer .conjunction
  | conjunction => .layer .comparison
  | comparison => .layer .sum
  | sum => .layer .product
  | product => .unary

/-- The operators between operands, by layer and sign. -/
inductive Joins : Layer → Sign → Operator → Prop
  | or : Joins .disjunction .or .or
  | and : Joins .conjunction .and .and
  | equal : Joins .comparison .equal (.comparison .equal)
  | notEqual : Joins .comparison .notEqual (.comparison .notEqual)
  | less : Joins .comparison .less (.comparison .less)
  | atMost : Joins .comparison .atMost (.comparison .atMost)
  | greater : Joins .comparison .greater (.comparison .greater)
  | atLeast : Joins .comparison .atLeast (.comparison .atLeast)
  | add : Joins .sum .plus (.arithmetic .add)
  | sub : Joins .sum .minus (.arithmetic .sub)
  | mul : Joins .product .star (.arithmetic .mul)
  | div : Joins .product .slash (.arithmetic .div)
  | rem : Joins .product .percent (.arithmetic .rem)

/-- The words that stand for literals. -/
def literalWords : List (String × Cell) :=
  [("true", .bool true), ("TRUE", .bool true), ("True", .bool true), ("false", .bool false),
   ("FALSE", .bool false), ("False", .bool false), ("null", .null), ("NULL", .null),
   ("undefined", .null)]

/-- What a row of tokens derives, on a level. No level is deeper than 64. -/
inductive Derives : Nat → Category → List Token → Expr → Prop
  | operand {d : Nat} {l : Layer} {ts : List Token} {e : Expr} :
      Derives d l.operand ts e → Derives d (.layer l) ts e
  | binary {d : Nat} {l : Layer} {sign : Sign} {op : Operator} {ts us : List Token} {e f : Expr} :
      Joins l sign op → Derives d (.layer l) ts e → Derives d l.operand us f →
      Derives d (.layer l) (ts ++ .sign sign :: us) (.binary op e f)
  | negate {d : Nat} {ts : List Token} {e : Expr} :
      Derives (d + 1) .unary ts e → Derives d .unary (.sign .minus :: ts) (.negate e)
  | not {d : Nat} {ts : List Token} {e : Expr} :
      Derives (d + 1) .unary ts e → Derives d .unary (.sign .not :: ts) (.not e)
  | plus {d : Nat} {ts : List Token} {e : Expr} :
      Derives (d + 1) .unary ts e → Derives d .unary (.sign .plus :: ts) e
  | primary {d : Nat} {ts : List Token} {e : Expr} : Derives d .primary ts e → Derives d .unary ts e
  | number {d : Nat} (x : Float) : d ≤ 64 → Derives d .primary [.number x] (.literal (.number x))
  | text {d : Nat} (s : String) : d ≤ 64 → Derives d .primary [.text s] (.literal (.text s))
  | word {d : Nat} {name : String} {c : Cell} : d ≤ 64 → (name, c) ∈ literalWords →
      Derives d .primary [.name name] (.literal c)
  | column {d : Nat} {name : String} : d ≤ 64 → (∀ c, (name, c) ∉ literalWords) →
      Derives d .primary [.name name] (.column name)
  | field {d : Nat} (name : String) : d ≤ 64 →
      Derives d .primary [.name "row", .sign .dot, .name name] (.column name)
  | quotedField {d : Nat} (name : String) : d ≤ 64 →
      Derives d .primary [.name "row", .sign .openBracket, .text name, .sign .closeBracket]
        (.column name)
  | parens {d : Nat} {ts : List Token} {e : Expr} : Derives (d + 1) .expression ts e →
      Derives d .primary (.sign .openParen :: (ts ++ [.sign .closeParen])) e
  | emptyList {d : Nat} : d ≤ 64 →
      Derives d .primary [.sign .openBracket, .sign .closeBracket] (.list [])
  | list {d : Nat} {ts : List Token} {e : Expr} : Derives (d + 1) .items ts e →
      Derives d .primary (.sign .openBracket :: (ts ++ [.sign .closeBracket])) e
  | item {d : Nat} {ts : List Token} {e : Expr} :
      Derives d .expression ts e → Derives d .items ts (.list [e])
  | itemComma {d : Nat} {ts us : List Token} {e : Expr} {es : List Expr} :
      Derives d .expression ts e → Derives d .items us (.list es) →
      Derives d .items (ts ++ .sign .comma :: us) (.list (e :: es))

/-- Whether a token is an operator, in front of an operand or between two. -/
def Token.isOperator : Token → Bool
  | .sign .openParen => false
  | .sign .closeParen => false
  | .sign .openBracket => false
  | .sign .closeBracket => false
  | .sign .comma => false
  | .sign .dot => false
  | .sign _ => true
  | .number _ => false
  | .text _ => false
  | .name _ => false

/-- A row of tokens is a formula with a tree. -/
def IsFormula (ts : List Token) (e : Expr) : Prop :=
  Derives 1 .expression ts e ∧ ts.countP Token.isOperator ≤ 256

/-! ## Facts about derivations -/

section
variable {d : Nat} {c : Category} {ts : List Token} {e : Expr}

/-- No part of a formula is too deep. -/
theorem Derives.depth_le (h : Derives d c ts e) : d ≤ 64 := by
  induction h with
  | operand _ ih => exact ih
  | binary _ _ _ ih _ => exact ih
  | negate _ ih => exact Nat.le_of_succ_le ih
  | not _ ih => exact Nat.le_of_succ_le ih
  | plus _ ih => exact Nat.le_of_succ_le ih
  | primary _ ih => exact ih
  | number _ h => exact h
  | text _ h => exact h
  | word h _ => exact h
  | column h _ => exact h
  | field _ h => exact h
  | quotedField _ h => exact h
  | parens _ ih => exact Nat.le_of_succ_le ih
  | emptyList h => exact h
  | list _ ih => exact Nat.le_of_succ_le ih
  | item _ ih => exact ih
  | itemComma _ _ ih _ => exact ih

/-- The signs that close a row of items: the end of a list or of a call. -/
def Sign.Closes (s : Sign) : Prop := s = closeBracket ∨ s = closeParen

/-- Every part of a formula has a first token, which closes no row of items. -/
theorem Derives.exists_cons (h : Derives d c ts e) :
    ∃ t us, ts = t :: us ∧ ∀ s : Sign, s.Closes → t ≠ .sign s := by
  induction h with
  | operand _ ih => exact ih
  | binary _ _ _ ih _ =>
    obtain ⟨t, us, rfl, ht⟩ := ih
    exact ⟨t, _, rfl, ht⟩
  | primary _ ih => exact ih
  | item _ ih => exact ih
  | itemComma _ _ ih _ =>
    obtain ⟨t, us, rfl, ht⟩ := ih
    exact ⟨t, _, rfl, ht⟩
  | _ => exact ⟨_, _, rfl, by rintro s (rfl | rfl) <;> simp⟩

/-- No part of a formula starts with the sign of a comparison. -/
theorem Derives.head?_ne_comparison {sign : Sign} {op : Operator}
    (hjoins : Joins .comparison sign op) (h : Derives d c ts e) : ts.head? ≠ some (.sign sign) := by
  induction h with
  | operand _ ih | primary _ ih | item _ ih => exact ih
  | binary _ hleft _ ih _ | itemComma hleft _ ih _ =>
    obtain ⟨t, us, rfl, -⟩ := hleft.exists_cons
    exact ih
  | _ => cases hjoins <;> simp

/-- What derives items has the tree of a list. -/
theorem Derives.exists_list (h : Derives d .items ts e) : ∃ es, e = .list es := by
  cases h with
  | item _ => exact ⟨_, rfl⟩
  | itemComma _ _ => exact ⟨_, rfl⟩

end

end RowAudit.Formula
