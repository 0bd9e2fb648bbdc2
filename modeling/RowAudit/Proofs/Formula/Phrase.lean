import RowAudit.Proofs.Formula.Completeness
import RowAudit.Proofs.Formula.Scanning

/-!
# Parts of formulas as they are written

A `Phrase` is a part of a formula in three forms at once: the characters that are written, the
tokens that they are cut into, and the tree that the grammar derives from the tokens. Phrases are
put together in the way in which formulas are written, with a blank around operators and after
commas. What is written as a phrase is read as its tree (`Phrase.parse`).
-/

namespace RowAudit.Formula

open RowAudit.Text RowAudit.Aggregation

/-- What may follow a part of a formula: nothing, a blank, a comma, or the end of a list or a
call. -/
def Delimits (rest : List Char) : Prop := ∀ c ∈ rest.head?, c ∈ [' ', ',', ')', ']']

/-- No delimiter goes on with a name. -/
theorem Delimits.isNamePart {rest : List Char} (h : Delimits rest) :
    ∀ c ∈ rest.head?, isNamePart c = false := by
  have hdelimiters : [' ', ',', ')', ']'].all (fun c => !Formula.isNamePart c) = true := by
    decide +kernel
  intro c hc
  simpa using List.all_eq_true.1 hdelimiters c (h c hc)

/-- No delimiter goes on with a number. -/
theorem Delimits.next?_eq_none {rest : List Char} (h : Delimits rest) :
    ∀ c ∈ rest.head?, ∀ n : Numeral, n.next? c = none := by
  intro c hc n
  have hmem := h c hc
  simp only [List.mem_cons, List.not_mem_nil, or_false] at hmem
  obtain rfl | rfl | rfl | rfl := hmem <;> rfl

/-- A blank delimits. -/
theorem delimits_blank (rest : List Char) : Delimits (' ' :: rest) := by
  rintro c ⟨⟩
  decide

/-- A part of a formula as it is written. -/
structure Phrase (d : Nat) (c : Category) where
  chars : List Char
  tokens : List Token
  tree : Expr
  scans : ∀ rest ts, Delimits rest → Scans rest ts → Scans (chars ++ rest) (tokens ++ ts)
  derives : Derives d c tokens tree

namespace Phrase

variable {d : Nat} {c : Category}

/-- The number of operators in a phrase. -/
def operators (p : Phrase d c) : Nat := p.tokens.countP Token.isOperator

/-- A phrase of a category is one of a wider category. -/
def widen {c' : Category} (p : Phrase d c) (h : ∀ {ts e}, Derives d c ts e → Derives d c' ts e) :
    Phrase d c' :=
  { p with derives := h p.derives }

/-- An operand is an expression. -/
def expression (p : Phrase d .primary) : Phrase d .expression :=
  p.widen fun h => .operand (.operand (.operand (.operand (.operand (.primary h)))))

/-- As an expression, an operand has the same tree. -/
theorem tree_expression (p : Phrase d .primary) : p.expression.tree = p.tree := rfl

/-! ## Literals -/

/-- A quoted text. -/
def text (s : String) (hd : d ≤ 64) : Phrase d .primary where
  chars := quotedChars s
  tokens := [.text s]
  tree := .literal (.text s)
  scans := fun _ _ _ h => h.quoted s
  derives := .text s hd

/-- A number that is not negative. -/
def number (cs : List Char) (x : Float) (h : Number.Spells cs x) (hd : d ≤ 64) :
    Phrase d .primary where
  chars := cs
  tokens := [.number x]
  tree := .literal (.number x)
  scans := fun _ _ hrest hscan => hscan.number h hrest.next?_eq_none
  derives := .number x hd

/-- A word that stands for a literal. -/
def literalWord (first : Char) (more : List Char) (cell : Cell) (hd : d ≤ 64)
    (hstart : isNameStart first = true ∧ more.all isNamePart = true)
    (hword : wordToken (String.ofList (first :: more)) = .name (String.ofList (first :: more)))
    (hmem : (String.ofList (first :: more), cell) ∈ literalWords) : Phrase d .primary where
  chars := first :: more
  tokens := [.name (String.ofList (first :: more))]
  tree := .literal cell
  scans := fun _ _ hrest h => hword ▸ h.word hstart.1 hstart.2 hrest.isNamePart
  derives := .word hd hmem

/-- A truth value. -/
def truth (b : Bool) (hd : d ≤ 64) : Phrase d .primary :=
  match b with
  | true =>
    literalWord 't' ['r', 'u', 'e'] (.bool true) hd (by decide +kernel) (by decide +kernel)
      (by simp [literalWords])
  | false =>
    literalWord 'f' ['a', 'l', 's', 'e'] (.bool false) hd (by decide +kernel) (by decide +kernel)
      (by simp [literalWords])

/-- The tree of a truth value is the literal. -/
theorem truth_tree (b : Bool) (hd : d ≤ 64) : (truth b hd).tree = .literal (.bool b) := by
  cases b <;> rfl

/-- A truth value has no operators. -/
theorem operators_truth (b : Bool) (hd : d ≤ 64) : (truth b hd).operators = 0 := by
  cases b <;> rfl

/-- The literal null. -/
def null (hd : d ≤ 64) : Phrase d .primary :=
  literalWord 'n' ['u', 'l', 'l'] .null hd (by decide +kernel) (by decide +kernel)
    (by simp [literalWords])

/-! ## Columns -/

/-- A word that is the name of a column. -/
def columnWord (first : Char) (more : List Char) (hd : d ≤ 64)
    (hstart : isNameStart first = true ∧ more.all isNamePart = true)
    (hword : wordToken (String.ofList (first :: more)) = .name (String.ofList (first :: more)))
    (hnot : ∀ cell, (String.ofList (first :: more), cell) ∉ literalWords) : Phrase d .primary where
  chars := first :: more
  tokens := [.name (String.ofList (first :: more))]
  tree := .column (String.ofList (first :: more))
  scans := fun _ _ hrest h => hword ▸ h.word hstart.1 hstart.2 hrest.isNamePart
  derives := .column hd hnot

/-- A closing bracket is a token by itself. -/
theorem scans_closeBracket {rest : List Char} {ts : List Token} (h : Scans rest ts) :
    Scans (']' :: rest) (.sign .closeBracket :: ts) :=
  h.sign (by decide) rfl

/-- A column of any name, in brackets behind the word `row`. -/
def field (name : String) (hd : d ≤ 64) : Phrase d .primary where
  chars := 'r' :: 'o' :: 'w' :: '[' :: (quotedChars name ++ [']'])
  tokens := [.name "row", .sign .openBracket, .text name, .sign .closeBracket]
  tree := .column name
  scans := fun rest ts _ h => by
    have hquoted :
        Scans (quotedChars name ++ ']' :: rest) (.text name :: .sign .closeBracket :: ts) :=
      (scans_closeBracket h).quoted name
    have hbracket : Scans ('[' :: (quotedChars name ++ ']' :: rest))
        (.sign .openBracket :: .text name :: .sign .closeBracket :: ts) :=
      hquoted.sign (by decide) rfl
    have hword := @Scans.word 'r' ['o', 'w'] _ _ (by decide +kernel) (by decide +kernel)
      (by rintro c ⟨⟩; decide +kernel) hbracket
    have hrow : wordToken "row" = .name "row" := by decide +kernel
    simpa [hrow] using hword
  derives := .quotedField name hd

/-! ## Operators -/

/-- An operand with a minus in front. -/
def negated (p : Phrase (d + 1) .unary) : Phrase d .unary where
  chars := '-' :: p.chars
  tokens := .sign .minus :: p.tokens
  tree := .negate p.tree
  scans := fun rest ts hrest h => (p.scans rest ts hrest h).sign (by decide) rfl
  derives := .negate p.derives

/-- An operator is written with a blank on both sides. -/
theorem scans_operator {l : Layer} {sign : Sign} {op : Operator} {rest : List Char}
    {ts : List Token} (hjoins : Joins l sign op) (h : Scans rest ts) :
    Scans (' ' :: (op.symbol.toList ++ ' ' :: rest)) (.sign sign :: ts) := by
  have hblank : Scans (' ' :: rest) ts := h.blank (by decide)
  refine Scans.blank (by decide) ?_
  cases hjoins with
  | equal => exact @Scans.lexeme '=' ['='] _ _ _ (by decide) rfl hblank
  | notEqual => exact @Scans.lexeme '!' ['='] _ _ _ (by decide) rfl hblank
  | atMost => exact @Scans.lexeme '<' ['='] _ _ _ (by decide) rfl hblank
  | atLeast => exact @Scans.lexeme '>' ['='] _ _ _ (by decide) rfl hblank
  | and => exact @Scans.lexeme '&' ['&'] _ _ _ (by decide) rfl hblank
  | or => exact @Scans.lexeme '|' ['|'] _ _ _ (by decide) rfl hblank
  | less | greater | add | sub | mul | div | rem => exact hblank.sign (by decide) rfl

/-- An operator between two operands. -/
def binary {l : Layer} {sign : Sign} {op : Operator} (hjoins : Joins l sign op)
    (p : Phrase d (.layer l)) (q : Phrase d l.operand) : Phrase d (.layer l) where
  chars := p.chars ++ ' ' :: (op.symbol.toList ++ ' ' :: q.chars)
  tokens := p.tokens ++ .sign sign :: q.tokens
  tree := .binary op p.tree q.tree
  scans := fun rest ts hrest h => by
    have hright := scans_operator hjoins (q.scans rest ts hrest h)
    have hleft := p.scans _ _ (delimits_blank _) hright
    simpa using hleft
  derives := .binary hjoins p.derives q.derives

/-- An operator is counted with those of its operands. -/
theorem operators_binary {l : Layer} {sign : Sign} {op : Operator} (hjoins : Joins l sign op)
    (p : Phrase d (.layer l)) (q : Phrase d l.operand) :
    (binary hjoins p q).operators = p.operators + q.operators + 1 := by
  have hoperator : Token.isOperator (.sign sign) = true := by cases hjoins <;> rfl
  show (p.tokens ++ .sign sign :: q.tokens).countP _ = _
  rw [List.countP_append, List.countP_cons_of_pos hoperator]
  rfl

/-! ## Rows of items -/

/-- The characters of items after the first one. -/
def furtherChars (ps : List (Phrase d .expression)) : List Char :=
  ps.flatMap fun p => ',' :: ' ' :: p.chars

/-- The tokens of items after the first one. -/
def furtherTokens (ps : List (Phrase d .expression)) : List Token :=
  ps.flatMap fun p => .sign .comma :: p.tokens

/-- Commas are no operators. -/
theorem operators_further {ps : List (Phrase d .expression)} (h : ∀ p ∈ ps, p.operators = 0) :
    (furtherTokens ps).countP Token.isOperator = 0 := by
  induction ps with
  | nil => rfl
  | cons p ps ih =>
    rw [List.forall_mem_cons] at h
    rw [furtherTokens, List.flatMap_cons, List.cons_append,
      List.countP_cons_of_neg Bool.false_ne_true, List.countP_append]
    exact Nat.add_eq_zero_iff.2 ⟨h.1, ih h.2⟩

/-- A comma and a blank are one token. -/
theorem scans_comma {rest : List Char} {ts : List Token} (h : Scans rest ts) :
    Scans (',' :: ' ' :: rest) (.sign .comma :: ts) :=
  (h.blank (by decide)).sign (by decide) rfl

/-- Items are scanned one after the other. -/
theorem scans_items (p : Phrase d .expression) (ps : List (Phrase d .expression)) (rest : List Char)
    (ts : List Token) (hrest : Delimits rest) (h : Scans rest ts) :
    Scans (p.chars ++ furtherChars ps ++ rest) (p.tokens ++ furtherTokens ps ++ ts) := by
  induction ps generalizing p with
  | nil =>
    rw [furtherChars, furtherTokens, List.flatMap_nil, List.flatMap_nil, List.append_nil,
      List.append_nil]
    exact p.scans rest ts hrest h
  | cons q ps ih =>
    have hfurther : Scans (',' :: ' ' :: (q.chars ++ furtherChars ps ++ rest))
        (.sign .comma :: (q.tokens ++ furtherTokens ps ++ ts)) := scans_comma (ih q)
    have hcomma : Delimits (',' :: ' ' :: (q.chars ++ furtherChars ps ++ rest)) := by
      rintro c ⟨⟩
      decide
    have := p.scans _ _ hcomma hfurther
    simpa [furtherChars, furtherTokens] using this

/-- Items are derived one after the other. -/
theorem derives_items (p : Phrase d .expression) (ps : List (Phrase d .expression)) :
    Derives d .items (p.tokens ++ furtherTokens ps) (.list (p.tree :: ps.map tree)) := by
  induction ps generalizing p with
  | nil =>
    rw [furtherTokens, List.flatMap_nil, List.append_nil]
    exact .item p.derives
  | cons q ps ih => exact .itemComma p.derives (ih q)

/-- Items with commas between them. -/
def items (p : Phrase d .expression) (ps : List (Phrase d .expression)) : Phrase d .items where
  chars := p.chars ++ furtherChars ps
  tokens := p.tokens ++ furtherTokens ps
  tree := .list (p.tree :: ps.map tree)
  scans := scans_items p ps
  derives := derives_items p ps

/-- The operators of items are those of the first one and of the rest. -/
theorem operators_items (p : Phrase d .expression) (ps : List (Phrase d .expression)) :
    (items p ps).operators = p.operators + (furtherTokens ps).countP Token.isOperator :=
  List.countP_append

/-- A closing bracket delimits. -/
theorem delimits_closeBracket (rest : List Char) : Delimits (']' :: rest) := by
  rintro c ⟨⟩
  decide

/-- A list without items. -/
def emptyList (hd : d ≤ 64) : Phrase d .primary where
  chars := ['[', ']']
  tokens := [.sign .openBracket, .sign .closeBracket]
  tree := .list []
  scans := fun _ _ _ h => (scans_closeBracket h).sign (by decide) rfl
  derives := .emptyList hd

/-- A list of items. -/
def brackets (p : Phrase (d + 1) .items) : Phrase d .primary where
  chars := '[' :: (p.chars ++ [']'])
  tokens := .sign .openBracket :: (p.tokens ++ [.sign .closeBracket])
  tree := p.tree
  scans := fun rest ts _ h => by
    have hitems := p.scans _ _ (delimits_closeBracket rest) (scans_closeBracket h)
    have : Scans ('[' :: (p.chars ++ ']' :: rest)) (.sign .openBracket :: (p.tokens ++ _)) :=
      hitems.sign (by decide) rfl
    simpa using this
  derives := by
    obtain ⟨es, hes⟩ := p.derives.exists_list
    have hlist := p.derives
    rw [hes] at hlist ⊢
    exact .list hlist

/-- Brackets are no operators. -/
theorem operators_brackets (p : Phrase (d + 1) .items) : (brackets p).operators = p.operators :=
  (List.countP_cons_of_neg Bool.false_ne_true).trans List.countP_append

/-- A list of quoted texts. -/
def texts (ss : List String) (hd : d + 1 ≤ 64) : Phrase d .primary :=
  match ss with
  | [] => emptyList (Nat.le_of_succ_le hd)
  | s :: ss => brackets (items (text s hd).expression (ss.map fun s => (text s hd).expression))

/-- A list of texts has no operators. -/
theorem operators_texts (ss : List String) (hd : d + 1 ≤ 64) : (texts ss hd).operators = 0 := by
  cases ss with
  | nil => rfl
  | cons s ss =>
    have hmore : ∀ p ∈ ss.map fun s => (text s hd).expression, p.operators = 0 := by
      rw [List.forall_mem_map]
      exact fun _ _ => rfl
    rw [texts, operators_brackets, operators_items, operators_further hmore]
    rfl

/-! ## Reading phrases -/

/-- What is derived from the tokens of a text is read, in either dialect. -/
theorem parse_of_isFormula {s : String} {dialect : Dialect} {ts : List Token} {e : Expr}
    (hscans : Scans (Body.ofText s dialect).chars ts) (h : IsFormula ts e) :
    parse dialect s = .ok e := by
  obtain ⟨tokens, hscan, rfl⟩ := hscans (Body.ofText s dialect).position
  have hparse (setting : Setting) : setting.parse tokens = .ok e := by
    have hcomplete : Complete 1 .expression setting.expression :=
      (Setting.unary_complete (n := 63) rfl).levels
    have hrun := hcomplete _ e _ _ h.1 (takes_all tokens 0) (by rw [Nat.zero_add]; exact h.2)
      (stops_end _)
    rw [Setting.parse, hrun]
    rfl
  unfold parse parseWith
  dsimp only
  rw [hscan]
  cases tokens with
  | nil =>
    obtain ⟨t, us, hcons, -⟩ := h.1.exists_cons
    cases hcons
  | cons t tokens => exact hparse _

/-- A text that is written as a phrase is read as its tree. -/
theorem parse {s : String} {dialect : Dialect} (p : Phrase 1 .expression)
    (hs : (Body.ofText s dialect).chars = p.chars) (hoperators : p.operators ≤ 256) :
    Formula.parse dialect s = .ok p.tree := by
  refine parse_of_isFormula ?_ ⟨p.derives, hoperators⟩
  have hscans := p.scans [] [] nofun .nil
  rwa [List.append_nil, List.append_nil, ← hs] at hscans

/-- A text whose body is a phrase is read as the tree of the phrase. -/
theorem parse_row {s : String} (p : Phrase 1 .expression)
    (hs : (Body.ofText s .row).chars = p.chars)
    (hoperators : p.operators ≤ 256) : Formula.parse .row s = .ok p.tree :=
  p.parse hs hoperators

end Phrase

end RowAudit.Formula
