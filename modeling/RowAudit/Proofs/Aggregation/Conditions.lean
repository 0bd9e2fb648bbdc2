import RowAudit.Aggregation.Compute
import RowAudit.Proofs.Cell.Keys
import RowAudit.Proofs.Formula.Phrase
import RowAudit.Proofs.Formula.Yields

/-!
# Filters of conditions and the formulas that spell them

A filter of conditions is checked against a row directly, and it is also written as formula text.
The text is a phrase whose tree has the same verdict on every row (`exists_phrase_conditions`),
whatever the names of the columns are: a name that would be read as anything else is written in
brackets. There is one exception, the word `return`, which is written as it is and then dropped when
it stands at the start of the text (`compile_conditions`).
-/

namespace RowAudit

namespace Aggregation

open RowAudit.Formula RowAudit.Text

/-! ## Columns -/

/-- The words that mean something else are reserved in every spelling. -/
theorem reserved_of_mem_literalWords {word : String} {cell : Cell}
    (h : (word, cell) ∈ literalWords) :
    String.ofList (word.toList.map Char.toLower) ∈ reservedWords := by
  have hall : ∀ p ∈ literalWords, String.ofList (p.1.toList.map Char.toLower) ∈ reservedWords := by
    decide +kernel
  exact hall (word, cell) h

/-- A word that differs from a reserved one in case only is reserved. -/
theorem reserved_of_eqIgnoringAsciiCase {s word : String} (h : eqIgnoringAsciiCase s word = true)
    (hword : String.ofList (word.toList.map Char.toLower) ∈ reservedWords) :
    String.ofList (s.toList.map Char.toLower) ∈ reservedWords := by
  rw [eqIgnoringAsciiCase, beq_iff_eq] at h
  rwa [h]

/-- A name that is not reserved is read as a name. -/
theorem wordToken_of_not_reserved {s : String}
    (h : String.ofList (s.toList.map Char.toLower) ∉ reservedWords) : wordToken s = .name s := by
  have hne (word : String) (hword : String.ofList (word.toList.map Char.toLower) ∈ reservedWords) :
      ¬eqIgnoringAsciiCase s word = true := fun heq => h (reserved_of_eqIgnoringAsciiCase heq hword)
  rw [wordToken, if_neg (hne "and" (by decide +kernel)), if_neg (hne "or" (by decide +kernel)),
    if_neg (hne "not" (by decide +kernel))]

/-- A plain name is made of parts of names and is not reserved. -/
theorem exists_of_isPlainName {name : String} (h : isPlainName name = true) : ∃ first more,
    name = String.ofList (first :: more) ∧ isNameStart first = true ∧ more.all isNamePart = true ∧
    String.ofList (name.toList.map Char.toLower) ∉ reservedWords := by
  rw [isPlainName] at h
  split at h
  · cases h
  · next first more hchars =>
    simp only [Bool.and_eq_true, Bool.not_eq_true', List.contains_eq_mem, decide_eq_false_iff_not]
      at h
    refine ⟨first, more, ?_, h.1.1, h.1.2, ?_⟩
    · rw [← hchars, String.ofList_toList]
    · rw [hchars]
      exact h.2

/-- A column is written as a phrase that reads it. -/
theorem exists_phrase_column (name : String) : ∃ p : Phrase 1 .primary,
    p.chars = (columnText name).toList ∧ p.operators = 0 ∧ p.tree = .column name := by
  rw [columnText]
  split
  · next h =>
    obtain ⟨first, more, rfl, hfirst, hmore, hreserved⟩ := exists_of_isPlainName h
    have hnot (cell : Cell) : (String.ofList (first :: more), cell) ∉ literalWords :=
      fun hmem => hreserved (reserved_of_mem_literalWords hmem)
    refine ⟨.columnWord first more (by decide) ⟨hfirst, hmore⟩
      (wordToken_of_not_reserved hreserved) hnot, ?_, rfl, rfl⟩
    exact String.toList_ofList.symm
  · refine ⟨.field name (by decide), ?_, rfl, rfl⟩
    rw [String.toList_append, String.toList_append, toList_quotedLiteral]
    rfl

/-! ## Values -/

/-- The cells that conditions compare with: texts, truth values and finite numbers. -/
def Simple : Cell → Prop
  | .text _ => True
  | .bool _ => True
  | .number x => Number.isFinite x = true
  | _ => False

/-- The two zeros compare in the same way. -/
theorem holds_number_of_isZero {x y : Float} (hx : Number.isZero x = true)
    (hy : Number.isZero y = true)
    (c : Comparison) (a : Cell) : c.holds a (.number x) = c.holds a (.number y) := by
  have hnumber {z : Float} (hz : Number.isZero z = true) : (Cell.number z).number? = some z := by
    rw [Cell.number?, Number.isFinite_of_isZero hz, if_pos rfl]
  have hdisplay : (Cell.number x).display = (Cell.number y).display :=
    (Number.text_of_isZero hx).trans (Number.text_of_isZero hy).symm
  have horder : (coerce .day a (.number x)).bind Coerced.order =
      (coerce .day a (.number y)).bind Coerced.order := by
    rw [coerce, coerce, hnumber hx, hnumber hy, hdisplay]
    · cases a.isAbsent with
      | true => rfl
      | false =>
        cases a.number? with
        | some z => exact Number.order_of_isZero hx hy z
        | none => rfl
    all_goals
      intro _ _ _ h
      cases h
  rw [Comparison.holds, Comparison.holds, Comparison.holdsAt, Comparison.holdsAt, horder]

/-- Characters that end with one that belongs to a formula wherever it stands. -/
def Closed (cs : List Char) : Prop :=
  ∃ front last, cs = front ++ [last] ∧ isBlank last = false ∧ last ≠ ';'

/-- Characters in front leave the end closed. -/
theorem Closed.append {cs : List Char} (h : Closed cs) (front : List Char) :
    Closed (front ++ cs) := by
  obtain ⟨middle, last, rfl, hlast⟩ := h
  exact ⟨front ++ middle, last, (List.append_assoc ..).symm, hlast⟩

/-- A number is closed. -/
theorem closed_of_spells {cs : List Char} {x : Float} (h : Number.Spells cs x) : Closed cs := by
  obtain ⟨c, rest, hcons, -⟩ := h.exists_cons
  have hne : cs ≠ [] := hcons ▸ List.cons_ne_nil c rest
  have hmem := List.getLast_mem hne
  refine ⟨_, _, (List.dropLast_concat_getLast hne).symm, h.isBlank hmem, fun heq => ?_⟩
  rw [heq] at hmem
  obtain hdigit | hpoint := h.digit_or_point hmem
  · cases hdigit
  · cases hpoint

/-- A value is written as a phrase that yields what compares in the same way. -/
theorem exists_phrase_literal {value : Cell} (h : Simple value) : ∃ p : Phrase 1 .unary,
    p.chars = (literal value).toList ∧ Closed p.chars ∧ p.operators ≤ 1 ∧
    p.tree.isNullLiteral = false ∧ ∃ cell, p.tree.Yields (fun _ => cell) ∧
    ∀ (c : Comparison) (a : Cell), c.holds a cell = c.holds a value := by
  cases value with
  | text s =>
    refine ⟨(Phrase.text s (by decide)).widen .primary, (toList_quotedLiteral s).symm,
      ⟨_, '"', rfl, rfl, by decide⟩, Nat.zero_le 1, rfl, _, Expr.yields_literal (.text s),
      fun _ _ => rfl⟩
  | bool b =>
    have htree : ((Phrase.truth b (by decide)).widen .primary : Phrase 1 .unary).tree =
      .literal (.bool b) := Phrase.truth_tree b _
    refine ⟨(Phrase.truth b (by decide)).widen .primary, ?_, ?_, ?_, ?_, .bool b, ?_,
      fun _ _ => rfl⟩
    · cases b <;> rfl
    · cases b with
      | true => exact ⟨['t', 'r', 'u'], 'e', rfl, rfl, by decide⟩
      | false => exact ⟨['f', 'a', 'l', 's'], 'e', rfl, rfl, by decide⟩
    · exact (Phrase.operators_truth b _).trans_le zero_le_one
    · rw [htree]
      rfl
    · rw [htree]
      exact Expr.yields_literal (.bool b)
  | number x =>
    obtain ⟨cs, y, hspells, ⟨htext, hxy⟩ | ⟨htext, rfl⟩⟩ := Number.exists_spells_text h
    · refine ⟨(Phrase.number cs y hspells (by decide)).widen .primary, htext.symm,
        closed_of_spells hspells, Nat.zero_le 1, rfl, _, Expr.yields_literal (.number y),
          fun c a => ?_⟩
      obtain rfl | ⟨hy, hx⟩ := hxy
      · rfl
      · exact holds_number_of_isZero hy hx c a
    · refine ⟨.negated ((Phrase.number cs y hspells (by decide)).widen .primary), htext.symm,
        (closed_of_spells hspells).append ['-'], Nat.le_refl 1, rfl, _,
        Expr.yields_negate hspells.finite, fun _ _ => rfl⟩
  | null | moment _ | list _ | record _ => exact h.elim

/-! ## Conditions -/

/-- A phrase that is a closed text, has no more operators than a bound, and yields a test of
rows. -/
structure Renders {c : Category} (p : Phrase 1 c) (text : List Char) (bound : Nat)
    (test : Row → Bool) : Prop where
  chars : p.chars = text
  closed : Closed text
  operators : p.operators ≤ bound
  yields : p.tree.Yields fun row => .bool (test row)

/-- What a phrase renders can be replaced by what is equal to it, with a greater bound. -/
theorem Renders.congr {c : Category} {p : Phrase 1 c} {text text' : List Char} {bound bound' : Nat}
    {test test' : Row → Bool} (h : Renders p text bound test) (htext : text = text')
    (hbound : bound ≤ bound') (htest : ∀ row, test row = test' row) :
    Renders p text' bound' test' := by
  obtain rfl : test = test' := funext htest
  exact ⟨h.chars.trans htext, htext ▸ h.closed, h.operators.trans hbound, h.yields⟩

/-- Every comparison has a sign. -/
theorem exists_joins (c : Comparison) : ∃ sign, Joins .comparison sign (.comparison c) := by
  cases c with
  | equal => exact ⟨_, .equal⟩
  | notEqual => exact ⟨_, .notEqual⟩
  | greater => exact ⟨_, .greater⟩
  | atLeast => exact ⟨_, .atLeast⟩
  | less => exact ⟨_, .less⟩
  | atMost => exact ⟨_, .atMost⟩

/-- The characters of a condition: its column, its sign and its value with blanks between them. -/
theorem toList_source (c : Condition) : c.source.toList =
    (columnText c.column).toList ++ ' ' :: (c.operator.symbol.toList ++ ' ' ::
      (literal c.value).toList) := by
  simp [Condition.source]

/-- A condition is written as a phrase that yields whether it holds. -/
theorem exists_phrase_condition {c : Condition} (h : Simple c.value) :
    ∃ p : Phrase 1 (.layer .comparison), Renders p c.source.toList 2 c.holds := by
  obtain ⟨sign, hjoins⟩ := exists_joins c.operator
  obtain ⟨column, hcolumn, hnone, htree⟩ := exists_phrase_column c.column
  obtain ⟨value, hvalue, hclosed, hle, hnull, cell, hyields, hholds⟩ := exists_phrase_literal h
  refine ⟨.binary hjoins (column.widen fun h => .operand (.operand (.operand (.primary h))))
    (value.widen fun h => .operand (.operand h)), ?_, ?_, ?_, ?_⟩
  · rw [toList_source, ← hcolumn, ← hvalue]
    rfl
  · rw [toList_source, ← hvalue]
    exact (((hclosed.append [' ']).append _).append [' ']).append _
  · rw [Phrase.operators_binary]
    show column.operators + value.operators + 1 ≤ 2
    omega
  · have hcolumn : column.tree.Yields fun row => row.get c.column :=
      htree ▸ Expr.yields_column c.column
    have hsides : column.tree.isNullLiteral = false ∧ value.tree.isNullLiteral = false :=
      ⟨by rw [htree]; rfl, hnull⟩
    intro row
    show _ = pure (Evaluated.scalar (.bool (c.operator.holds (row.get c.column) c.value)))
    rw [← hholds]
    exact hcolumn.comparison hyields hsides row

/-! ## Filters -/

namespace Logic

/-- The layer of formulas in which a logic joins conditions. -/
def layer : Logic → Layer
  | and => .conjunction
  | or => .disjunction

/-- The operator of a logic. -/
def operator : Logic → Operator
  | and => .and
  | or => .or

/-- Two verdicts joined by a logic. -/
def join : Logic → Bool → Bool → Bool
  | and, a, b => a && b
  | or, a, b => a || b

/-- Every logic has a sign. -/
theorem exists_joins (l : Logic) : ∃ sign, Joins l.layer sign l.operator := by
  cases l with
  | and => exact ⟨_, .and⟩
  | or => exact ⟨_, .or⟩

/-- Conditions hold as the first one and the rest joined. -/
theorem holds_cons (l : Logic) (c : Condition) (cs : List Condition) (row : Row) :
    l.holds (c :: cs) row = l.join (c.holds row) (l.holds cs row) := by
  cases l <;> rfl

/-- Verdicts may be joined in any grouping. -/
theorem join_assoc (l : Logic) (a b c : Bool) : l.join (l.join a b) c = l.join a (l.join b c) := by
  cases l with
  | and => exact Bool.and_assoc a b c
  | or => exact Bool.or_assoc a b c

/-- Joining no conditions changes nothing. -/
theorem join_holds_nil (l : Logic) (a : Bool) (row : Row) : l.join a (l.holds [] row) = a := by
  cases l with
  | and => exact Bool.and_true a
  | or => exact Bool.or_false a

/-- The operator of a logic joins what two trees yield. -/
theorem yields (l : Logic) {e f : Expr} {a b : Row → Bool} (he : e.Yields fun row => .bool (a row))
    (hf : f.Yields fun row => .bool (b row)) :
    (Expr.binary l.operator e f).Yields fun row => .bool (l.join (a row) (b row)) := by
  cases l with
  | and => exact he.and hf
  | or => exact he.or hf

end Logic

/-- The characters of conditions behind a first one. -/
def furtherChars (l : Logic) (cs : List Condition) : List Char :=
  cs.flatMap fun c => ' ' :: (l.operator.symbol.toList ++ ' ' :: c.source.toList)

/-- Conditions are written one after the other. -/
theorem toList_filterSource (l : Logic) (c : Condition) (cs : List Condition) :
    (Filter.conditions (c :: cs) l).source.toList = c.source.toList ++ furtherChars l cs := by
  have hjoiner : l.joiner.toList = ' ' :: (l.operator.symbol.toList ++ [' ']) := by cases l <;> rfl
  show (String.intercalate l.joiner ((c :: cs).map Condition.source)).toList = _
  induction cs generalizing c with
  | nil => simp [furtherChars]
  | cons d cs ih =>
    rw [List.map_cons, List.map_cons, String.intercalate_cons_cons, ← List.map_cons,
      String.toList_append, String.toList_append, ih, hjoiner]
    simp [furtherChars]

section
variable {l : Logic} {cs : List Condition}

/-- A condition is written as a phrase of what a logic joins. -/
theorem exists_phrase_operand (l : Logic) {c : Condition} (h : Simple c.value) :
    ∃ p : Phrase 1 l.layer.operand, Renders p c.source.toList 2 c.holds := by
  obtain ⟨p, hp⟩ := exists_phrase_condition h
  cases l with
  | and => exact ⟨p, hp⟩
  | or => exact ⟨p.widen fun h => @Derives.operand _ .conjunction _ _ h, hp.chars, hp.closed,
      hp.operators, hp.yields⟩

/-- Conditions are added behind a phrase one by one, as chains of operators are nested. -/
theorem exists_phrase_chain (hcs : ∀ c ∈ cs, Simple c.value) {p : Phrase 1 (.layer l.layer)}
    {text : List Char} {bound : Nat} {test : Row → Bool} (hp : Renders p text bound test) :
    ∃ q : Phrase 1 (.layer l.layer), Renders q (text ++ furtherChars l cs) (bound + 3 * cs.length)
      fun row => l.join (test row) (l.holds cs row) := by
  induction cs generalizing p text bound test with
  | nil =>
    refine ⟨p, hp.congr (List.append_nil _).symm (Nat.le_add_right _ _) fun row => ?_⟩
    exact (l.join_holds_nil _ row).symm
  | cons c cs ih =>
    rw [List.forall_mem_cons] at hcs
    obtain ⟨sign, hjoins⟩ := l.exists_joins
    obtain ⟨q, hq⟩ := exists_phrase_operand l hcs.1
    have hjoined : Renders (.binary hjoins p q)
        (text ++ ' ' :: (l.operator.symbol.toList ++ ' ' :: c.source.toList)) (bound + 3)
        (fun row => l.join (test row) (c.holds row)) := by
      refine ⟨?_, ?_, ?_, l.yields hp.yields hq.yields⟩
      · rw [← hp.chars, ← hq.chars]
        rfl
      · exact (((hq.closed.append [' ']).append _).append [' ']).append _
      · have hle := hp.operators
        have hle' := hq.operators
        rw [Phrase.operators_binary]
        omega
    obtain ⟨r, hr⟩ := ih hcs.2 hjoined
    refine ⟨r, hr.congr ?_ ?_ fun row => ?_⟩
    · rw [List.append_assoc]
      rfl
    · rw [List.length_cons]
      omega
    · rw [l.holds_cons, l.join_assoc]

/-- A filter of conditions is written as a phrase that yields whether a row passes. -/
theorem exists_phrase_conditions {c : Condition} (hc : Simple c.value)
    (hcs : ∀ c ∈ cs, Simple c.value) :
    ∃ p : Phrase 1 .expression, Renders p (Filter.conditions (c :: cs) l).source.toList
      (2 + 3 * cs.length) (l.holds (c :: cs)) := by
  obtain ⟨p, hp⟩ := exists_phrase_operand l hc
  have hfirst : Renders (p.widen .operand) c.source.toList 2 c.holds :=
    ⟨hp.chars, hp.closed, hp.operators, hp.yields⟩
  obtain ⟨q, hq⟩ := exists_phrase_chain hcs hfirst
  have hsource := hq.congr (toList_filterSource l c cs).symm le_rfl fun row =>
    (l.holds_cons c cs row).symm
  cases l with
  | and => exact ⟨q.widen fun h => @Derives.operand _ .disjunction _ _ h, hsource.chars,
      hsource.closed, hsource.operators, hsource.yields⟩
  | or => exact ⟨q, hsource⟩

/-! ## Reading filters -/

/-- A column starts with no white space. -/
theorem exists_columnText_cons (name : String) :
    ∃ first more, (columnText name).toList = first :: more ∧ isBlank first = false := by
  rw [columnText]
  split
  · next h =>
    obtain ⟨first, more, rfl, hfirst, -⟩ := exists_of_isPlainName h
    exact ⟨first, more, String.toList_ofList, isBlank_of_isNameStart hfirst⟩
  · exact ⟨'r', _, by rw [String.toList_append, String.toList_append]; rfl, rfl⟩

/-- No column but `return` looks like the word at the start of a formula. -/
theorem not_return_of_columnText {name : String} (hname : name ≠ "return") {tail rest : List Char}
    {x : Char} (h : (columnText name).toList ++ ' ' :: tail =
      'r' :: 'e' :: 't' :: 'u' :: 'r' :: 'n' :: x :: rest) : isBlank x = false ∧ x ≠ '(' := by
  rw [columnText] at h
  split at h
  · next hplain =>
    obtain ⟨first, more, rfl, hfirst, hmore, -⟩ := exists_of_isPlainName hplain
    have hparts : (first :: more).all isNamePart = true := by
      rw [List.all_cons, isNamePart_of_isNameStart hfirst, hmore, Bool.and_self]
    have hblank : isNamePart ' ' = false := by decide +kernel
    -- the name is what is taken off the front as parts of names
    have htake : ((first :: more) ++ ' ' :: tail).takeWhile isNamePart = first :: more := by
      rw [List.takeWhile_append_of_pos (List.all_eq_true.1 hparts), List.takeWhile_cons, hblank,
        if_neg Bool.false_ne_true, List.append_nil]
    have hword : ['r', 'e', 't', 'u', 'r', 'n'].all isNamePart = true := by decide +kernel
    rw [String.toList_ofList] at h
    rw [h] at htake
    cases hx : isNamePart x with
    | true => exact not_isBlank_of_isNamePart hx
    | false =>
      refine absurd ?_ hname
      have hreturn : ('r' :: 'e' :: 't' :: 'u' :: 'r' :: 'n' :: x :: rest).takeWhile isNamePart =
          ['r', 'e', 't', 'u', 'r', 'n'] := by
        have :=
          @List.takeWhile_append_of_pos _ isNamePart ['r', 'e', 't', 'u', 'r', 'n'] (x :: rest)
          (List.all_eq_true.1 hword)
        rw [List.takeWhile_cons, hx, if_neg Bool.false_ne_true, List.append_nil] at this
        exact this
      rw [← htake, hreturn]
  · rw [String.toList_append, String.toList_append] at h
    cases (List.cons.inj (List.cons.inj h).2).1

/-- The source of conditions is its first column, followed by a blank. -/
theorem exists_toList_filterSource (l : Logic) (c : Condition) (cs : List Condition) : ∃ rest,
    (Filter.conditions (c :: cs) l).source.toList = (columnText c.column).toList ++
      ' ' :: (c.operator.symbol.toList ++ ' ' :: rest) := by
  refine ⟨(literal c.value).toList ++ furtherChars l cs, ?_⟩
  rw [toList_filterSource, toList_source]
  simp only [List.append_assoc, List.cons_append]

/-- A closed text ends neither with white space nor with a semicolon. -/
theorem Closed.getLast? {cs : List Char} (h : Closed cs) :
    ∀ c ∈ cs.getLast?, isBlank c = false ∧ c ≠ ';' := by
  obtain ⟨front, last, rfl, hlast⟩ := h
  rw [List.getLast?_concat]
  rintro c ⟨⟩
  exact hlast

/-- Nothing is dropped from conditions whose first column is not `return`. -/
theorem chars_ofText_conditions {c : Condition} (hreturn : c.column ≠ "return")
    (hclosed : Closed (Filter.conditions (c :: cs) l).source.toList) :
    (Body.ofText (Filter.conditions (c :: cs) l).source .row).chars =
      (Filter.conditions (c :: cs) l).source.toList := by
  obtain ⟨rest, hsource⟩ := exists_toList_filterSource l c cs
  refine Body.chars_ofText_row ?_ hclosed.getLast? ?_
  · obtain ⟨first, more, hcolumn, hfirst⟩ := exists_columnText_cons c.column
    rw [hsource, hcolumn]
    rintro _ ⟨⟩
    exact hfirst
  · intro x tail h
    exact not_return_of_columnText hreturn (hsource.symm.trans h)

/-- Conditions whose first column is `return` are not read: their text starts with a comparison. -/
theorem parse_conditions_return {c : Condition} (hreturn : c.column = "return")
    (hclosed : Closed (Filter.conditions (c :: cs) l).source.toList) (e : Expr) :
    parse .row (Filter.conditions (c :: cs) l).source ≠ .ok e := by
  obtain ⟨rest, hsource⟩ := exists_toList_filterSource l c cs
  obtain ⟨sign, hjoins⟩ := exists_joins c.operator
  have hcolumn : (columnText c.column).toList = ['r', 'e', 't', 'u', 'r', 'n'] := by
    rw [hreturn]
    decide +kernel
  rw [hcolumn] at hsource
  have hchars : (Body.ofText (Filter.conditions (c :: cs) l).source .row).chars =
      dropBlanks (c.operator.symbol.toList ++ ' ' :: rest) :=
    Body.chars_ofText_return hsource hclosed.getLast?
  intro h
  obtain ⟨tokens, hscan, hformula, -⟩ := parseWith_row_eq_ok_iff.1 h
  rw [hchars] at hscan
  obtain ⟨more, hmore⟩ : ∃ more, tokens.map Spanned.token = .sign sign :: more := by
    cases hoperator : c.operator with
    | _ =>
      rw [hoperator] at hjoins hscan
      cases hjoins
      exact exists_of_scanFrom (by decide) rfl hscan
  rw [hmore] at hformula
  exact hformula.head?_ne_comparison hjoins rfl

end

/-- Conditions and the formula that spells them select the same rows. The text of 85 conditions or
less is read, whatever their columns and operators are, and its verdict on a row is that of the
conditions, unless the first column has the name `return`; then the text is never read. -/
theorem compile_conditions {c : Condition} {cs : List Condition} (l : Logic)
    (hlength : (c :: cs).length ≤ 85) (hsimple : ∀ d ∈ c :: cs, Simple d.value) :
    (c.column ≠ "return" →
      ∃ f, Formula.compile .row (Filter.conditions (c :: cs) l).source = .ok f ∧
      ∀ row, ∃ v, f.expr.evalRow row none = .ok v ∧ v.verdict = l.holds (c :: cs) row) ∧
    (c.column = "return" →
      ∀ f, Formula.compile .row (Filter.conditions (c :: cs) l).source ≠ .ok f) := by
  rw [List.forall_mem_cons] at hsimple
  obtain ⟨p, hp⟩ := exists_phrase_conditions (l := l) hsimple.1 hsimple.2
  constructor
  · intro hreturn
    have hchars := (chars_ofText_conditions hreturn hp.closed).trans hp.chars.symm
    have hle := hp.operators
    rw [List.length_cons] at hlength
    have hparse := p.parse_row hchars (by omega)
    refine ⟨_, by rw [Formula.compile, hparse]; rfl, fun row =>
      ⟨.scalar (.bool (l.holds (c :: cs) row)), ?_, rfl⟩⟩
    show ((p.tree.eval (Expr.rowView row none)).run ()).1 = _
    rw [hp.yields row]
    rfl
  · intro hreturn f hf
    rw [Formula.compile] at hf
    cases hparse : parse .row (Filter.conditions (c :: cs) l).source with
    | error fault =>
      rw [hparse] at hf
      cases hf
    | ok e => exact parse_conditions_return hreturn hp.closed e hparse

/-- Columns with blanks and reserved names, quotes in a value, a negative number, and `return`
behind the first condition. -/
def awkwardConditions : List Condition :=
  [⟨"first name", .equal, .text "the \"A\""⟩, ⟨"and", .less, .number (-0.5)⟩,
   ⟨"return", .notEqual, .bool true⟩]

/-- Awkward conditions are compiled to a formula with their verdicts. -/
theorem compile_awkwardConditions :
    (awkwardConditions.length ≤ 85 ∧ ∀ d ∈ awkwardConditions, Simple d.value) ∧
    ∃ f, Formula.compile .row (Filter.conditions awkwardConditions .or).source = .ok f ∧
      ∀ row, ∃ v, f.expr.evalRow row none = .ok v ∧
        v.verdict = Logic.or.holds awkwardConditions row := by
  have hfinite : Number.isFinite (-0.5) = true := by decide +kernel
  have hsimple : ∀ d ∈ awkwardConditions, Simple d.value := by
    simp [awkwardConditions, Simple, hfinite]
  exact ⟨⟨by decide, hsimple⟩, (compile_conditions .or (by decide) hsimple).1 (by decide)⟩

/-- Not every list of conditions is written as a text that is read: the text of one condition on a
column `return` starts with a word that is dropped. -/
theorem not_forall_conditions_compile : ¬∀ (cs : List Condition) (l : Logic), 1 ≤ cs.length →
    cs.length ≤ 85 → (∀ c ∈ cs, Simple c.value) →
    ∃ f, Formula.compile .row (Filter.conditions cs l).source = .ok f ∧
      ∀ row, ∃ v, f.expr.evalRow row none = .ok v ∧ v.verdict = l.holds cs row := by
  intro h
  have hfinite : Number.isFinite 5 = true := by decide +kernel
  have hsimple : ∀ c ∈ [(⟨"return", .equal, .number 5⟩ : Condition)], Simple c.value := by
    simp [Simple, hfinite]
  obtain ⟨f, hf, -⟩ := h [⟨"return", .equal, .number 5⟩] .and (by decide) (by decide) hsimple
  have hrefused : (Formula.compile .row
      (Filter.conditions [⟨"return", .equal, .number 5⟩] .and).source).isOk = false := by
    decide +kernel
  rw [hf] at hrefused
  cases hrefused

end Aggregation

end RowAudit
