import RowAudit.Proofs.Formula.Labels
import RowAudit.Proofs.Formula.Phrase
import RowAudit.Proofs.Formula.Yields

/-!
# The spellings of a column

A column can be written in brackets behind the word `row`, whatever its name is, and, if the name is
one word, behind `row` and a point or alone (`SpellsColumn`). All of them are read as the same tree.
So what the tree means does not depend on the spelling: it is the cell of the row unless the name is
that of the bound cell, or the row has no such column and an aggregation has the name for its label
(`evaluate_of_spellsColumn`). A column behind `row` can be hidden like one that stands alone
(`access_hidden`).
-/

namespace RowAudit.Formula

open RowAudit.Text RowAudit.Aggregation

/-! ## Words -/

/-- No token is said to start before the text. -/
theorem position_le_of_scanFrom {cs : List Char} {skip position : Nat} {ts : List Spanned}
    (h : Token.scanFrom skip position cs = .ok ts) : ∀ t ∈ ts, position ≤ t.position := by
  induction cs generalizing skip position ts with
  | nil =>
    cases h
    exact List.forall_mem_nil _
  | cons c cs ih =>
    have hlater {skip : Nat} {ts : List Spanned}
        (h : Token.scanFrom skip (position + c.utf8Size) cs = .ok ts) :
        ∀ t ∈ ts, position ≤ t.position :=
      fun t ht => Nat.le_of_add_right_le (ih h t ht)
    cases skip with
    | succ n => exact hlater h
    | zero =>
      rw [Token.scanFrom] at h
      split at h
      · exact hlater h
      · split at h
        · cases h
        · next t n hlexeme =>
          cases hmore : Token.scanFrom n (position + c.utf8Size) cs with
          | error fault => rw [hmore] at h; cases h
          | ok more =>
            rw [hmore] at h
            cases h
            exact List.forall_mem_cons.2 ⟨Nat.le_refl _, hlater hmore⟩

/-- Only a word is read as a name. -/
theorem eq_of_lexeme_name {c : Char} {cs : List Char} {name : String} {n : Nat}
    (h : lexeme c cs = .ok (.name name, n)) :
    isNameStart c = true ∧ name = String.ofList (c :: cs.takeWhile isNamePart) ∧
      wordToken name = .name name := by
  unfold lexeme at h
  split at h
  · unfold numberLexeme at h
    dsimp only at h
    split at h <;> cases h
  · split at h
    · split at h <;> cases h
    · split at h
      · next hstart =>
        have hword : wordToken (String.ofList (c :: cs.takeWhile isNamePart)) = .name name :=
          (Prod.mk.inj (Except.ok.inj h)).1
        have hname : name = String.ofList (c :: cs.takeWhile isNamePart) := by
          unfold wordToken at hword
          split at hword
          · cases hword
          · split at hword
            · cases hword
            · split at hword
              · cases hword
              · exact (Token.name.inj hword).symm
        exact ⟨hstart, hname, hname ▸ hname ▸ hword⟩
      · split at h <;> cases h

/-- A text that is one word. -/
structure IsWord (s : String) (c : Char) (cs : List Char) : Prop where
  toList : s.toList = c :: cs
  start : isNameStart c = true
  parts : cs.all isNamePart = true
  word : wordToken s = .name s

/-- A text that is one name by itself is a word. -/
theorem exists_isWord_of_scan {s : String} (h : Token.scan s 0 = .ok [⟨.name s, 0⟩]) :
    ∃ c cs, IsWord s c cs := by
  unfold Token.scan at h
  cases hs : s.toList with
  | nil => rw [hs] at h; cases h
  | cons c cs =>
    rw [hs, Token.scanFrom] at h
    split at h
    · -- White space in front would move the token.
      have hle := position_le_of_scanFrom h _ (List.mem_singleton_self _)
      exact absurd (Nat.lt_of_lt_of_le (Nat.add_pos_right 0 c.utf8Size_pos) hle) (Nat.lt_irrefl 0)
    · split at h
      · cases h
      · next t n hlexeme =>
        have ht : t = .name s := by
          cases hmore : Token.scanFrom n (0 + c.utf8Size) cs with
          | error fault => rw [hmore] at h; cases h
          | ok more =>
            rw [hmore] at h
            exact congrArg Spanned.token (List.cons.inj (Except.ok.inj h)).1
        obtain ⟨hstart, hname, hword⟩ := eq_of_lexeme_name (ht ▸ hlexeme)
        have hcs : cs.takeWhile isNamePart = cs := by
          rw [hname, String.toList_ofList] at hs
          exact (List.cons.inj hs).2
        refine ⟨c, cs, hs, hstart, ?_, hword⟩
        rw [← hcs]
        exact List.all_takeWhile

namespace IsWord

variable {s : String} {c : Char} {cs : List Char}

/-- The characters of a word are those of the text. -/
theorem ofList (h : IsWord s c cs) : String.ofList (c :: cs) = s := by
  rw [← h.toList, String.ofList_toList]

/-- A word is scanned as a name in front of a delimiter. -/
theorem scans (h : IsWord s c cs) {rest : List Char} {ts : List Token} (hrest : Delimits rest)
    (hscans : Scans rest ts) : Scans (c :: (cs ++ rest)) (.name s :: ts) := by
  have hword := hscans.word h.start h.parts hrest.isNamePart
  rwa [h.ofList, h.word] at hword

/-- What a word is made of. -/
theorem isNamePart (h : IsWord s c cs) : ∀ d ∈ c :: cs, isNamePart d = true :=
  List.forall_mem_cons.2 ⟨isNamePart_of_isNameStart h.start, List.all_eq_true.1 h.parts⟩

/-- No word ends in white space or a semicolon. -/
theorem getLast? (h : IsWord s c cs) : ∀ d ∈ (c :: cs).getLast?, isBlank d = false ∧ d ≠ ';' := by
  intro d hd
  have hpart := h.isNamePart d (List.mem_of_getLast? hd)
  refine ⟨(not_isBlank_of_isNamePart hpart).1, ?_⟩
  rintro rfl
  have hsemicolon : Formula.isNamePart ';' = false := by decide +kernel
  rw [hsemicolon] at hpart
  cases hpart

end IsWord

/-! ## Columns -/

/-- The ways in which a column is written. -/
inductive SpellsColumn (name : String) : String → Prop
  /-- In brackets behind the word `row`. -/
  | quoted : SpellsColumn name ("row[" ++ quotedLiteral name ++ "]")
  /-- Behind the word `row` and a point, if the name is one word. -/
  | pointed : Token.scan name 0 = .ok [⟨.name name, 0⟩] → SpellsColumn name ("row." ++ name)
  /-- Alone, if the name is one word that stands for no literal. -/
  | alone : Token.scan name 0 = .ok [⟨.name name, 0⟩] → Setting.namedLiteral? name = none →
      SpellsColumn name name

/-- A word behind the word `row` and a point is scanned as a name. -/
theorem IsWord.scans_pointed {name : String} {c : Char} {cs : List Char} (h : IsWord name c cs)
    {rest : List Char} {ts : List Token} (hrest : Delimits rest) (hscans : Scans rest ts) :
    Scans ('r' :: 'o' :: 'w' :: '.' :: c :: (cs ++ rest))
      (.name "row" :: .sign .dot :: .name name :: ts) := by
  have hpoint : Formula.lexeme '.' (c :: (cs ++ rest)) = .ok (.sign .dot, 0) := by
    have hdigit :
        (isAsciiDigit '.' || ('.' == '.' && startsWithDigit (c :: (cs ++ rest)))) = false :=
      isAsciiDigit_eq_false_of_isNameStart h.start
    rw [Formula.lexeme, hdigit]
    rfl
  have hfield : Scans ('.' :: c :: (cs ++ rest)) (.sign .dot :: .name name :: ts) :=
    (h.scans hrest hscans).sign (by decide) hpoint
  have hword := @Scans.word 'r' ['o', 'w'] _ _ (by decide +kernel) (by decide +kernel)
    (by rintro c ⟨⟩; decide +kernel) hfield
  have hrow : wordToken "row" = .name "row" := by decide +kernel
  simpa [hrow] using hword

/-- A column behind the word `row` and a point. -/
def Phrase.pointed {name : String} {c : Char} {cs : List Char} (h : IsWord name c cs) :
    Phrase 1 .primary where
  chars := 'r' :: 'o' :: 'w' :: '.' :: c :: cs
  tokens := [.name "row", .sign .dot, .name name]
  tree := .column name
  scans := fun _ _ hrest hscans => h.scans_pointed hrest hscans
  derives := .field name (by decide)

/-- A text that ends with its expression and does not start with white space or with the word
`return` in front of something else is all expression, in either dialect. -/
theorem Body.chars_ofText {s : String} {c : Char} {cs : List Char} (hs : s.toList = c :: cs)
    (hc : isBlank c = false) (hlast : ∀ d ∈ (c :: cs).getLast?, isBlank d = false ∧ d ≠ ';')
    (hreturn : ∀ d rest, c :: cs = 'r' :: 'e' :: 't' :: 'u' :: 'r' :: 'n' :: d :: rest →
      isBlank d = false ∧ d ≠ '(') (dialect : Dialect) : (ofText s dialect).chars = c :: cs := by
  have hfirst : ∀ d ∈ s.toList.head?, isBlank d = false := by
    rw [hs]
    rintro _ ⟨⟩
    exact hc
  rw [← hs] at hlast hreturn ⊢
  cases dialect with
  | row => exact chars_ofText_row hfirst hlast hreturn
  | table => exact chars_ofText_table hfirst hlast

/-- However a column is written, it is read as the column of that name. -/
theorem parse_of_spellsColumn {name source : String} (h : SpellsColumn name source)
    (dialect : Dialect) : parse dialect source = .ok (.column name) := by
  cases h with
  | quoted =>
    have hchars : ("row[" ++ quotedLiteral name ++ "]").toList =
        'r' :: 'o' :: 'w' :: '[' :: (quotedChars name ++ [']']) := by
      rw [String.toList_append, String.toList_append, toList_quotedLiteral]
      rfl
    refine (Phrase.field name (by decide : 1 ≤ 64)).expression.parse ?_ (Nat.zero_le 256)
    refine Body.chars_ofText hchars (by decide) ?_ (by rintro d rest ⟨⟩) dialect
    show ∀ d ∈ (('r' :: 'o' :: 'w' :: '[' :: quotedChars name) ++ [']']).getLast?, _
    rw [List.getLast?_concat]
    rintro _ ⟨⟩
    decide
  | pointed hscan =>
    obtain ⟨c, cs, hword⟩ := exists_isWord_of_scan hscan
    have hchars : ("row." ++ name).toList = 'r' :: 'o' :: 'w' :: '.' :: c :: cs := by
      rw [String.toList_append, hword.toList]
      rfl
    refine (Phrase.pointed hword).expression.parse ?_ (Nat.zero_le 256)
    refine Body.chars_ofText hchars (by decide) ?_ (by rintro d rest ⟨⟩) dialect
    show ∀ d ∈ (['r', 'o', 'w', '.'] ++ (c :: cs)).getLast?, _
    rw [List.getLast?_append_of_ne_nil _ (List.cons_ne_nil _ _)]
    exact hword.getLast?
  | alone hscan hliteral =>
    obtain ⟨c, cs, hword⟩ := exists_isWord_of_scan hscan
    have hnot : ∀ cell, (name, cell) ∉ literalWords := fun cell hcell => by
      rw [namedLiteral?_eq_some_iff.2 hcell] at hliteral
      cases hliteral
    have hbody : (Body.ofText name dialect).chars = c :: cs := by
      refine Body.chars_ofText hword.toList (isBlank_of_isNameStart hword.start) hword.getLast? ?_
        dialect
      intro d rest hreturn
      refine not_isBlank_of_isNamePart (hword.isNamePart d ?_)
      rw [hreturn]
      simp
    have hscans : Scans (Body.ofText name dialect).chars [.name name] := by
      have hscans := @IsWord.scans _ _ _ hword [] [] nofun .nil
      rwa [List.append_nil, ← hbody] at hscans
    exact Phrase.parse_of_isFormula hscans
      ⟨.operand (.operand (.operand (.operand (.operand (.primary (.column (by decide) hnot)))))),
        Nat.zero_le 256⟩

/-- Every spelling of a column is compiled to the column. -/
theorem compile_of_spellsColumn {name source : String} (h : SpellsColumn name source)
    (dialect : Dialect) :
    Formula.compile dialect source = .ok ⟨trim source, dialect, .column name⟩ := by
  rw [Formula.compile, parse_of_spellsColumn h]
  rfl

/-! ## What a column means -/

/-- However a column is written, the formula can be read in either dialect, and it has the value of
the bound cell if the name is bound, or else of the cell of the row, or else of the first
aggregation with this label, or else null. -/
theorem evaluate_of_spellsColumn {name source : String} (h : SpellsColumn name source)
    (dialect : Dialect) :
    ∃ g, Formula.compile dialect source = .ok g ∧ ∀ row bound,
      g.expr.evalRow row bound = .ok (.scalar ((boundTo name bound).getD (row.get name))) ∧
      (row.has name = false → row.get name = .null) ∧
      ∀ scope memo,
        ((boundTo name bound ≠ none ∨ row.has name = true ∨
            ∀ s ∈ scope, ∀ a ∈ s.aggregations, a.label ≠ some name) →
          (g.evaluate row bound scope).run memo =
            (.ok (.scalar ((boundTo name bound).getD (row.get name))), memo)) ∧
        (boundTo name bound = none → row.has name = false →
          ∀ s ∈ scope, ∀ before a after, s.aggregations = before ++ a :: after →
            a.label = some name → (∀ b ∈ before, b.label ≠ some name) →
            (g.evaluate row bound scope).run memo = (s.call a).run memo) := by
  refine ⟨_, compile_of_spellsColumn h dialect, fun row bound =>
    ⟨?_, Row.get_of_has_eq_false, fun scope memo => ⟨fun hmeaning => ?_, ?_⟩⟩⟩
  · have hcolumn := (Expr.rowView row bound).column_of_unlabelled name (.inr (.inr rfl))
    show ((View.column (Expr.rowView row bound) name).run ()).1 = _
    rw [hcolumn]
    rfl
  · have hcolumn (v : View Memo) (hrow : v.row = row) (hbound : v.bound = bound)
        (hlabelled : (∀ s ∈ scope, ∀ a ∈ s.aggregations, a.label ≠ some name) →
          v.labelled name = none) :
        (v.column name).run memo =
          (.ok (.scalar ((boundTo name bound).getD (row.get name))), memo) := by
      subst hrow hbound
      rw [v.column_of_unlabelled name (hmeaning.imp_right (.imp_right hlabelled))]
      rfl
    cases scope with
    | none => exact hcolumn (bareView row bound) rfl rfl fun _ => rfl
    | some s =>
      refine hcolumn (s.view row bound) rfl rfl fun h => List.find?_eq_none.2 fun a ha heq => ?_
      exact h s rfl a ha (beq_iff_eq.1 heq)
  · rintro hbound hrow s ⟨⟩ before a after hlist hlabel hfirst
    have hname : name = "value" → bound = none := fun hvalue => (if_pos hvalue).symm.trans hbound
    exact congrFun (congrArg ExceptT.run (Scope.eval_column hlist hlabel hfirst hrow hname)) memo

/-- A column in brackets is read although its name has blanks and quotes, and no aggregation has it
for its label. -/
theorem evaluate_of_spellsColumn_quoted :
    SpellsColumn "unit \"price\"" "row[\"unit \\\"price\\\"\"]" ∧
    ∃ g, Formula.compile .table "row[\"unit \\\"price\\\"\"]" = .ok g ∧
      (g.evaluate (.ofList [("unit \"price\"", .text "p")]) none (some Scope.regions)).run .empty =
        (.ok (.scalar (.text "p")), .empty) := by
  have hspells : SpellsColumn "unit \"price\"" "row[\"unit \\\"price\\\"\"]" :=
    @SpellsColumn.quoted "unit \"price\""
  obtain ⟨g, hg, hmeaning⟩ := evaluate_of_spellsColumn hspells .table
  obtain ⟨-, -, hscope⟩ := hmeaning (.ofList [("unit \"price\"", .text "p")]) none
  exact ⟨hspells, g, hg, (hscope (some Scope.regions) .empty).1 (.inr (.inl rfl))⟩

/-- A column behind `row` is hidden by the bound cell if it is called `value`, and a column that the
row does not have stands for an aggregation that is labelled so. -/
theorem access_hidden :
    (∃ g, Formula.compile .row "row[\"value\"]" = .ok g ∧
      (Row.ofList [("value", .text "p")]).get "value" = .text "p" ∧
      (g.evaluate (.ofList [("value", .text "p")]) (some (.text "q")) none).run .empty =
        (.ok (.scalar (.text "q")), .empty)) ∧
    ∃ g, Formula.compile .table "row[\"n\"]" = .ok g ∧ (Row.ofList []).get "n" = .null ∧
      ((g.evaluate (.ofList []) none (some Scope.regions)).run .empty).1 =
        .ok (.groups [.text "p", .null] .all) := by
  refine ⟨⟨_, compile_of_spellsColumn (@SpellsColumn.quoted "value") .row, rfl, rfl⟩,
    ⟨_, compile_of_spellsColumn (@SpellsColumn.quoted "n") .table, rfl, ?_⟩⟩
  cbv

end RowAudit.Formula
