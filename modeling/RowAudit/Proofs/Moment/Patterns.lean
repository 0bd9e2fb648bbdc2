import RowAudit.Moment.Reader

/-!
# Date patterns and their layouts

A date pattern becomes a layout text piece by piece: tokens such as `YYYY` become directives, a
percent sign is doubled, any other character stays (`Layout.Piece`). A layout text splits into
pieces in one way only (`Piece.flatMap_layout_inj`), so a pattern can be read back from its layout
text, and every directive of the layout is one that a piece stands for (`Layout.ofTokens_splits`).
-/

namespace RowAudit.Layout

/-- What a pattern has a sign of its own for: a part of a date or a time, or the percent sign. -/
inductive Token where
  | year
  | shortYear
  | month
  | day
  | hour
  | minute
  | second
  | percent

namespace Token

/-- The sign in a pattern. -/
def sign : Token → List Char
  | year => ['Y', 'Y', 'Y', 'Y']
  | shortYear => ['Y', 'Y']
  | month => ['M', 'M']
  | day => ['D', 'D']
  | hour => ['H', 'H']
  | minute => ['m', 'm']
  | second => ['s', 's']
  | percent => ['%']

/-- The character behind the percent sign in a layout text. -/
def letter : Token → Char
  | year => 'Y'
  | shortYear => 'y'
  | month => 'm'
  | day => 'd'
  | hour => 'H'
  | minute => 'M'
  | second => 'S'
  | percent => '%'

/-- What a text is read for. -/
def directive : Token → Directive
  | year => .year
  | shortYear => .shortYear
  | month => .month
  | day => .day
  | hour => .hour
  | minute => .minute
  | second => .second
  | percent => .literal '%'

/-- The letter in a layout text determines the token. -/
theorem letter_inj {s t : Token} (h : s.letter = t.letter) : s = t := by
  cases s <;> cases t <;> first | rfl | exact absurd h (by decide)

/-- A token has a sign. -/
theorem sign_length_pos (t : Token) : 0 < t.sign.length := by cases t <;> decide

end Token

/-- A piece of a date pattern. -/
inductive Piece where
  | token (t : Token)
  /-- A character that stands for itself. -/
  | plain (c : Char) (ne_percent : c ≠ '%')

namespace Piece

/-- A piece in a pattern. -/
def pattern : Piece → List Char
  | token t => t.sign
  | plain c _ => [c]

/-- A piece in a layout text. -/
def layout : Piece → List Char
  | token t => ['%', t.letter]
  | plain c _ => [c]

/-- What a text is read for; a blank stands for any white space. -/
def directive : Piece → Directive
  | token t => t.directive
  | plain c _ => if Text.isBlank c then .blanks else .literal c

/-- A piece has a place in the pattern. -/
theorem pattern_length_pos (p : Piece) : 0 < p.pattern.length := by
  cases p with
  | token t => exact t.sign_length_pos
  | plain c hc => exact Nat.one_pos

/-- A pattern has at least one character for each piece. -/
theorem length_le_flatMap_pattern (ps : List Piece) : ps.length ≤ (ps.flatMap pattern).length := by
  induction ps with
  | nil => exact Nat.le_refl 0
  | cons p ps ih =>
    have hp := p.pattern_length_pos
    rw [List.flatMap_cons, List.length_cons, List.length_append]
    omega

/-- The start of a layout text tells its first piece. -/
theorem layout_append_inj {p q : Piece} {cs ds : List Char} (h : p.layout ++ cs = q.layout ++ ds) :
    p = q ∧ cs = ds := by
  cases p with
  | token s =>
    cases q with
    | token t =>
      obtain ⟨-, hletter, hrest⟩ : '%' = '%' ∧ s.letter = t.letter ∧ cs = ds := by
        simpa [layout] using h
      exact ⟨congrArg token (Token.letter_inj hletter), hrest⟩
    | plain d hd => exact absurd (List.cons.inj h).1.symm hd
  | plain c hc =>
    cases q with
    | token t => exact absurd (List.cons.inj h).1 hc
    | plain d hd =>
      obtain ⟨rfl, hrest⟩ : c = d ∧ cs = ds := by simpa [layout] using h
      exact ⟨rfl, hrest⟩

/-- A layout text splits into pieces in one way only. -/
theorem flatMap_layout_inj {ps qs : List Piece} (h : ps.flatMap layout = qs.flatMap layout) :
    ps = qs := by
  have hne (p : Piece) : p.layout ≠ [] := by cases p <;> exact List.cons_ne_nil _ _
  induction ps generalizing qs with
  | nil =>
    cases qs with
    | nil => rfl
    | cons q qs => simp [hne] at h
  | cons p ps ih =>
    cases qs with
    | nil => simp [hne] at h
    | cons q qs =>
      rw [List.flatMap_cons, List.flatMap_cons] at h
      obtain ⟨rfl, hrest⟩ := layout_append_inj h
      rw [ih hrest]

/-- A layout text is read piece by piece. -/
theorem ofChars_layout_append (p : Piece) (cs : List Char) :
    ofChars (p.layout ++ cs) = p.directive :: ofChars cs := by
  cases p with
  | token t =>
    cases t <;> simp [layout, directive, Token.letter, Token.directive, ofChars, directiveOf]
  | plain c hc => simp [layout, directive, ofChars, hc]

/-- A layout text is read as the directives of its pieces. -/
theorem ofChars_flatMap_layout (ps : List Piece) :
    ofChars (ps.flatMap layout) = ps.map directive := by
  induction ps with
  | nil => rfl
  | cons p ps ih => rw [List.flatMap_cons, ofChars_layout_append, ih, List.map_cons]

end Piece

/-- A pattern and its layout text consist of the same pieces. -/
structure Splits (pattern : List Char) (pieces : List Piece) : Prop where
  pattern_eq : pattern = pieces.flatMap Piece.pattern
  layout_eq : ofTokens pattern = pieces.flatMap Piece.layout

/-- A piece in front of a pattern, if it is translated on its own. -/
theorem Splits.cons {rest : List Char} {pieces : List Piece} (h : Splits rest pieces) (p : Piece)
    (hp : ofTokens (p.pattern ++ rest) = p.layout ++ ofTokens rest) :
    Splits (p.pattern ++ rest) (p :: pieces) where
  pattern_eq := by rw [List.flatMap_cons, ← h.pattern_eq]
  layout_eq := by rw [hp, h.layout_eq, List.flatMap_cons]

/-- Every pattern consists of pieces; the cases are those of the translation. -/
theorem exists_splits (pattern : List Char) : ∃ pieces, Splits pattern pieces := by
  induction pattern using ofTokens.induct with
  | case1 => exact ⟨[], rfl, rfl⟩
  | case2 rest ih => exact ih.imp' _ fun _ h => h.cons (.token .year) rfl
  | case3 rest hshort ih =>
    have htwo : ofTokens ('Y' :: 'Y' :: rest) = '%' :: 'y' :: ofTokens rest := by
      rw [ofTokens]
      exact hshort
    exact ih.imp' _ fun _ h => h.cons (.token .shortYear) htwo
  | case4 rest ih => exact ih.imp' _ fun _ h => h.cons (.token .month) rfl
  | case5 rest ih => exact ih.imp' _ fun _ h => h.cons (.token .day) rfl
  | case6 rest ih => exact ih.imp' _ fun _ h => h.cons (.token .hour) rfl
  | case7 rest ih => exact ih.imp' _ fun _ h => h.cons (.token .minute) rfl
  | case8 rest ih => exact ih.imp' _ fun _ h => h.cons (.token .second) rfl
  | case9 rest ih => exact ih.imp' _ fun _ h => h.cons (.token .percent) rfl
  | case10 c rest _ _ _ _ _ _ _ hpercent ih =>
    have hplain : ofTokens (c :: rest) = c :: ofTokens rest := by rw [ofTokens] <;> assumption
    exact ih.imp' _ fun _ h => h.cons (.plain c hpercent) hplain

/-- A pattern is translated piece by piece, in no more pieces than it has characters. Its layout
text splits into these pieces and no others, and putting the pieces back as they are spelled in
patterns restores the pattern, so that no two patterns have one layout text. The layout consists of
what the pieces stand for: no part of the pattern becomes any other directive. -/
theorem ofTokens_splits (pattern : List Char) :
    ∃ pieces : List Piece,
      ofTokens pattern = pieces.flatMap Piece.layout ∧
      (∀ others : List Piece, ofTokens pattern = others.flatMap Piece.layout → others = pieces) ∧
      pieces.flatMap Piece.pattern = pattern ∧
      pieces.length ≤ pattern.length ∧
      (∀ other : List Char, ofTokens other = ofTokens pattern → other = pattern) ∧
      ofChars (ofTokens pattern) = pieces.map Piece.directive := by
  obtain ⟨pieces, hpieces⟩ := exists_splits pattern
  refine ⟨pieces, hpieces.layout_eq, fun others hothers => ?_, hpieces.pattern_eq.symm, ?_,
    fun other hother => ?_, ?_⟩
  · exact Piece.flatMap_layout_inj (hothers.symm.trans hpieces.layout_eq)
  · rw [hpieces.pattern_eq]
    exact Piece.length_le_flatMap_pattern pieces
  · obtain ⟨pieces', hpieces'⟩ := exists_splits other
    have hsame : pieces' = pieces := Piece.flatMap_layout_inj <| calc
      pieces'.flatMap Piece.layout = ofTokens other := hpieces'.layout_eq.symm
      _ = ofTokens pattern := hother
      _ = pieces.flatMap Piece.layout := hpieces.layout_eq
    rw [hpieces'.pattern_eq, hpieces.pattern_eq, hsame]
  · rw [hpieces.layout_eq, Piece.ofChars_flatMap_layout]

example : ofTokens "YYYYY %Ymm".toList = "%YY %%Y%M".toList := by decide

end RowAudit.Layout
