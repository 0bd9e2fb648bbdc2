import RowAudit.Proofs.Formula.Faults
import RowAudit.Proofs.Formula.Separation

/-!
# Where mistakes lie

The position of a mistake (`Fault.malformed`) is one in the text that is read: between two
characters of it, at most at its end, and where a token starts, or a character that starts none, or
where the expression ends (`Flaw.Located`). Three things make it so. What is dropped around the
expression is cut off at its ends, and behind the expression stand white space and a semicolon only
(`Body.LiesIn`, `Body.liesIn_ofText`), so that a token of the expression is one of the text and what
is no token in the expression is none in the text (`lexeme_append_of_error`). A token starts, and a
fault in cutting lies, where cutting arrives behind white space and whole tokens (`Token.Reaches`).
And the reader finds fault at its next token (`Setting.blames_of_parse`).

The exception is the filter of an aggregation. It is read as a text of its own, and its mistakes
keep the positions that they have there (`pointsInto_of_parse`, `filterPosition_cuts_character`).
-/

namespace RowAudit.Formula

open RowAudit.Text

/-! ## What is no token -/

section
variable {c : Char} {cs w : List Char}

/-- What consists of separators stands apart. -/
theorem apart_of_all (hw : w.all separates = true) : Apart w := by
  cases w with
  | nil => exact apart_nil
  | cons d w =>
    rw [List.all_cons, Bool.and_eq_true] at hw
    rintro _ ⟨⟩
    exact hw.1

/-- A text that is not closed is not closed by characters without its quote. -/
theorem quotedText_append_eq_none {quote : Char} (h : quotedText quote cs = none) (hw : quote ∉ w) :
    quotedText quote (cs ++ w) = none := by
  have hopen {w : List Char} (hw : quote ∉ w) : quotedText quote w = none := by
    induction w using quotedText.induct quote with
    | case1 | case2 => rfl
    | case3 c w ih =>
      rw [quotedText, ih fun h => hw (List.mem_cons_of_mem _ (List.mem_cons_of_mem _ h))]
      rfl
    | case4 w hend hmore => exact absurd (List.mem_cons_self ..) hw
    | case5 c w hend hmore hne ih =>
      rw [quotedText_cons (ne_backslash hend hmore), if_neg hne,
        ih fun h => hw (List.mem_cons_of_mem _ h)]
      rfl
  induction cs using quotedText.induct quote with
  | case1 => exact hopen hw
  | case2 =>
    cases w with
    | nil => rfl
    | cons d w => exact Option.map_eq_none_iff.2 (hopen fun h => hw (List.mem_cons_of_mem _ h))
  | case3 c cs ih =>
    exact Option.map_eq_none_iff.2 (ih (Option.map_eq_none_iff.1 h))
  | case4 cs hend hmore =>
    rw [quotedText_cons (ne_backslash hend hmore), if_pos rfl] at h
    cases h
  | case5 c cs hend hmore hne ih =>
    rw [List.cons_append, quotedText_cons (ne_backslash hend hmore), if_neg hne] at *
    exact Option.map_eq_none_iff.2 (ih (Option.map_eq_none_iff.1 h))

/-- Which characters start no sign; only `&` and `|` need a second one. -/
theorem sign?_eq_none_iff : sign? c cs = none ↔
    c ∉ ['+', '-', '*', '/', '%', '(', ')', '[', ']', ',', '.', '=', '!', '<', '>'] ∧
      (c = '&' ∨ c = '|' → ∀ tail, cs ≠ c :: tail) := by
  constructor
  · intro h
    unfold sign? at h
    split at h <;> cases h
    next hand hor =>
    refine ⟨by simp_all, ?_⟩
    rintro (rfl | rfl) tail htail
    · exact hand tail rfl htail
    · exact hor tail rfl htail
  · rintro ⟨hc, htwo⟩
    unfold sign?
    split <;> first | rfl | exact absurd (by decide) hc | skip
    · exact absurd rfl (htwo (.inl rfl) _)
    · exact absurd rfl (htwo (.inr rfl) _)

/-- What follows apart makes no sign either. -/
theorem sign?_append_eq_none (h : sign? c cs = none) (hw : Apart w) : sign? c (cs ++ w) = none := by
  obtain ⟨hc, htwo⟩ := sign?_eq_none_iff.1 h
  refine sign?_eq_none_iff.2 ⟨hc, fun hpair tail htail => ?_⟩
  cases cs with
  | nil =>
    have hsep : separates c = true := hw c (by rw [← List.nil_append w, htail]; rfl)
    rcases hpair with rfl | rfl <;> cases hsep
  | cons d cs =>
    obtain ⟨rfl, -⟩ := List.cons.inj htail
    exact htwo hpair _ rfl

/-- What is no token is none in front of separators either. -/
theorem lexeme_append_of_error {flaw : Flaw} (h : lexeme c cs = .error flaw)
    (hw : w.all separates = true) : lexeme c (cs ++ w) = .error flaw := by
  have hapart := apart_of_all hw
  have hstarts : startsWithDigit (cs ++ w) = startsWithDigit cs := by
    cases cs with
    | nil => exact startsWithDigit_of_apart hapart
    | cons d cs => rfl
  have htake (n : Numeral) : n.take (cs ++ w) = n.take cs := by
    have hlength : (n.take (cs ++ [])).length ≤ cs.length := by
      rw [List.append_nil]
      exact n.length_take_le cs
    rw [Numeral.take_append hlength hapart, List.append_nil]
  unfold lexeme at h ⊢
  rw [hstarts]
  split_ifs at h ⊢ with hnumber hquote hname
  · unfold numberLexeme at h ⊢
    rw [htake]
    exact h
  · cases hread : quotedText c cs with
    | some sn => rw [hread] at h; cases h
    | none =>
      rw [hread] at h
      have hc : c ∉ w := fun hc => by
        have hsep := List.all_eq_true.1 hw c hc
        simp only [Bool.or_eq_true, beq_iff_eq] at hquote
        rcases hquote with (rfl | rfl) | rfl <;> cases hsep
      rw [quotedText_append_eq_none hread hc]
      exact h
  · cases hread : sign? c cs with
    | some sn => rw [hread] at h; cases h
    | none =>
      rw [hread] at h
      rw [sign?_append_eq_none hread hapart]
      exact h

end

/-! ## The expression in its text -/

namespace Body

/-- The characters of a body lie in given characters at its position, in front of separators. -/
def LiesIn (b : Body) (cs : List Char) : Prop :=
  ∃ before after, cs = before ++ b.chars ++ after ∧ byteLength before = b.position ∧
    after.all separates = true

section
variable {b : Body} {cs front rest back : List Char}

/-- What is left of a body without its front lies in the same characters. -/
theorem LiesIn.startingAt (h : b.LiesIn cs) (hb : b.chars = front ++ rest) :
    (b.startingAt rest).LiesIn cs := by
  obtain ⟨before, after, rfl, hposition, hafter⟩ := h
  refine ⟨before ++ front, after, ?_, ?_, hafter⟩
  · simp [Body.startingAt, hb]
  · simp [Body.startingAt, hb, hposition]

/-- What is left of a body without separators at its end lies in the same characters. -/
theorem LiesIn.shortened (h : b.LiesIn cs) (hb : b.chars = rest ++ back)
    (hback : back.all separates = true) : LiesIn { b with chars := rest } cs := by
  obtain ⟨before, after, rfl, hposition, hafter⟩ := h
  refine ⟨before, back ++ after, ?_, hposition, ?_⟩
  · simp [hb]
  · rw [List.all_append, hback, hafter]
    rfl

/-- White space separates. -/
theorem all_separates (h : back.all isBlank = true) : back.all separates = true := by
  rw [List.all_eq_true] at h ⊢
  intro c hc
  rw [separates, h c hc, Bool.true_or]

/-- A body without the white space around it lies in the same characters. -/
theorem LiesIn.trimmed (h : b.LiesIn cs) : b.trimmed.LiesIn cs := by
  obtain ⟨blanks, hblanks, -⟩ := exists_dropBlanks_eq b.chars
  obtain ⟨blanks', hblanks', hall⟩ := exists_dropBlanksRight_eq (dropBlanks b.chars)
  exact (h.startingAt hblanks).shortened hblanks' (all_separates hall)

/-- A body without its semicolon lies in the same characters. -/
theorem LiesIn.withoutSemicolon (h : b.LiesIn cs) : b.withoutSemicolon.LiesIn cs := by
  unfold Body.withoutSemicolon
  split
  · next rest hrest =>
    obtain ⟨blanks, hblanks, hall⟩ := exists_dropBlanksRight_eq rest.reverse
    have hback : b.chars = dropBlanksRight rest.reverse ++ (blanks ++ [';']) := by
      have hreverse := congrArg List.reverse hrest
      rw [List.reverse_reverse, List.reverse_cons, hblanks, List.append_assoc] at hreverse
      exact hreverse
    refine h.shortened hback ?_
    rw [List.all_append, all_separates hall]
    rfl
  · exact h

/-- What is left without the word `return` stands at the end of the body. -/
theorem exists_withoutReturn_eq (b : Body) :
    ∃ front rest, b.chars = front ++ rest ∧ b.withoutReturn = b.startingAt rest := by
  have hwhole : b.startingAt b.chars = b := by
    rw [Body.startingAt, Nat.sub_self]
    rfl
  unfold Body.withoutReturn
  split
  · next c rest hchars =>
    split
    · obtain ⟨blanks, hblanks, -⟩ := exists_dropBlanks_eq (c :: rest)
      refine ⟨['r', 'e', 't', 'u', 'r', 'n'] ++ blanks, _, ?_, rfl⟩
      rw [hchars, List.append_assoc, ← hblanks]
      rfl
    · exact ⟨[], b.chars, rfl, hwhole.symm⟩
  · exact ⟨[], b.chars, rfl, hwhole.symm⟩

/-- A body without the word `return` lies in the same characters. -/
theorem LiesIn.withoutReturn (h : b.LiesIn cs) : b.withoutReturn.LiesIn cs := by
  obtain ⟨front, rest, hchars, heq⟩ := exists_withoutReturn_eq b
  rw [heq]
  exact h.startingAt hchars

end

/-- The expression of a text lies in it. -/
theorem liesIn_ofText (s : String) (dialect : Dialect) : (ofText s dialect).LiesIn s.toList := by
  have hwhole : LiesIn ⟨s.toList, 0⟩ s.toList := ⟨[], [], by simp, rfl, rfl⟩
  have hbody := hwhole.trimmed.withoutSemicolon
  cases dialect with
  | table => exact hbody
  | row => exact hbody.withoutReturn

/-- The characters of a body do not end with white space. -/
def EndsSolid (b : Body) : Prop := ∀ c ∈ b.chars.getLast?, isBlank c = false

section
variable {b : Body}

/-- A trimmed body does not end with white space. -/
theorem endsSolid_trimmed (b : Body) : b.trimmed.EndsSolid :=
  fun _ => isBlank_getLast?_dropBlanksRight

/-- Without its semicolon a body does not end with white space, since the white space in front of
that is dropped as well. -/
theorem EndsSolid.withoutSemicolon (h : b.EndsSolid) : b.withoutSemicolon.EndsSolid := by
  unfold Body.withoutSemicolon
  split
  · exact fun _ => isBlank_getLast?_dropBlanksRight
  · exact h

/-- Without the word `return` a body ends as before. -/
theorem EndsSolid.withoutReturn (h : b.EndsSolid) : b.withoutReturn.EndsSolid := by
  obtain ⟨front, rest, hchars, heq⟩ := exists_withoutReturn_eq b
  rw [heq]
  intro c hc
  refine h c ?_
  have hlast : rest.getLast? = some c := hc
  rw [hchars, List.getLast?_append, hlast]
  rfl

end

/-- The expression of a text does not end with white space. -/
theorem endsSolid_ofText (s : String) (dialect : Dialect) : (ofText s dialect).EndsSolid := by
  have hbody := (endsSolid_trimmed ⟨s.toList, 0⟩).withoutSemicolon
  cases dialect with
  | table => exact hbody
  | row => exact hbody.withoutReturn

end Body

/-! ## Where tokens start -/

namespace Token

variable {skip position : ℕ} {cs : List Char} {ts : List Spanned}

/-- White space alone has no tokens, and nothing else has none. -/
theorem all_isBlank_of_scanFrom (h : scanFrom 0 position cs = .ok []) : cs.all isBlank = true := by
  induction cs generalizing position with
  | nil => rfl
  | cons c cs ih =>
    rw [scanFrom] at h
    split at h
    · next hblank => rw [List.all_cons, hblank, ih h, Bool.true_and]
    · split at h
      · cases h
      · next n _ =>
        cases hmore : scanFrom n (position + c.utf8Size) cs <;> rw [hmore] at h <;> cases h

/-- Cutting characters into tokens arrives at given ones: behind white space and whole tokens, each
as long as it can be. -/
inductive Reaches : List Char → List Char → Prop
  | here {cs : List Char} : Reaches cs cs
  | blank {c : Char} {cs rest : List Char} (hc : isBlank c = true) (h : Reaches cs rest) :
    Reaches (c :: cs) rest
  | token {c : Char} {cs rest : List Char} {t : Token} {n : ℕ} (hc : ¬ isBlank c = true)
    (ht : lexeme c cs = .ok (t, n)) (h : Reaches (cs.drop n) rest) : Reaches (c :: cs) rest

/-- Cutting that has to skip some characters first, and counts from a position, arrives at given
characters and a given place. -/
def ReachesAt (skip position : ℕ) (cs : List Char) (place : ℕ) (rest : List Char) : Prop :=
  ∃ front, cs = front ++ rest ∧ place = position + byteLength front ∧ Reaches (cs.drop skip) rest

section
variable {c : Char} {skip' place : ℕ} {rest : List Char}

/-- Cutting is where it starts. -/
theorem ReachesAt.here : ReachesAt 0 position cs position cs :=
  ⟨[], rfl, rfl, .here⟩

/-- Cutting arrives where it arrives from behind its first character. -/
theorem ReachesAt.cons (h : ReachesAt skip (position + c.utf8Size) cs place rest)
    (hstep : Reaches (cs.drop skip) rest → Reaches ((c :: cs).drop skip') rest) :
    ReachesAt skip' position (c :: cs) place rest := by
  obtain ⟨front, hcs, hplace, hreach⟩ := h
  refine ⟨c :: front, ?_, ?_, hstep hreach⟩
  · rw [hcs, List.cons_append]
  · rw [hplace, byteLength_cons, Nat.add_assoc]

end

/-- A token is read where cutting arrives. -/
theorem exists_of_mem_scanFrom (h : scanFrom skip position cs = .ok ts) {s : Spanned}
    (hs : s ∈ ts) :
    ∃ c back n, ReachesAt skip position cs s.position (c :: back) ∧
      lexeme c back = .ok (s.token, n) := by
  induction cs generalizing skip position ts with
  | nil => cases skip <;> cases h <;> cases hs
  | cons c cs ih =>
    cases skip with
    | succ skip =>
      obtain ⟨d, back, n, hat, hd⟩ := ih h hs
      exact ⟨d, back, n, hat.cons id, hd⟩
    | zero =>
      rw [scanFrom] at h
      split at h
      · next hc =>
        obtain ⟨d, back, n, hat, hd⟩ := ih h hs
        exact ⟨d, back, n, hat.cons (.blank hc), hd⟩
      · next hc =>
        split at h
        · cases h
        · next t n ht =>
          cases hmore : scanFrom n (position + c.utf8Size) cs with
          | error fault => rw [hmore] at h; cases h
          | ok us =>
            rw [hmore] at h
            cases h
            rcases List.mem_cons.1 hs with rfl | hs
            · exact ⟨c, cs, n, .here, ht⟩
            · obtain ⟨d, back, m, hat, hd⟩ := ih hmore hs
              exact ⟨d, back, m, hat.cons (.token hc ht), hd⟩

/-- A fault is that of a character where cutting arrives and no token starts. -/
theorem exists_of_scanFrom_error {fault : Fault} (h : scanFrom skip position cs = .error fault) :
    ∃ c back flaw place, ReachesAt skip position cs place (c :: back) ∧
      lexeme c back = .error flaw ∧ fault = .malformed flaw place := by
  induction cs generalizing skip position with
  | nil => cases skip <;> cases h
  | cons c cs ih =>
    cases skip with
    | succ skip =>
      obtain ⟨d, back, flaw, place, hat, hd⟩ := ih h
      exact ⟨d, back, flaw, place, hat.cons id, hd⟩
    | zero =>
      rw [scanFrom] at h
      split at h
      · next hc =>
        obtain ⟨d, back, flaw, place, hat, hd⟩ := ih h
        exact ⟨d, back, flaw, place, hat.cons (.blank hc), hd⟩
      · next hc =>
        split at h
        · next flaw hflaw =>
          cases h
          exact ⟨c, cs, flaw, position, .here, hflaw, rfl⟩
        · next t n ht =>
          cases hmore : scanFrom n (position + c.utf8Size) cs with
          | ok us => rw [hmore] at h; cases h
          | error fault' =>
            rw [hmore] at h
            cases h
            obtain ⟨d, back, flaw, place, hat, hd⟩ := ih hmore
            exact ⟨d, back, flaw, place, hat.cons (.token hc ht), hd⟩

end Token

/-! ## Where mistakes lie -/

deriving instance DecidableEq for Flaw

/-- The mistake that reading has found, and its position. -/
def mistake? : Except Fault Expr → Option (Flaw × ℕ)
  | .error (.malformed flaw position) => some (flaw, position)
  | _ => none

/-- A mistake has been found exactly if reading ended with it. -/
theorem mistake?_eq_some_iff {r : Except Fault Expr} {flaw : Flaw} {position : ℕ} :
    mistake? r = some (flaw, position) ↔ r = .error (.malformed flaw position) := by
  constructor
  · intro h
    unfold mistake? at h
    split at h <;> cases h
    rfl
  · rintro rfl
    rfl

/-- From a byte position on a text goes on with given characters. -/
def CutAt (source : String) (position : ℕ) (rest : List Char) : Prop :=
  ∃ before, source.toList = before ++ rest ∧ byteLength before = position

/-- A character of a text with which a token has to start: cutting the expression of the text into
tokens arrives there. -/
structure StartsToken (source : String) (dialect : Dialect) (position : ℕ) (c : Char)
    (rest : List Char) : Prop where
  cut : CutAt source position (c :: rest)
  reached : ∃ back, Token.ReachesAt 0 (Body.ofText source dialect).position
    (Body.ofText source dialect).chars position (c :: back)

/-- Where a mistake in a text lies. -/
inductive Flaw.Located (source : String) (dialect : Dialect) (flaw : Flaw) (position : ℕ) : Prop
  /-- What starts there is no token. -/
  | character {c : Char} {rest : List Char} : StartsToken source dialect position c rest →
      lexeme c rest = .error flaw → flaw.Located source dialect position
  /-- The token of the expression that starts there is not the one that has to come. -/
  | token {c : Char} {rest : List Char} {t : Token} {n : ℕ} {tokens : List Spanned} :
      StartsToken source dialect position c rest → lexeme c rest = .ok (t, n) →
      Token.scanFrom 0 (Body.ofText source dialect).position
        (Body.ofText source dialect).chars = .ok tokens →
      ⟨t, position⟩ ∈ tokens → flaw.FoundAt (some t) → flaw.Located source dialect position
  /-- The expression ends there; what is left is white space and a semicolon. -/
  | stop {rest : List Char} : CutAt source position rest → rest.all separates = true →
      position = (Body.ofText source dialect).position +
        byteLength (Body.ofText source dialect).chars →
      flaw.FoundAt none → flaw.Located source dialect position

section
variable {source : String} {dialect : Dialect} {flaw : Flaw} {position : ℕ}

/-- A text goes on from a position that is at most its length. -/
theorem CutAt.le_byteLength {rest : List Char} (h : CutAt source position rest) :
    position ≤ byteLength source.toList := by
  obtain ⟨before, hsource, rfl⟩ := h
  rw [hsource, byteLength_append]
  exact Nat.le_add_right _ _

/-- Mistakes lie between characters. -/
theorem Flaw.Located.exists_cutAt (h : flaw.Located source dialect position) :
    ∃ rest, CutAt source position rest := by
  cases h with
  | character hstart _ | token hstart _ _ _ _ => exact ⟨_, hstart.cut⟩
  | stop hcut _ _ _ => exact ⟨_, hcut⟩

/-- Where cutting the expression of a text arrives, a token has to start in the text. -/
theorem StartsToken.of_reachesAt {c : Char} {back : List Char}
    (h : Token.ReachesAt 0 (Body.ofText source dialect).position
      (Body.ofText source dialect).chars position (c :: back)) :
    ∃ after, after.all separates = true ∧
      StartsToken source dialect position c (back ++ after) := by
  obtain ⟨before, after, hsource, hposition, hafter⟩ := Body.liesIn_ofText source dialect
  refine ⟨after, hafter, ?_, back, h⟩
  obtain ⟨front, hchars, hplace, -⟩ := h
  refine ⟨before ++ front, ?_, ?_⟩
  · rw [hsource, hchars]
    simp
  · rw [byteLength_append, hposition, hplace]

/-- A mistake at the next token, or at the end, lies there in the text. -/
theorem located_of_foundAt {tokens rest : List Spanned} {check : String → Except Fault Unit}
    {operators : ℕ}
    (htokens : Token.scanFrom 0 (Body.ofText source dialect).position
      (Body.ofText source dialect).chars = .ok tokens)
    (hrest : rest <:+ tokens) (hflaw : flaw.FoundAt (Progress.next? ⟨rest, operators⟩)) :
    flaw.Located source dialect (Setting.position ⟨dialect, (Body.ofText source dialect).position +
      byteLength (Body.ofText source dialect).chars, check⟩ ⟨rest, operators⟩) := by
  cases rest with
  | nil =>
    obtain ⟨before, after, hsource, hposition, hafter⟩ := Body.liesIn_ofText source dialect
    refine .stop ⟨before ++ (Body.ofText source dialect).chars, hsource, ?_⟩ hafter rfl hflaw
    rw [byteLength_append, hposition]
    rfl
  | cons t rest =>
    have ht : t ∈ tokens := hrest.mem List.mem_cons_self
    obtain ⟨c, back, n, hat, hlexeme⟩ := Token.exists_of_mem_scanFrom htokens ht
    obtain ⟨after, hafter, hstart⟩ := StartsToken.of_reachesAt hat
    exact .token hstart (lexeme_append_of_ok hlexeme (apart_of_all hafter)) htokens ht hflaw

/-- Where a mistake lies that reading a text finds: in the text, unless checking a filter finds
it. -/
theorem located_of_parseWith {check : String → Except Fault Unit}
    (h : parseWith check dialect source = .error (.malformed flaw position)) :
    flaw.Located source dialect position ∨ dialect = .table ∧ ∃ tokens filter start,
      Token.scanFrom 0 (Body.ofText source dialect).position (Body.ofText source dialect).chars =
        .ok tokens ∧
      ⟨.text filter, start⟩ ∈ tokens ∧ check filter = .error (.malformed flaw position) := by
  unfold parseWith at h
  dsimp only at h
  cases hscan : Token.scanFrom 0 (Body.ofText source dialect).position
      (Body.ofText source dialect).chars with
  | error fault =>
    rw [hscan] at h
    cases h
    obtain ⟨c, back, flaw, place, hat, hlexeme, ⟨⟩⟩ := Token.exists_of_scanFrom_error hscan
    obtain ⟨after, hafter, hstart⟩ := StartsToken.of_reachesAt hat
    exact .inl (.character hstart (lexeme_append_of_error hlexeme hafter))
  | ok tokens =>
    rw [hscan] at h
    cases tokens with
    | nil =>
      cases h
      have hempty : (Body.ofText source dialect).chars = [] := by
        by_contra hne
        have hlast := List.getLast?_eq_some_getLast hne
        have hblank := List.all_eq_true.1 (Token.all_isBlank_of_scanFrom hscan) _
          (List.getLast_mem hne)
        rw [Body.endsSolid_ofText source dialect _ hlast] at hblank
        cases hblank
      have hstop :=
        @located_of_foundAt source dialect .empty [] [] check 0 hscan List.suffix_rfl rfl
      dsimp only [Setting.position] at hstop
      rw [hempty] at hstop
      exact .inl hstop
    | cons t tokens =>
      cases Setting.blames_of_parse h with
      | malformed hrest hflaw => exact .inl (located_of_foundAt hscan hrest hflaw)
      | filter hs hmem hcheck => exact .inr ⟨hs, _, _, _, rfl, hmem, hcheck⟩

/-- The position of a mistake is one in the text. -/
structure Flaw.PointsInto (flaw : Flaw) (source : String) (dialect : Dialect) (position : ℕ) :
    Prop where
  le_byteLength : position ≤ byteLength source.toList
  boundary : ∃ rest, CutAt source position rest
  located : flaw.Located source dialect position

/-- A mistake with a place in the text has its position there. -/
theorem Flaw.Located.pointsInto (h : flaw.Located source dialect position) :
    flaw.PointsInto source dialect position :=
  have ⟨rest, hcut⟩ := h.exists_cutAt
  ⟨hcut.le_byteLength, ⟨rest, hcut⟩, h⟩

/-- The position of a mistake is one in the text, unless a filter that the text quotes cannot be
read: then it is the position of the mistake in the filter. -/
theorem pointsInto_of_parse (h : parse dialect source = .error (.malformed flaw position)) :
    flaw.PointsInto source dialect position ∨
    dialect = .table ∧ ∃ tokens filter start,
      Token.scanFrom 0 (Body.ofText source dialect).position (Body.ofText source dialect).chars =
        .ok tokens ∧ ⟨.text filter, start⟩ ∈ tokens ∧
      parseRow filter = .error (.malformed flaw position) ∧
        flaw.PointsInto filter .row position := by
  rcases located_of_parseWith h with
    hlocated | ⟨hdialect, tokens, filter, start, htokens, hmem, hcheck⟩
  · exact .inl hlocated.pointsInto
  · have hfilter : parseRow filter = .error (.malformed flaw position) := by
      unfold checkFilter at hcheck
      cases hread : parseRow filter with
      | ok e => rw [hread] at hcheck; cases hcheck
      | error fault => rw [hread] at hcheck; cases hcheck; rfl
    rcases located_of_parseWith hfilter with hlocated | ⟨⟨⟩, -⟩
    exact .inr ⟨hdialect, tokens, filter, start, htokens, hmem, hfilter, hlocated.pointsInto⟩

/-- Behind the word `return` and a character of two bytes an operand is missing. -/
theorem pointsInto_of_parse_operandMissing :
    let source := "\n return (é + ) ; "
    parse .row source = .error (.malformed (.stray (.sign .closeParen)) 15) ∧
      Flaw.PointsInto (.stray (.sign .closeParen)) source .row 15 := by
  have h := mistake?_eq_some_iff.1 (by decide +kernel :
    mistake? (parse .row "\n return (é + ) ; ") = some (.stray (.sign .closeParen), 15))
  refine ⟨h, ?_⟩
  rcases pointsInto_of_parse h with hpoints | ⟨⟨⟩, -⟩
  exact hpoints

/-- The position of a mistake in a filter is not counted from the start of the formula, and need not
stand between two characters of it. -/
theorem filterPosition_cuts_character :
    let source := "SUM(\"é\", \"a === ;b\")"
    parse .table source = .error (.malformed (.strayCharacter ';') 6) ∧
      ¬ ∃ rest, CutAt source 6 rest := by
  have h := mistake?_eq_some_iff.1 (by decide +kernel :
    mistake? (parse .table "SUM(\"é\", \"a === ;b\")") = some (.strayCharacter ';', 6))
  refine ⟨h, ?_⟩
  rintro ⟨rest, before, hsource, hlength⟩
  have hle : before.length ≤ 6 := hlength ▸ length_le_byteLength before
  have hbefore : (before ++ rest).take before.length = before := List.take_left
  rw [← hsource] at hbefore
  rw [← hbefore] at hlength
  generalize before.length = n at hle hlength
  have hcuts : ∀ n ≤ 6, byteLength ("SUM(\"é\", \"a === ;b\")".toList.take n) ≠ 6 := by decide
  exact hcuts n hle hlength

end

end RowAudit.Formula
