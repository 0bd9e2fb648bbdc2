import RowAudit.Proofs.Aggregation.CallSite
import RowAudit.Proofs.Number.ReadingBack

/-!
# Scanning what is written

`Scans cs ts` says that characters are cut into tokens, wherever they start. There is one lemma for
each kind of token that is put in front of characters that are scanned already: a word, a number, a
quoted text, a sign. Each says what the first character behind the token must not be. Of a text that
begins and ends with its expression the reader scans all characters (`Body.chars_ofText_table`,
`Body.chars_ofText_row`).
-/

namespace RowAudit.Formula

open RowAudit.Text RowAudit.Aggregation

/-- Characters are cut into tokens, wherever they start. -/
def Scans (cs : List Char) (ts : List Token) : Prop :=
  ∀ position, ∃ spanned,
    Token.scanFrom 0 position cs = .ok spanned ∧ spanned.map Spanned.token = ts

/-- Characters that belong to a token that has been read are passed over. -/
theorem exists_scanFrom_append (cs rest : List Char) (position : Nat) :
    ∃ next, Token.scanFrom cs.length position (cs ++ rest) = Token.scanFrom 0 next rest := by
  induction cs generalizing position with
  | nil => exact ⟨position, rfl⟩
  | cons c cs ih => exact ih (position + c.utf8Size)

namespace Scans

variable {c : Char} {cs rest : List Char} {t : Token} {ts : List Token}

/-- No characters have no tokens. -/
theorem nil : Scans [] [] := fun _ => ⟨[], rfl, rfl⟩

/-- White space in front adds no token. -/
theorem blank (hc : isBlank c = true) (h : Scans cs ts) : Scans (c :: cs) ts := by
  intro position
  obtain ⟨spanned, hscan, hmap⟩ := h (position + c.utf8Size)
  refine ⟨spanned, ?_, hmap⟩
  rw [Token.scanFrom, if_pos hc]
  exact hscan

/-- A token in front that takes its characters and no more is added. -/
theorem lexeme (hc : isBlank c = false)
    (ht : Formula.lexeme c (cs ++ rest) = .ok (t, cs.length)) (h : Scans rest ts) :
    Scans (c :: (cs ++ rest)) (t :: ts) := by
  intro position
  obtain ⟨next, hnext⟩ := exists_scanFrom_append cs rest (position + c.utf8Size)
  obtain ⟨spanned, hscan, hmap⟩ := h next
  refine ⟨⟨t, position⟩ :: spanned, ?_, congrArg (t :: ·) hmap⟩
  rw [Token.scanFrom, if_neg (by rw [hc]; exact Bool.false_ne_true), ht]
  dsimp only
  rw [hnext, hscan]
  rfl

/-- A sign of one character in front of anything that does not make it a longer one. -/
theorem sign {sign : Sign} (hc : isBlank c = false)
    (hsign : Formula.lexeme c rest = .ok (.sign sign, 0)) (h : Scans rest ts) :
    Scans (c :: rest) (.sign sign :: ts) :=
  @lexeme c [] rest _ ts hc hsign h

end Scans

/-- The first token is the one that the first character starts. -/
theorem exists_of_scanFrom {c : Char} {cs : List Char} {t : Token} {n position : Nat}
    {spanned : List Spanned} (hc : isBlank c = false) (ht : lexeme c cs = .ok (t, n))
    (h : Token.scanFrom 0 position (c :: cs) = .ok spanned) :
    ∃ more, spanned.map Spanned.token = t :: more := by
  rw [Token.scanFrom, hc, if_neg Bool.false_ne_true, ht] at h
  dsimp only at h
  cases hmore : Token.scanFrom n (position + c.utf8Size) cs with
  | error e => rw [hmore] at h; cases h
  | ok ts =>
    rw [hmore] at h
    cases h
    exact ⟨_, rfl⟩

/-! ## Words -/

/-- The code points of white space. -/
def blankPoints : List Nat :=
  List.range' 9 5 ++ [32, 0x85, 0xA0, 0x1680] ++ List.range' 0x2000 11
    ++ [0x2028, 0x2029, 0x202F, 0x205F, 0x3000]

/-- The code points of digits, of the decimal point and of quotes. -/
def literalStarts : List Nat := List.range' 48 10 ++ [46, 34, 39, 96]

/-- Neither an opening parenthesis nor white space is part of a name. -/
theorem isNamePart_ofNat_eq_false : ∀ n ∈ 40 :: blankPoints, isNamePart (Char.ofNat n) = false := by
  decide +kernel

/-- No name starts like a literal. -/
theorem isNameStart_ofNat_eq_false : ∀ n ∈ literalStarts, isNameStart (Char.ofNat n) = false := by
  decide +kernel

/-- A name starts with one of its parts. -/
theorem isNamePart_of_isNameStart {c : Char} (h : isNameStart c = true) : isNamePart c = true := by
  simp only [isNameStart, Bool.or_eq_true] at h
  simp only [isNamePart, isAlphanumeric, Bool.or_eq_true]
  tauto

/-- Neither white space nor a parenthesis is part of a name. -/
theorem not_isBlank_of_isNamePart {c : Char} (h : isNamePart c = true) :
    isBlank c = false ∧ c ≠ '(' := by
  have hnot : c.toNat ∉ 40 :: blankPoints := by
    intro hmem
    have hfalse := isNamePart_ofNat_eq_false c.toNat hmem
    rw [Char.ofNat_toNat, h] at hfalse
    cases hfalse
  constructor
  · rw [Bool.eq_false_iff]
    intro hblank
    refine hnot (List.mem_cons_of_mem _ ?_)
    simp only [isBlank, Bool.or_eq_true, Bool.and_eq_true, decide_eq_true_eq, beq_iff_eq] at hblank
    simp only [blankPoints, List.mem_append, List.mem_range'_1, List.mem_cons, List.not_mem_nil]
    omega
  · rintro rfl
    exact hnot (List.mem_cons_self ..)

/-- No name starts with white space. -/
theorem isBlank_of_isNameStart {c : Char} (h : isNameStart c = true) : isBlank c = false :=
  (not_isBlank_of_isNamePart (isNamePart_of_isNameStart h)).1

/-- What starts a name is neither a digit nor a point nor a quote. -/
theorem toNat_notMem_literalStarts {c : Char} (h : isNameStart c = true) :
    c.toNat ∉ literalStarts := by
  intro hmem
  have hfalse := isNameStart_ofNat_eq_false c.toNat hmem
  rw [Char.ofNat_toNat, h] at hfalse
  cases hfalse

/-- No name starts with a digit. -/
theorem isAsciiDigit_eq_false_of_isNameStart {c : Char} (h : isNameStart c = true) :
    isAsciiDigit c = false := by
  rw [Bool.eq_false_iff]
  intro hdigit
  obtain ⟨hlow, hhigh⟩ := isAsciiDigit_iff.1 hdigit
  refine toNat_notMem_literalStarts h (List.mem_append_left _ (List.mem_range'_1.2 ?_))
  omega

/-- What starts with a letter is a word, as far as it goes on with parts of names. -/
theorem lexeme_word {c : Char} {cs rest : List Char} (hc : isNameStart c = true)
    (hcs : cs.all isNamePart = true) (hrest : ∀ r ∈ rest.head?, isNamePart r = false) :
    lexeme c (cs ++ rest) = .ok (wordToken (String.ofList (c :: cs)), cs.length) := by
  have hdigit := isAsciiDigit_eq_false_of_isNameStart hc
  have hne (d : Char) (hd : d.toNat ∈ literalStarts) : (c == d) = false := by
    rw [beq_eq_false_iff_ne]
    rintro rfl
    exact toNat_notMem_literalStarts hc hd
  have htake : (cs ++ rest).takeWhile isNamePart = cs := by
    rw [List.takeWhile_append_of_pos (List.all_eq_true.1 hcs)]
    cases rest with
    | nil => rw [List.takeWhile_nil, List.append_nil]
    | cons r rest =>
      rw [List.takeWhile_cons, hrest r rfl, if_neg Bool.false_ne_true, List.append_nil]
  rw [lexeme, hdigit, hne '.' (by decide), hne '"' (by decide), hne '\'' (by decide),
    hne '`' (by decide), hc, htake]
  rfl

/-- A word in front of what is no part of a name. -/
theorem Scans.word {c : Char} {cs rest : List Char} {ts : List Token} (hc : isNameStart c = true)
    (hcs : cs.all isNamePart = true) (hrest : ∀ r ∈ rest.head?, isNamePart r = false)
    (h : Scans rest ts) :
    Scans (c :: (cs ++ rest)) (wordToken (String.ofList (c :: cs)) :: ts) :=
  h.lexeme (isBlank_of_isNameStart hc) (lexeme_word hc hcs hrest)

/-! ## Numbers -/

/-- A numeral goes on with digits. -/
theorem Numeral.take_digits {ds rest : List Char} (pointSeen powerSeen : Bool)
    (hds : ds.all isAsciiDigit = true) :
    Numeral.take ⟨pointSeen, powerSeen, false⟩ (ds ++ rest) =
      ds ++ Numeral.take ⟨pointSeen, powerSeen, false⟩ rest := by
  induction ds with
  | nil => rfl
  | cons d ds ih =>
    rw [List.all_cons, Bool.and_eq_true] at hds
    rw [List.cons_append, Numeral.take, Numeral.next?, if_pos hds.1]
    dsimp only
    rw [ih hds.2, List.cons_append]

/-- A number in front of what does not go on with it. -/
theorem Scans.number {cs rest : List Char} {ts : List Token} {x : Float} (hcs : Number.Spells cs x)
    (hrest : ∀ r ∈ rest.head?, ∀ n : Numeral, n.next? r = none) (h : Scans rest ts) :
    Scans (cs ++ rest) (.number x :: ts) := by
  have hread := hcs.read
  obtain ⟨whole, fraction, hne, hwhole, hfraction, rfl⟩ := hcs.digits
  obtain ⟨c, whole, rfl⟩ := List.exists_cons_of_ne_nil hne
  rw [List.all_cons, Bool.and_eq_true] at hwhole
  have hend (n : Numeral) : n.take rest = [] := by
    cases rest with
    | nil => rfl
    | cons r rest => rw [Numeral.take, hrest r rfl]
  have htake : Numeral.take ⟨false, false, false⟩ (Number.pointed whole fraction ++ rest) =
      Number.pointed whole fraction := by
    rw [Number.pointed, List.append_assoc, Numeral.take_digits _ _ hwhole.2]
    cases fraction with
    | nil => exact congrArg _ (hend _)
    | cons d fraction =>
      show whole ++ '.' :: Numeral.take ⟨true, false, false⟩ (d :: fraction ++ rest) = _
      rw [Numeral.take_digits _ _ hfraction, hend, List.append_nil]
      rfl
  have hpoint : (c == '.') = false := by
    rw [beq_eq_false_iff_ne]
    rintro rfl
    cases hwhole.1
  have hlexeme : Formula.lexeme c (Number.pointed whole fraction ++ rest) =
      .ok (.number x, (Number.pointed whole fraction).length) := by
    rw [Formula.lexeme, hwhole.1, Bool.true_or, if_pos rfl, numberLexeme, hpoint, htake]
    change Number.ofChars? (c :: Number.pointed whole fraction) = some x at hread
    rw [hread]
  exact h.lexeme (isBlank_of_isAsciiDigit hwhole.1) hlexeme

/-! ## Quoted texts -/

/-- A quoted text is read back up to its end. -/
theorem quotedText_escaped (cs rest : List Char) :
    quotedText '"' (cs.flatMap escapedChar ++ '"' :: rest) =
      some (cs, (cs.flatMap escapedChar).length + 1) := by
  induction cs with
  | nil => rfl
  | cons c cs ih =>
    rw [List.flatMap_cons, List.append_assoc, List.length_append]
    rcases escapedChar_cases c with ⟨hc, hescaped⟩ | ⟨hc, hslash, hquote⟩
    · have hself : unescaped c = c := by rcases hescaped with rfl | rfl <;> rfl
      rw [hc]
      show (quotedText '"' (cs.flatMap escapedChar ++ '"' :: rest)).map _ = _
      rw [ih, Option.map_some, hself]
      simp only [List.length_cons, List.length_nil]
      congr 2
      omega
    · rw [hc, List.singleton_append, quotedText]
      · rw [if_neg hquote, ih, Option.map_some]
        simp only [List.length_cons, List.length_nil]
        congr 2
        omega
      · exact fun h _ => hslash h
      · exact fun _ _ h => absurd h hslash

/-- A quoted text in front of anything. -/
theorem Scans.quoted {rest : List Char} {ts : List Token} (s : String) (h : Scans rest ts) :
    Scans (quotedChars s ++ rest) (.text s :: ts) := by
  have hlexeme : Formula.lexeme '"' ((s.toList.flatMap escapedChar ++ ['"']) ++ rest) =
      .ok (.text s, (s.toList.flatMap escapedChar ++ ['"']).length) := by
    have hstart (cs : List Char) :
        (isAsciiDigit '"' || ('"' == '.' && startsWithDigit cs)) = false := rfl
    have hquote : ('"' == '"' || '"' == '\'' || '"' == '`') = true := rfl
    rw [List.append_assoc, List.length_append, List.singleton_append, Formula.lexeme, hstart,
      if_neg Bool.false_ne_true, hquote, if_pos rfl, quotedText_escaped]
    dsimp only
    rw [String.ofList_toList]
    rfl
  exact h.lexeme (by decide) hlexeme

/-! ## Whole texts -/

namespace Body

variable {s : String}

/-- Of a text that starts and ends with its expression nothing is dropped in the table dialect. -/
theorem chars_ofText_table (hfirst : ∀ c ∈ s.toList.head?, isBlank c = false)
    (hlast : ∀ c ∈ s.toList.getLast?, isBlank c = false ∧ c ≠ ';') :
    (ofText s .table).chars = s.toList := by
  have htrim : (trimmed ⟨s.toList, 0⟩).chars = s.toList :=
    trimChars_eq_self hfirst fun c hc => (hlast c hc).1
  show (withoutSemicolon _).chars = _
  unfold withoutSemicolon
  split
  · next rest hrev =>
    rw [htrim] at hrev
    refine absurd rfl (hlast ';' ?_).2
    rw [← List.head?_reverse, hrev]
    rfl
  · exact htrim

/-- Nor is anything dropped in the row dialect, unless the text starts with the word `return`. -/
theorem chars_ofText_row (hfirst : ∀ c ∈ s.toList.head?, isBlank c = false)
    (hlast : ∀ c ∈ s.toList.getLast?, isBlank c = false ∧ c ≠ ';')
    (hreturn : ∀ c rest, s.toList = 'r' :: 'e' :: 't' :: 'u' :: 'r' :: 'n' :: c :: rest →
      isBlank c = false ∧ c ≠ '(') :
    (ofText s .row).chars = s.toList := by
  have htable : (ofText s .table).chars = s.toList := chars_ofText_table hfirst hlast
  show (withoutReturn (ofText s .table)).chars = _
  unfold withoutReturn
  split
  · next c rest hchars =>
    rw [htable] at hchars
    obtain ⟨hc, hparen⟩ := hreturn c rest hchars
    rw [hc, beq_eq_false_iff_ne.2 hparen, Bool.or_self, if_neg Bool.false_ne_true]
    exact htable
  · exact htable

/-- The word `return` and the blank behind it are dropped in the row dialect. -/
theorem chars_ofText_return {rest : List Char}
    (hs : s.toList = 'r' :: 'e' :: 't' :: 'u' :: 'r' :: 'n' :: ' ' :: rest)
    (hlast : ∀ c ∈ s.toList.getLast?, isBlank c = false ∧ c ≠ ';') :
    (ofText s .row).chars = dropBlanks rest := by
  have htable : (ofText s .table).chars = s.toList := by
    refine chars_ofText_table ?_ hlast
    rw [hs]
    rintro c ⟨⟩
    rfl
  show (withoutReturn (ofText s .table)).chars = _
  rw [withoutReturn, htable, hs]
  rfl

end Body

end RowAudit.Formula
