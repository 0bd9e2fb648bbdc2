import RowAudit.Proofs.Formula.Scanning

/-!
# Tokens between separators

No token goes on with white space or with a semicolon (`separates`). So a token that ends in front
of one ends there whatever comes after it (`lexeme_append`), and characters that are cut into tokens
are cut into the same ones in front of a separator (`Token.scanFrom_append`). Conversely characters
may be cut in two where a token starts (`Token.scanFrom_split`). Positions are counted along, so
that what starts further on has the same tokens, or the same fault, further on
(`Token.scanFrom_add`).
-/

namespace RowAudit.Formula

open RowAudit.Text

/-! ## What no token goes on with -/

/-- Characters that no token goes on with: white space and semicolons. -/
def separates (c : Char) : Bool := isBlank c || c == ';'

/-- What follows starts with a character that no token goes on with, or is nothing. -/
def Apart (cs : List Char) : Prop := ∀ c ∈ cs.head?, separates c = true

/-- Nothing stands apart. -/
theorem apart_nil : Apart [] := by
  rintro c ⟨⟩

section
variable {c : Char}

/-- A separator is none of the other characters. -/
theorem ne_of_separates (h : separates c = true) {d : Char} (hd : separates d = false) : c ≠ d := by
  rintro rfl
  exact Bool.false_ne_true (hd.symm.trans h)

/-- No name goes on with a separator. -/
theorem isNamePart_of_separates (h : separates c = true) : isNamePart c = false := by
  rw [separates, Bool.or_eq_true, beq_iff_eq] at h
  rcases h with h | rfl
  · rw [Bool.eq_false_iff]
    intro hpart
    exact Bool.false_ne_true ((not_isBlank_of_isNamePart hpart).1.symm.trans h)
  · decide +kernel

/-- No digit is a separator. -/
theorem isAsciiDigit_of_separates (h : separates c = true) : isAsciiDigit c = false := by
  rw [separates, Bool.or_eq_true, beq_iff_eq] at h
  rcases h with h | rfl
  · rw [Bool.eq_false_iff]
    intro hdigit
    exact Bool.false_ne_true ((isBlank_of_isAsciiDigit hdigit).symm.trans h)
  · rfl

/-- No number goes on with a separator. -/
theorem Numeral.next?_of_separates (h : separates c = true) (n : Numeral) : n.next? c = none := by
  have hne {d : Char} (hd : separates d = false) : (c == d) = false :=
    beq_eq_false_iff_ne.2 (ne_of_separates h hd)
  rw [next?, isAsciiDigit_of_separates h, hne (d := '.') (by decide), hne (d := 'e') (by decide),
    hne (d := 'E') (by decide), hne (d := '+') (by decide), hne (d := '-') (by decide)]
  rfl

end

/-! ## Tokens in front of a separation -/

section
variable {c : Char} {cs rest w : List Char}

/-- A numeral that ends in `cs` ends there whatever follows apart. -/
theorem Numeral.take_append {n : Numeral} (h : (n.take (cs ++ rest)).length ≤ cs.length)
    (hw : Apart w) : n.take (cs ++ w) = n.take (cs ++ rest) := by
  induction cs generalizing n with
  | nil =>
    rw [List.eq_nil_of_length_eq_zero (Nat.le_zero.1 h)]
    cases w with
    | nil => rfl
    | cons c w => rw [List.nil_append, take, next?_of_separates (hw c rfl)]
  | cons c cs ih =>
    rw [List.cons_append, take] at h ⊢
    rw [List.cons_append, take]
    cases hnext : n.next? c with
    | none => rfl
    | some m =>
      rw [hnext] at h
      exact congrArg (c :: ·) (ih (Nat.le_of_succ_le_succ h))

/-- Nor does a word go on. -/
theorem takeWhile_isNamePart_append
    (h : ((cs ++ rest).takeWhile isNamePart).length ≤ cs.length) (hw : Apart w) :
    (cs ++ w).takeWhile isNamePart = (cs ++ rest).takeWhile isNamePart := by
  induction cs with
  | nil =>
    rw [List.eq_nil_of_length_eq_zero (Nat.le_zero.1 h)]
    cases w with
    | nil => rfl
    | cons c w => exact List.takeWhile_cons_of_neg (by simp [isNamePart_of_separates (hw c rfl)])
  | cons c cs ih =>
    rw [List.cons_append, List.takeWhile_cons] at h ⊢
    rw [List.cons_append, List.takeWhile_cons]
    split at h
    · next hc =>
      rw [if_pos hc, if_pos hc]
      exact congrArg (c :: ·) (ih (Nat.le_of_succ_le_succ h))
    · next hc => rw [if_neg hc, if_neg hc]

/-- A character that is no backslash closes a quoted text or belongs to it. -/
theorem quotedText_cons {quote : Char} (hc : c ≠ '\\') (cs : List Char) :
    quotedText quote (c :: cs) = if c = quote then some ([], 1)
      else (quotedText quote cs).map fun (s, n) => (c :: s, n + 1) :=
  quotedText.eq_4 quote c cs (fun h => absurd h hc) fun _ _ h => absurd h hc

/-- A backslash stands at the end or in front of a character. -/
theorem ne_backslash (hend : c = '\\' → cs = [] → False)
    (hmore : ∀ d ds, c = '\\' → cs = d :: ds → False) : c ≠ '\\' := by
  intro hc
  cases cs with
  | nil => exact hend hc rfl
  | cons d ds => exact hmore d ds hc rfl

/-- A quoted text ends at its closing quote. -/
theorem quotedText_append {quote : Char} {s : List Char} {n : ℕ}
    (h : quotedText quote (cs ++ rest) = some (s, n)) (hn : n ≤ cs.length) :
    quotedText quote (cs ++ w) = some (s, n) := by
  have hpos {cs s : List Char} {n : ℕ} (h : quotedText quote cs = some (s, n)) : 0 < n := by
    unfold quotedText at h
    split at h
    · cases h
    · cases h
    · obtain ⟨⟨s, n⟩, -, ⟨⟩⟩ := Option.map_eq_some_iff.1 h
      omega
    · split at h
      · cases h
        omega
      · obtain ⟨⟨s, n⟩, -, ⟨⟩⟩ := Option.map_eq_some_iff.1 h
        omega
  induction cs using quotedText.induct quote generalizing s n with
  | case1 => exact absurd hn (Nat.not_le.2 (hpos h))
  | case2 =>
    -- The character behind the backslash would belong to the text.
    cases rest with
    | nil => cases h
    | cons c rest =>
      obtain ⟨⟨s, n⟩, -, ⟨⟩⟩ := Option.map_eq_some_iff.1 h
      simp at hn
  | case3 c cs ih =>
    rw [List.cons_append, List.cons_append, quotedText] at h ⊢
    obtain ⟨⟨s, n⟩, hread, ⟨⟩⟩ := Option.map_eq_some_iff.1 h
    rw [ih hread (by simp at hn; omega)]
    rfl
  | case4 cs hend hmore =>
    rw [List.cons_append, quotedText_cons (ne_backslash hend hmore), if_pos rfl] at h ⊢
    exact h
  | case5 c cs hend hmore hne ih =>
    rw [List.cons_append, quotedText_cons (ne_backslash hend hmore), if_neg hne] at h ⊢
    obtain ⟨⟨s, n⟩, hread, ⟨⟩⟩ := Option.map_eq_some_iff.1 h
    rw [ih hread (by simp at hn; omega)]
    rfl

/-- A sign ends where no longer one goes on. -/
theorem sign?_append {s : Sign} {n : ℕ} (h : sign? c (cs ++ rest) = some (s, n))
    (hn : n ≤ cs.length) (hw : Apart w) : sign? c (cs ++ w) = some (s, n) := by
  have hstart (ds : List Char) {tail : List Char} (hds : cs ++ rest = ds ++ tail)
      (hlen : ds.length ≤ cs.length) : ∃ more, cs = ds ++ more := by
    obtain ⟨more, hmore⟩ := List.prefix_of_prefix_length_le (hds ▸ List.prefix_append ds tail)
      (List.prefix_append cs rest) hlen
    exact ⟨more, hmore.symm⟩
  -- What does not come next does not come next after a separation either.
  have hother {d : Char} {ds : List Char} (hd : separates d = false)
      (h : ∀ tail, ds ++ rest = d :: tail → False) (tail : List Char) :
      ds ++ w = d :: tail → False := by
    intro htail
    cases ds with
    | nil =>
      exact Bool.false_ne_true (hd.symm.trans (hw d (by rw [← List.nil_append w, htail]; rfl)))
    | cons e ds =>
      obtain ⟨rfl, -⟩ := List.cons.inj htail
      exact h _ rfl
  generalize htext : cs ++ rest = text at h hstart
  unfold sign? at h
  split at h <;> cases h <;> try rfl
  · obtain ⟨more, rfl⟩ := hstart ['=', '='] rfl hn
    rfl
  · next htail =>
    obtain ⟨more, rfl⟩ := hstart ['='] rfl hn
    obtain rfl := (List.cons.inj htext).2
    show sign? '=' ('=' :: (more ++ w)) = _
    rw [sign?]
    exact hother (by decide) htail
  · next htail =>
    subst htext
    have hnext := hother (by decide) htail
    rw [sign?]
    · exact fun tail h => hnext _ h
    · exact hnext
  · obtain ⟨more, rfl⟩ := hstart ['=', '='] rfl hn
    rfl
  · next htail =>
    obtain ⟨more, rfl⟩ := hstart ['='] rfl hn
    obtain rfl := (List.cons.inj htext).2
    show sign? '!' ('=' :: (more ++ w)) = _
    rw [sign?]
    exact hother (by decide) htail
  · next htail =>
    subst htext
    have hnext := hother (by decide) htail
    rw [sign?]
    · exact fun tail h => hnext _ h
    · exact hnext
  · obtain ⟨more, rfl⟩ := hstart ['='] rfl hn
    rfl
  · obtain ⟨more, rfl⟩ := hstart ['>'] rfl hn
    rfl
  · next hequal hgreater =>
    subst htext
    rw [sign?]
    · exact hother (by decide) hequal
    · exact hother (by decide) hgreater
  · obtain ⟨more, rfl⟩ := hstart ['='] rfl hn
    rfl
  · next htail =>
    subst htext
    rw [sign?]
    exact hother (by decide) htail
  · obtain ⟨more, rfl⟩ := hstart ['&'] rfl hn
    rfl
  · obtain ⟨more, rfl⟩ := hstart ['|'] rfl hn
    rfl

/-- A number that ends in `cs` ends there whatever follows apart. -/
theorem numberLexeme_append {t : Token} {n : ℕ} (h : numberLexeme c (cs ++ rest) = .ok (t, n))
    (hn : n ≤ cs.length) (hw : Apart w) : numberLexeme c (cs ++ w) = .ok (t, n) := by
  have hlength : n = (Numeral.take ⟨c == '.', false, false⟩ (cs ++ rest)).length := by
    unfold numberLexeme at h
    dsimp only at h
    split at h <;> cases h
    rfl
  have htake := Numeral.take_append (hlength ▸ hn) hw
  unfold numberLexeme at h ⊢
  rw [htake]
  exact h

/-- What stands apart does not start with a digit. -/
theorem startsWithDigit_of_apart (hw : Apart w) : startsWithDigit w = false := by
  cases w with
  | nil => rfl
  | cons d w => exact isAsciiDigit_of_separates (hw d rfl)

/-- Whether a number starts does not depend on what follows the token apart. -/
theorem startsNumber_append {t : Token} {n : ℕ} (h : lexeme c (cs ++ rest) = .ok (t, n))
    (hn : n ≤ cs.length) (hw : Apart w) :
    (c == '.' && startsWithDigit (cs ++ w)) = (c == '.' && startsWithDigit (cs ++ rest)) := by
  cases cs with
  | cons d cs => rfl
  | nil =>
    rw [List.nil_append, List.nil_append, startsWithDigit_of_apart hw, Bool.and_false, eq_comm,
      Bool.eq_false_iff]
    intro hpoint
    -- A point in front of a digit is not a token of one character.
    rw [List.nil_append, lexeme, hpoint, Bool.or_true, if_pos rfl] at h
    have hone := numberLexeme_append h hn apart_nil
    rw [Bool.and_eq_true, beq_iff_eq] at hpoint
    obtain ⟨rfl, -⟩ := hpoint
    have hbad : (numberLexeme '.' []).isOk = false := by decide +kernel
    rw [List.append_nil] at hone
    rw [hone] at hbad
    cases hbad

/-- A token that ends in `cs` ends there whatever follows apart. -/
theorem lexeme_append {t : Token} {n : ℕ} (h : lexeme c (cs ++ rest) = .ok (t, n))
    (hn : n ≤ cs.length) (hw : Apart w) : lexeme c (cs ++ w) = .ok (t, n) := by
  have hstarts := startsNumber_append h hn hw
  unfold lexeme at h ⊢
  rw [hstarts]
  split_ifs at h ⊢ with hnumber hquote hname
  · exact numberLexeme_append h hn hw
  · cases hread : quotedText c (cs ++ rest) with
    | none => rw [hread] at h; cases h
    | some sn =>
      rw [hread] at h
      cases h
      rw [quotedText_append hread hn]
  · have htake : ((cs ++ rest).takeWhile isNamePart).length ≤ cs.length := by
      cases h
      exact hn
    dsimp only at h ⊢
    rw [takeWhile_isNamePart_append htake hw]
    exact h
  · cases hread : sign? c (cs ++ rest) with
    | none => rw [hread] at h; cases h
    | some sn =>
      rw [hread] at h
      cases h
      rw [sign?_append hread hn hw]

/-- A number takes no more characters than there are. -/
theorem Numeral.length_take_le (n : Numeral) (cs : List Char) : (n.take cs).length ≤ cs.length := by
  induction cs generalizing n with
  | nil => exact Nat.le_refl _
  | cons c cs ih =>
    rw [take]
    split
    · exact Nat.succ_le_succ (ih _)
    · exact Nat.zero_le _

/-- A quoted text takes no more characters than there are. -/
theorem le_length_of_quotedText {quote : Char} {s : List Char} {n : ℕ}
    (h : quotedText quote cs = some (s, n)) : n ≤ cs.length := by
  induction cs using quotedText.induct quote generalizing s n with
  | case1 | case2 => cases h
  | case3 c cs ih =>
    obtain ⟨⟨s, n⟩, hread, ⟨⟩⟩ := Option.map_eq_some_iff.1 h
    exact Nat.succ_le_succ (Nat.succ_le_succ (ih hread))
  | case4 cs hend hmore =>
    rw [quotedText_cons (ne_backslash hend hmore), if_pos rfl] at h
    cases h
    exact Nat.succ_le_succ (Nat.zero_le _)
  | case5 c cs hend hmore hne ih =>
    rw [quotedText_cons (ne_backslash hend hmore), if_neg hne] at h
    obtain ⟨⟨s, n⟩, hread, ⟨⟩⟩ := Option.map_eq_some_iff.1 h
    exact Nat.succ_le_succ (ih hread)

/-- A token takes no more characters than there are. -/
theorem le_length_of_lexeme {t : Token} {n : ℕ} (h : lexeme c cs = .ok (t, n)) : n ≤ cs.length := by
  unfold lexeme at h
  split_ifs at h with hnumber hquote hname
  · unfold numberLexeme at h
    dsimp only at h
    split at h <;> cases h
    exact Numeral.length_take_le _ _
  · split at h
    · next hread =>
      cases h
      exact le_length_of_quotedText hread
    · cases h
  · cases h
    exact (List.takeWhile_prefix _).length_le
  · split at h
    · next hread =>
      cases h
      unfold sign? at hread
      split at hread <;> cases hread <;> simp
    · cases h

/-- A token goes on with nothing that follows it apart. -/
theorem lexeme_append_of_ok {t : Token} {n : ℕ} (h : lexeme c cs = .ok (t, n)) (hw : Apart w) :
    lexeme c (cs ++ w) = .ok (t, n) := by
  have hself : lexeme c (cs ++ []) = .ok (t, n) := by rwa [List.append_nil]
  exact lexeme_append hself (le_length_of_lexeme h) hw

end

/-! ## Positions -/

/-- A token that starts further on. -/
def Spanned.moved (d : ℕ) (s : Spanned) : Spanned := { s with position := s.position + d }

/-- A fault that lies further on; only mistakes in the text have a position. -/
def Fault.moved (d : ℕ) : Fault → Fault
  | .malformed flaw position => .malformed flaw (position + d)
  | fault => fault

namespace Token

variable {skip position : ℕ} {cs rest : List Char} {ts : List Spanned}

/-- Characters that start further on are cut into the same tokens further on, or have the same fault
there. -/
theorem scanFrom_add (skip position d : ℕ) (cs : List Char) :
    scanFrom skip (position + d) cs =
      match scanFrom skip position cs with
      | .ok ts => .ok (ts.map (Spanned.moved d))
      | .error fault => .error (fault.moved d) := by
  induction cs generalizing skip position with
  | nil => cases skip <;> rfl
  | cons c cs ih =>
    have hnext : position + d + c.utf8Size = position + c.utf8Size + d := Nat.add_right_comm ..
    cases skip with
    | succ skip => rw [scanFrom, scanFrom, hnext, ih]
    | zero =>
      rw [scanFrom, scanFrom, hnext]
      split
      · exact ih ..
      · split
        · rfl
        · next n _ =>
          rw [ih]
          cases scanFrom n (position + c.utf8Size) cs <;> rfl

/-- Tokens start inside the characters, each behind the one before it. -/
theorem scanFrom_increasing (hskip : skip ≤ cs.length) (h : scanFrom skip position cs = .ok ts) :
    (∀ s ∈ ts, position + byteLength (cs.take skip) ≤ s.position ∧
      s.position < position + byteLength cs) ∧
    ts.Pairwise fun s t => s.position < t.position := by
  induction cs generalizing skip position ts with
  | nil =>
    cases skip <;> cases h <;> simp
  | cons c cs ih =>
    have hsize := c.utf8Size_pos
    cases skip with
    | succ skip =>
      rw [scanFrom] at h
      obtain ⟨hbounds, hpairs⟩ := ih (Nat.le_of_succ_le_succ hskip) h
      refine ⟨fun s hs => ?_, hpairs⟩
      have := hbounds s hs
      rw [List.take_succ_cons, byteLength_cons, byteLength_cons]
      omega
    | zero =>
      rw [scanFrom] at h
      split at h
      · obtain ⟨hbounds, hpairs⟩ := ih (Nat.zero_le _) h
        refine ⟨fun s hs => ?_, hpairs⟩
        have := hbounds s hs
        simp at this ⊢
        omega
      · split at h
        · cases h
        · next t n hlexeme =>
          cases hmore : scanFrom n (position + c.utf8Size) cs with
          | error fault => rw [hmore] at h; cases h
          | ok us =>
            rw [hmore] at h
            cases h
            obtain ⟨hbounds, hpairs⟩ := ih (le_length_of_lexeme hlexeme) hmore
            refine ⟨fun s hs => ?_, List.pairwise_cons.2 ⟨fun s hs => ?_, hpairs⟩⟩
            · rcases List.mem_cons.1 hs with rfl | hs
              · simp
                omega
              · have := hbounds s hs
                simp
                omega
            · have := hbounds s hs
              dsimp only
              omega

/-- Blanks in front of characters are passed over. -/
theorem scanFrom_blanks {w : List Char} (hw : w.all isBlank = true) :
    scanFrom 0 position (w ++ cs) = scanFrom 0 (position + byteLength w) cs := by
  induction w generalizing position with
  | nil => rfl
  | cons c w ih =>
    rw [List.all_cons, Bool.and_eq_true] at hw
    rw [List.cons_append, scanFrom, if_pos hw.1, ih hw.2, byteLength_cons, Nat.add_assoc]

/-- Characters that are cut into tokens are cut into the same ones in front of what follows apart,
and then this is cut into tokens. -/
theorem scanFrom_append (hskip : skip ≤ cs.length) (h : scanFrom skip position cs = .ok ts)
    (hrest : Apart rest) :
    scanFrom skip position (cs ++ rest) =
      (scanFrom 0 (position + byteLength cs) rest).map (ts ++ ·) := by
  have hid (x : Except Fault (List Spanned)) : x.map (([] : List Spanned) ++ ·) = x := by
    cases x <;> rfl
  induction cs generalizing skip position ts with
  | nil =>
    obtain rfl := Nat.le_zero.1 hskip
    cases h
    exact (hid _).symm
  | cons c cs ih =>
    rw [byteLength_cons, ← Nat.add_assoc]
    cases skip with
    | succ skip => exact ih (Nat.le_of_succ_le_succ hskip) h
    | zero =>
      rw [scanFrom] at h
      rw [List.cons_append, scanFrom]
      split at h
      · next hblank =>
        rw [if_pos hblank]
        exact ih (Nat.zero_le _) h
      · next hblank =>
        rw [if_neg hblank]
        cases hlexeme : lexeme c cs with
        | error flaw => rw [hlexeme] at h; cases h
        | ok tn =>
          obtain ⟨t, n⟩ := tn
          have hn := le_length_of_lexeme hlexeme
          rw [lexeme_append_of_ok hlexeme hrest]
          rw [hlexeme] at h
          dsimp only at h ⊢
          cases hmore : scanFrom n (position + c.utf8Size) cs with
          | error fault => rw [hmore] at h; cases h
          | ok us =>
            rw [hmore] at h
            cases h
            rw [ih hn hmore]
            cases scanFrom 0 (position + c.utf8Size + byteLength cs) rest <;> rfl

/-- Characters are cut into tokens on both sides of the start of a token. -/
theorem scanFrom_split (hskip : skip ≤ cs.length) (h : scanFrom skip position (cs ++ rest) = .ok ts)
    {s : Spanned} (hs : s ∈ ts) (hstart : s.position = position + byteLength cs) :
    ∃ us vs, ts = us ++ vs ∧ scanFrom skip position cs = .ok us ∧
      scanFrom 0 (position + byteLength cs) rest = .ok vs := by
  induction cs generalizing skip position ts with
  | nil =>
    obtain rfl := Nat.le_zero.1 hskip
    exact ⟨[], ts, rfl, rfl, h⟩
  | cons c cs ih =>
    rw [byteLength_cons, ← Nat.add_assoc] at hstart ⊢
    cases skip with
    | succ skip => exact ih (Nat.le_of_succ_le_succ hskip) h hs hstart
    | zero =>
      rw [List.cons_append, scanFrom] at h
      rw [scanFrom]
      split at h
      · next hblank =>
        rw [if_pos hblank]
        exact ih (Nat.zero_le _) h hs hstart
      · next hblank =>
        rw [if_neg hblank]
        split at h
        · cases h
        · next t n hlexeme =>
          cases hmore : scanFrom n (position + c.utf8Size) (cs ++ rest) with
          | error fault => rw [hmore] at h; cases h
          | ok us =>
            rw [hmore] at h
            cases h
            obtain rfl | hs := List.mem_cons.1 hs
            · have := c.utf8Size_pos
              dsimp only at hstart
              omega
            -- The token of `c` ends before the other one starts.
            have hn : n ≤ cs.length := by
              by_contra hlt
              have hlength := le_length_of_lexeme hlexeme
              obtain ⟨hafter, -⟩ := (scanFrom_increasing hlength hmore).1 s hs
              have hpos := length_le_byteLength (rest.take (n - cs.length))
              rw [List.take_append, List.take_of_length_le (Nat.le_of_not_le hlt),
                byteLength_append] at hafter
              rw [List.length_append] at hlength
              rw [List.length_take] at hpos
              omega
            have hself := lexeme_append hlexeme hn apart_nil
            rw [List.append_nil] at hself
            obtain ⟨us, vs, rfl, hus, hvs⟩ := ih hn hmore hs hstart
            refine ⟨⟨t, position⟩ :: us, vs, rfl, ?_, hvs⟩
            rw [hself]
            dsimp only
            rw [hus]
            rfl

/-! ## Texts next to each other -/

variable {a b w : String}

/-- The tokens of two texts with white space between them, or the fault of the second one. -/
theorem scan_append (h : scan a position = .ok ts) (hw : w ≠ "") (hblank : isBlankText w = true)
    (b : String) :
    scan (a ++ w ++ b) position =
      (scan b (position + byteLength a.toList + byteLength w.toList)).map (ts ++ ·) := by
  have hapart : Apart (w.toList ++ b.toList) := by
    obtain ⟨c, cs, hcs⟩ := List.exists_cons_of_ne_nil fun h => hw (String.toList_eq_nil_iff.1 h)
    rw [isBlankText, hcs, List.all_cons, Bool.and_eq_true] at hblank
    rw [hcs]
    rintro _ ⟨⟩
    rw [separates, hblank.1, Bool.true_or]
  rw [scan, String.toList_append, String.toList_append, List.append_assoc,
    scanFrom_append (Nat.zero_le _) h hapart, scanFrom_blanks hblank]
  rfl

/-- Tokens do not depend on what stands beyond white space, nor on how much of it there is. With a
blank between two texts the tokens of the first are followed by those of the second, or its fault is
found, further on; tokens start one behind the other inside the text; and white space between two
texts, or put in front of a token, leaves the tokens as they are. -/
theorem scan_compositional (h : scan a position = .ok ts) (b : String) :
    (∀ us, scan b (position + byteLength a.toList + 1) = .ok us →
      scan (a ++ " " ++ b) position = .ok (ts ++ us)) ∧
    (∀ fault, scan b 0 = .error fault → scan (a ++ " " ++ b) position =
      .error (fault.moved (position + byteLength a.toList + 1))) ∧
    ts.Pairwise (fun s t => s.position < t.position) ∧
    (∀ s ∈ ts, position ≤ s.position ∧ s.position < position + byteLength a.toList) ∧
    (∀ w, w ≠ "" → isBlankText w = true → ∀ us, scan b 0 = .ok us → scan (a ++ w ++ b) position =
      .ok (ts ++ us.map (.moved (position + byteLength a.toList + byteLength w.toList)))) ∧
    ∀ w a₁ a₂, isBlankText w = true → a = a₁ ++ a₂ →
      (∃ s ∈ ts, s.position = position + byteLength a₁.toList) → ∃ us vs, ts = us ++ vs ∧
        scan (a₁ ++ w ++ a₂) position = .ok (us ++ vs.map (.moved (byteLength w.toList))) := by
  have hspace : " " ≠ "" ∧ isBlankText " " = true := by decide
  have hmoved (position : ℕ) : scan b position =
      match scan b 0 with
      | .ok ts => .ok (ts.map (Spanned.moved position))
      | .error fault => .error (fault.moved position) := by
    have hadd := scanFrom_add 0 0 position b.toList
    rwa [Nat.zero_add] at hadd
  obtain ⟨hbounds, hpairs⟩ := scanFrom_increasing (Nat.zero_le _) h
  refine ⟨fun us hus => ?_, fun fault hfault => ?_, hpairs, hbounds, fun w hw hblank us hus => ?_,
    ?_⟩
  · rw [scan_append h hspace.1 hspace.2]
    exact congrArg (Except.map (ts ++ ·)) hus
  · rw [scan_append h hspace.1 hspace.2, hmoved, hfault]
    rfl
  · rw [scan_append h hw hblank, hmoved, hus]
    rfl
  · rintro w a₁ a₂ hblank rfl ⟨s, hs, hstart⟩
    rw [scan, String.toList_append] at h
    obtain ⟨us, vs, rfl, hus, hvs⟩ := scanFrom_split (Nat.zero_le _) h hs hstart
    refine ⟨us, vs, rfl, ?_⟩
    have hmore : scan a₂ (position + byteLength a₁.toList + byteLength w.toList) =
        .ok (vs.map (.moved (byteLength w.toList))) := by
      rw [scan, scanFrom_add, hvs]
    by_cases hw : w = ""
    · subst hw
      have hstill : vs.map (.moved 0) = vs := List.map_id vs
      rw [scan, String.toList_append, String.toList_append]
      show scanFrom 0 position (a₁.toList ++ [] ++ a₂.toList) = .ok (us ++ vs.map (.moved 0))
      rw [List.append_nil, h, hstill]
    · rw [scan_append hus hw hblank, hmore]
      rfl

/-- The sign of a comparison at the end of a text does not join the one that starts the next
text. -/
theorem scan_compositional_signs :
    let ts : List Spanned := [⟨.name "été", 3⟩, ⟨.sign .less, 9⟩]
    let us : List Spanned := [⟨.sign .atLeast, 11⟩, ⟨.sign .dot, 13⟩]
    scan "été <" 3 = .ok ts ∧ scan ">=." 11 = .ok us ∧ scan "été < >=." 3 = .ok (ts ++ us) := by
  intro ts us
  have ha : scan "été <" 3 = .ok ts := rfl
  have hb : scan ">=." 11 = .ok us := rfl
  exact ⟨ha, hb, (scan_compositional ha ">=.").1 us hb⟩

end Token

end RowAudit.Formula
