import RowAudit.Number.Text
import RowAudit.Proofs.Number.Nearest
import RowAudit.Proofs.Number.Shortest
import RowAudit.Proofs.Text.Basic

/-!
# Numbers are read back from their texts

The positional form of a decimal is read with the value of the decimal (`unsigned?_pointed`). The
shortest decimal of a number is rounded to the number, so the text of a finite number is read as
this number, a negative zero included (`ofChars?_display`).
-/

namespace RowAudit.Number

open RowAudit.Text

/-! ## Digits -/

/-- The digits are those of the library. -/
theorem isAsciiDigit_eq_isDigit (c : Char) : isAsciiDigit c = c.isDigit := rfl

/-- The value of digits is that of the library. -/
theorem digitsValue_eq (start : ℕ) (ds : List Char) :
    digitsValue start ds = Nat.ofDigitChars 10 ds start := rfl

/-- A natural number is written with digits. -/
theorem all_digitChars (n : ℕ) : (digitChars n).all isAsciiDigit = true := by
  rw [List.all_eq_true]
  intro c hc
  rw [isAsciiDigit_eq_isDigit]
  exact Nat.isDigit_of_mem_toDigits (by decide) (by decide) hc

/-- The digits of a natural number have its value. -/
theorem digitsValue_digitChars (n : ℕ) : digitsValue 0 (digitChars n) = n :=
  Nat.ofDigitChars_ten_toDigits

section
variable {ds whole fraction rest : List Char}

/-- Digits are taken up to what is no digit. -/
theorem spanDigits_append (hds : ds.all isAsciiDigit = true)
    (hrest : ∀ c ∈ rest.head?, isAsciiDigit c = false) : spanDigits (ds ++ rest) = (ds, rest) := by
  have hall := List.all_eq_true.1 hds
  have htake : rest.takeWhile isAsciiDigit = [] ∧ rest.dropWhile isAsciiDigit = rest := by
    cases rest with
    | nil => exact ⟨rfl, rfl⟩
    | cons c rest => simp [hrest c rfl]
  rw [spanDigits, List.takeWhile_append_of_pos hall, List.dropWhile_append_of_pos hall, htake.1,
    htake.2, List.append_nil]

/-- Digits alone are all taken. -/
theorem spanDigits_self (hds : ds.all isAsciiDigit = true) : spanDigits ds = (ds, []) := by
  have hall := List.all_eq_true.1 hds
  rw [spanDigits, List.takeWhile_eq_self_iff.2 hall, List.dropWhile_eq_nil_iff.2 hall]

/-- Digits with a point in front of those of a fraction, if there are any. -/
def pointed (whole fraction : List Char) : List Char :=
  whole ++ if fraction.isEmpty then [] else '.' :: fraction

/-- Digits, with a point among them or none, are read as a decimal. -/
theorem unsigned?_pointed (hwhole : whole.all isAsciiDigit = true) (hne : whole ≠ [])
    (hfraction : fraction.all isAsciiDigit = true) :
    unsigned? (pointed whole fraction) =
      some (ofScientific (digitsValue 0 (whole ++ fraction)) (-fraction.length)) := by
  have hempty : whole.isEmpty = false := List.isEmpty_eq_false_iff.2 hne
  cases fraction with
  | nil =>
    rw [pointed, List.isEmpty_nil, if_pos rfl, List.append_nil, unsigned?, spanDigits_self hwhole]
    dsimp only
    rw [hempty, Bool.false_and, if_neg Bool.false_ne_true]
    rfl
  | cons d fraction =>
    have hspan : spanDigits (whole ++ '.' :: d :: fraction) = (whole, '.' :: d :: fraction) := by
      refine spanDigits_append hwhole ?_
      rintro c ⟨⟩
      rfl
    rw [pointed, List.isEmpty_cons, if_neg Bool.false_ne_true, unsigned?, hspan]
    show (if (whole.isEmpty && (spanDigits (d :: fraction)).1.isEmpty) = true then none
      else (exponent? (spanDigits (d :: fraction)).2).map fun power =>
        ofScientific (digitsValue (digitsValue 0 whole) (spanDigits (d :: fraction)).1)
          (power - (spanDigits (d :: fraction)).1.length)) = _
    rw [spanDigits_self hfraction, hempty, Bool.false_and, if_neg Bool.false_ne_true,
      digitsValue_eq, digitsValue_eq, digitsValue_eq, Nat.ofDigitChars_append]
    show some (ofScientific _ (0 - _)) = _
    rw [zero_sub]

/-- The positional form of a decimal is made of digits, with a point among them or none, that give
its value. -/
theorem exists_chars_eq (d : Decimal) : ∃ whole fraction, whole ≠ [] ∧
    whole.all isAsciiDigit = true ∧ fraction.all isAsciiDigit = true ∧
    d.chars Style.plain = pointed whole fraction ∧
    (digitsValue 0 (whole ++ fraction) * 10 ^ (-fraction.length : ℤ) : ℚ) = d.value := by
  have hdigits := all_digitChars d.digits
  have hne : digitChars d.digits ≠ [] := Nat.toDigits_ne_nil
  have hvalue := digitsValue_digitChars d.digits
  have hzeros (n : ℕ) : (List.replicate n '0').all isAsciiDigit = true := by
    rw [List.all_replicate]
    simp [isAsciiDigit]
  have hchars : d.chars Style.plain = positionalChars false (digitChars d.digits) d.exponent := rfl
  rw [hchars, Decimal.value]
  generalize digitChars d.digits = ds at hdigits hne hvalue
  rw [positionalChars]
  split
  · next hexponent =>
    refine ⟨ds ++ List.replicate d.exponent.toNat '0', [], ?_, ?_, rfl, rfl, ?_⟩
    · exact List.append_ne_nil_of_left_ne_nil hne _
    · rw [List.all_append, hzeros, hdigits, Bool.and_self]
    · rw [List.append_nil, digitsValue_eq, Nat.ofDigitChars_append, Nat.ofDigitChars_replicate_zero,
        ← digitsValue_eq, hvalue, List.length_nil, Nat.cast_zero, neg_zero, zpow_zero, mul_one,
        Nat.cast_mul, mul_comm]
      exact congrArg _ (cast_pow_toNat 10 hexponent)
  · dsimp only
    split
    · next hexponent hplaces =>
      have hparts := List.take_append_drop (ds.length - (-d.exponent).toNat) ds
      have hlength : (ds.drop (ds.length - (-d.exponent).toNat)).length = (-d.exponent).toNat := by
        rw [List.length_drop]
        omega
      have hdrop : ds.drop (ds.length - (-d.exponent).toNat) ≠ [] := by
        rw [Ne, ← List.length_eq_zero_iff, hlength]
        omega
      rw [← hparts, List.all_append, Bool.and_eq_true] at hdigits
      refine ⟨_, _, ?_, hdigits.1, hdigits.2, ?_, ?_⟩
      · rw [Ne, List.take_eq_nil_iff]
        rintro (hlength | hnil)
        · omega
        · exact hne hnil
      · rw [pointed, List.isEmpty_eq_false_iff.2 hdrop, if_neg Bool.false_ne_true]
      · rw [hparts, hvalue, hlength]
        congr 2
        omega
    · next hexponent hplaces =>
      refine ⟨['0'], List.replicate ((-d.exponent).toNat - ds.length) '0' ++ ds, ?_, rfl, ?_, ?_,
        ?_⟩
      · exact List.cons_ne_nil _ _
      · rw [List.all_append, hzeros, hdigits, Bool.and_self]
      · rw [pointed, List.isEmpty_eq_false_iff.2 (List.append_ne_nil_of_right_ne_nil _ hne),
          if_neg Bool.false_ne_true]
        rfl
      · have hzero : Nat.ofDigitChars 10 ['0'] 0 = 0 := rfl
        rw [digitsValue_eq, Nat.ofDigitChars_append, Nat.ofDigitChars_append, hzero,
          Nat.ofDigitChars_replicate_zero, mul_zero, ← digitsValue_eq, hvalue, List.length_append,
          List.length_replicate]
        congr 2
        omega

end

/-! ## Numbers -/

/-- The names of special values start with one of two letters. -/
theorem special?_eq_none {c : Char} {rest : List Char} (hi : c.toLower ≠ 'i')
    (hn : c.toLower ≠ 'n') : special? (c :: rest) = none := by
  have hname (d : Char) (ds : List Char) (hd : c.toLower ≠ d) :
      String.ofList ((c :: rest).map Char.toLower) ≠ String.ofList (d :: ds) := by
    intro h
    exact hd (List.head_eq_of_cons_eq (String.ofList_injective h))
  rw [special?, if_neg, if_neg]
  · exact hname 'n' _ hn
  · rintro (h | h)
    · exact hname 'i' _ hi h
    · exact hname 'i' _ hi h

/-- What starts with a digit has the value of its digits. -/
theorem magnitude?_cons {c : Char} {rest : List Char} (hc : isAsciiDigit c = true) :
    magnitude? (c :: rest) = unsigned? (c :: rest) := by
  have hlower : c.toLower ≠ 'i' ∧ c.toLower ≠ 'n' := by
    obtain ⟨n, hn, rfl⟩ := exists_ofNat_of_isAsciiDigit hc
    have hall : ∀ n ∈ List.range' 48 10,
        (Char.ofNat n).toLower ≠ 'i' ∧ (Char.ofNat n).toLower ≠ 'n' := by decide
    exact hall n hn
  rw [magnitude?, special?_eq_none hlower.1 hlower.2, Option.none_or]

/-- A sign in front of a digit is taken for the sign of the number. -/
theorem ofChars?_cons {c : Char} {rest : List Char} (hc : isAsciiDigit c = true) :
    ofChars? (c :: rest) = magnitude? (c :: rest) := by
  unfold ofChars?
  split
  · next h => cases h; cases hc
  · next h => cases h; cases hc
  · rfl

/-- The text of a decimal is read as the double that it is rounded to. -/
theorem ofChars?_chars {m : ℕ} {e : ℤ} (hc : Canonical m e) {d : Decimal}
    (hd : RoundsTo m e d.value) : ofChars? (d.chars Style.plain) = some (ofCanonical hc) := by
  obtain ⟨whole, fraction, hne, hwhole, hfraction, hchars, hvalue⟩ := exists_chars_eq d
  obtain ⟨c, cs, rfl⟩ := List.exists_cons_of_ne_nil hne
  have hdigit : isAsciiDigit c = true := (Bool.and_eq_true_iff.1 hwhole).1
  rw [hchars]
  refine (ofChars?_cons hdigit).trans ((magnitude?_cons hdigit).trans ?_)
  refine (unsigned?_pointed hwhole hne hfraction).trans ?_
  rw [ofScientific_eq hc]
  rw [hvalue]
  exact hd

/-- The digit zero is read as the positive zero. -/
theorem ofChars?_zero :
    ofChars? (Decimal.chars .plain ⟨0, 0⟩) = some (.ofModel (.pack (.zero .positive))) := by
  decide +kernel

/-- A finite number is written as a decimal, with a sign in front if it is negative. -/
theorem toList_display {x : Float} (hx : isFinite x = true) : (display x).toList =
    (if isNegative x then ['-'] else []) ++
      Decimal.chars .plain (if isZero x then ⟨0, 0⟩ else shortest .upward x) := by
  have hnan : isNaN x = false := by
    have := exponentBits_lt hx
    simp [isNaN, this.ne]
  rw [display, render, hnan, hx, if_neg Bool.false_ne_true, String.toList_ofList]
  cases isZero x with
  | true => rfl
  | false => rfl

section
variable {x y : Float}

/-- What is written behind the sign is read as the magnitude of the number. -/
theorem exists_magnitude (hx : isFinite x = true) : ∃ y, isFinite y = true ∧
    ofChars? (Decimal.chars .plain (if isZero x then ⟨0, 0⟩ else shortest .upward x)) = some y ∧
    x = if isNegative x then -y else y := by
  cases hz : isZero x with
  | true =>
    refine ⟨_, by decide +kernel, ofChars?_zero, (eq_pack_zero hz).trans ?_⟩
    rw [signOf]
    cases isNegative x with
    | false => rfl
    | true => decide +kernel
  | false =>
    have hc := canonical_exact hx hz
    have hread := ofChars?_chars hc (shortest_roundsTo hx hz .upward)
    refine ⟨_, isFinite_pack hc .positive, hread, (eq_pack_exact hx hz).trans ?_⟩
    rw [signOf]
    cases isNegative x with
    | false => rfl
    | true => exact (neg_pack hc .positive).symm

/-- Digits, with a point among them or none, that are read as a finite number. -/
structure Spells (cs : List Char) (x : Float) : Prop where
  finite : isFinite x = true
  read : ofChars? cs = some x
  digits : ∃ whole fraction, whole ≠ [] ∧ whole.all isAsciiDigit = true ∧
    fraction.all isAsciiDigit = true ∧ cs = pointed whole fraction

/-- The text of a finite number spells the number, or its negative behind a sign. -/
theorem exists_spells (hx : isFinite x = true) : ∃ cs y, Spells cs y ∧
    ((display x).toList = cs ∧ y = x ∨ (display x).toList = '-' :: cs ∧ -y = x) := by
  obtain ⟨whole, fraction, hne, hwhole, hfraction, hchars, -⟩ :=
    exists_chars_eq (if isZero x then ⟨0, 0⟩ else shortest .upward x)
  obtain ⟨y, hy, hread, hxy⟩ := exists_magnitude hx
  refine ⟨_, y, ⟨hy, hread, whole, fraction, hne, hwhole, hfraction, hchars⟩, ?_⟩
  rw [toList_display hx]
  cases hnegative : isNegative x with
  | false =>
    rw [hnegative] at hxy
    exact .inl ⟨rfl, hxy.symm⟩
  | true =>
    rw [hnegative] at hxy
    exact .inr ⟨rfl, hxy.symm⟩

/-- What is spelled starts with a digit. -/
theorem Spells.exists_cons {cs : List Char} (h : Spells cs x) :
    ∃ c rest, cs = c :: rest ∧ isAsciiDigit c = true := by
  obtain ⟨whole, fraction, hne, hwhole, -, rfl⟩ := h.digits
  obtain ⟨c, rest, rfl⟩ := List.exists_cons_of_ne_nil hne
  exact ⟨c, _, rfl, (Bool.and_eq_true_iff.1 hwhole).1⟩

/-- The text of a finite number is read as this number. -/
theorem ofChars?_display (hx : isFinite x = true) : ofChars? (display x).toList = some x := by
  obtain ⟨cs, y, hspells, ⟨hdisplay, rfl⟩ | ⟨hdisplay, rfl⟩⟩ := exists_spells hx
  · rw [hdisplay, hspells.read]
  · obtain ⟨c, rest, rfl, hc⟩ := hspells.exists_cons
    have hread : magnitude? (c :: rest) = some y := (ofChars?_cons hc).symm.trans hspells.read
    rw [hdisplay, ofChars?, hread, Option.map_some]

/-! ## Texts of numbers -/

/-- What is spelled are digits and points. -/
theorem Spells.digit_or_point {cs : List Char} {c : Char} (h : Spells cs x) (hc : c ∈ cs) :
    isAsciiDigit c = true ∨ c = '.' := by
  obtain ⟨whole, fraction, -, hwhole, hfraction, rfl⟩ := h.digits
  obtain hc | hc := List.mem_append.1 hc
  · exact .inl (List.all_eq_true.1 hwhole c hc)
  · split at hc
    · cases hc
    · obtain rfl | hc := List.mem_cons.1 hc
      · exact .inr rfl
      · exact .inl (List.all_eq_true.1 hfraction c hc)

/-- No character of a number is white space. -/
theorem Spells.isBlank {cs : List Char} {c : Char} (h : Spells cs x) (hc : c ∈ cs) :
    Text.isBlank c = false := by
  obtain hdigit | rfl := h.digit_or_point hc
  · exact isBlank_of_isAsciiDigit hdigit
  · rfl

/-- No character of a displayed number is white space. -/
theorem isBlank_of_mem_display (hx : isFinite x = true) {c : Char} (hc : c ∈ (display x).toList) :
    isBlank c = false := by
  obtain ⟨cs, y, hspells, ⟨hdisplay, -⟩ | ⟨hdisplay, -⟩⟩ := exists_spells hx
  all_goals rw [hdisplay] at hc
  · exact hspells.isBlank hc
  · obtain rfl | hc := List.mem_cons.1 hc
    · rfl
    · exact hspells.isBlank hc

/-- A displayed number is read as the number. -/
theorem ofText?_display (hx : isFinite x = true) : ofText? (display x) = some x := by
  have htrim : trimChars (display x).toList = (display x).toList := by
    refine trimChars_eq_self ?_ ?_
    · intro c hc
      exact isBlank_of_mem_display hx (List.mem_of_mem_head? hc)
    · intro c hc
      exact isBlank_of_mem_display hx (List.mem_of_mem_getLast? hc)
  rw [ofText?, htrim, ofChars?_display hx, Option.filter_some, hx, if_pos rfl]

/-- A zero is written without its sign. -/
theorem text_of_isZero (hx : isZero x = true) : text x = "0" := by rw [text, hx, if_pos rfl]

/-- The text of zero spells the positive zero. -/
theorem spells_zero : Spells ['0'] (.ofModel (.pack (.zero .positive))) where
  finite := by decide +kernel
  read := by decide +kernel
  digits := ⟨['0'], [], List.cons_ne_nil _ _, rfl, rfl, rfl⟩

/-- Either zero is read back as the positive one, every other finite number as itself. -/
theorem ofText?_text (hx : isFinite x = true) :
    ∃ y, ofText? (text x) = some y ∧ (y = x ∨ isZero y = true ∧ isZero x = true) := by
  cases hz : isZero x with
  | true =>
    have hread : ofText? "0" = some (.ofModel (.pack (.zero .positive))) := by decide +kernel
    have hzero : isZero (.ofModel (.pack (.zero .positive))) = true := by decide +kernel
    rw [text_of_isZero hz]
    exact ⟨_, hread, .inr ⟨hzero, rfl⟩⟩
  | false =>
    rw [text, hz, if_neg Bool.false_ne_true]
    exact ⟨x, ofText?_display hx, .inl rfl⟩

/-- The text of a finite number in messages and keys spells the number, either zero without a
sign. -/
theorem exists_spells_text (hx : isFinite x = true) : ∃ cs y, Spells cs y ∧
    ((text x).toList = cs ∧ (y = x ∨ isZero y = true ∧ isZero x = true) ∨
      (text x).toList = '-' :: cs ∧ -y = x) := by
  cases hz : isZero x with
  | true =>
    have hzero : isZero (.ofModel (.pack (.zero .positive))) = true := by decide +kernel
    rw [text_of_isZero hz]
    exact ⟨_, _, spells_zero, .inl ⟨rfl, .inr ⟨hzero, rfl⟩⟩⟩
  | false =>
    obtain ⟨cs, y, hspells, hdisplay⟩ := exists_spells hx
    rw [text, hz, if_neg Bool.false_ne_true]
    exact ⟨cs, y, hspells, hdisplay.imp_left fun h => ⟨h.1, .inl h.2⟩⟩

/-- Finite numbers have one text if and only if they are equal in the order of numbers. -/
theorem text_eq_text_iff (hx : isFinite x = true) (hy : isFinite y = true) :
    text x = text y ↔ order x y = some .eq := by
  rw [order_eq_some_eq_iff hx hy]
  constructor
  · intro h
    obtain ⟨v, hv, hvx⟩ := ofText?_text hx
    obtain ⟨w, hw, hwy⟩ := ofText?_text hy
    rw [h, hw, Option.some_inj] at hv
    subst hv
    obtain rfl | ⟨hzero, hzx⟩ := hvx
    · obtain rfl | ⟨hzx, hzy⟩ := hwy
      · exact .inl rfl
      · exact .inr ⟨hzx, hzy⟩
    · obtain rfl | ⟨-, hzy⟩ := hwy
      · exact .inr ⟨hzx, hzero⟩
      · exact .inr ⟨hzx, hzy⟩
  · rintro (rfl | ⟨hzx, hzy⟩)
    · rfl
    · rw [text_of_isZero hzx, text_of_isZero hzy]

/-- Numbers that are not finite are written as words, which spell no finite number. -/
theorem ofText?_text_of_not_isFinite (hx : isFinite x = false) : ofText? (text x) = none := by
  have hwords : ofText? "NaN" = none ∧ ofText? (String.ofList (['-'] ++ ['i', 'n', 'f'])) = none ∧
      ofText? (String.ofList ([] ++ ['i', 'n', 'f'])) = none := by decide +kernel
  have hexponent : exponentBits x = 2047 := by
    rw [isFinite, bne_eq_false_iff_eq] at hx
    exact hx
  have hz : isZero x = false := by
    rw [isZero, hexponent]
    rfl
  rw [text, hz, if_neg Bool.false_ne_true, display, render, hx]
  split
  · exact hwords.1
  · cases isNegative x with
    | true => exact hwords.2.1
    | false => exact hwords.2.2

/-- No number has the empty text. -/
theorem text_ne_empty (x : Float) : text x ≠ "" := by
  intro hempty
  cases hx : isFinite x with
  | true =>
    obtain ⟨y, hread, -⟩ := ofText?_text hx
    have hnone : ofText? "" = none := by decide +kernel
    rw [hempty, hnone] at hread
    cases hread
  | false =>
    have hz : isZero x = false := by
      cases hz : isZero x with
      | false => rfl
      | true => exact absurd (isFinite_of_isZero hz) (by rw [hx]; exact Bool.false_ne_true)
    rw [text, hz, if_neg Bool.false_ne_true, display, render, hx] at hempty
    split at hempty
    · exact absurd hempty (by decide)
    · have hchars := congrArg String.toList hempty
      simp at hchars

end

end RowAudit.Number
