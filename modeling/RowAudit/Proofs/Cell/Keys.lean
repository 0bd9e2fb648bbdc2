import RowAudit.Cell.Comparison
import RowAudit.Proofs.Moment.ReadingBack

/-!
# Join keys and equality

The join key of a present cell depends on its text alone: it is the text of the number that the text
spells, or else the text itself (`key?_eq`). The two readings that equality prefers to texts, as
truth values and as numbers, are therefore respected by keys, and cells with one key are equal. Only
moments may be equal without having one key, since their keys show the time of day.
-/

namespace RowAudit

open RowAudit.Text

/-! ## Texts of cells -/

namespace Number

/-- A text that starts with a bracket spells no number. -/
theorem ofText?_eq_none {s : String}
    (hs : s.toList.head? = some '[' ∨ s.toList.head? = some '\x7b') :
    ofText? s = none := by
  obtain ⟨c, cs, hchars, hbracket⟩ : ∃ c cs, s.toList = c :: cs ∧ (isBlank c = false ∧
      c.toLower ≠ 'i' ∧ c.toLower ≠ 'n' ∧ c ≠ '-' ∧ c ≠ '+' ∧ isAsciiDigit c = false ∧
        c ≠ '.') := by
    obtain h | h := hs
    all_goals
      obtain ⟨cs, hcs⟩ := List.head?_eq_some_iff.1 h
      exact ⟨_, cs, hcs, by decide⟩
  obtain ⟨hblank, hi, hn, hminus, hplus, hdigit, hpoint⟩ := hbracket
  obtain ⟨rest, htrim⟩ := exists_trimChars_cons hblank cs
  have hunsigned : unsigned? (c :: rest) = none := by
    have hspan : spanDigits (c :: rest) = ([], c :: rest) := by
      rw [spanDigits, List.takeWhile_cons, List.dropWhile_cons, hdigit, if_neg Bool.false_ne_true,
        if_neg Bool.false_ne_true]
    rw [unsigned?, hspan]
    dsimp only
    split
    · next h => exact absurd (List.head_eq_of_cons_eq h) hpoint
    · rfl
  rw [ofText?, hchars, htrim, ofChars?.eq_def]
  split
  · next h => exact absurd (List.head_eq_of_cons_eq h) hminus
  · next h => exact absurd (List.head_eq_of_cons_eq h) hplus
  · rw [magnitude?, special?_eq_none hi hn, hunsigned]
    rfl

end Number

namespace Cell

variable {a b c : Cell}

/-- A cell is read as finite numbers only. -/
theorem isFinite_of_number? {x : Float} (h : c.number? = some x) : Number.isFinite x = true := by
  cases c with
  | number y =>
    rw [number?] at h
    split at h
    · next hy => exact Option.some_inj.1 h ▸ hy
    · cases h
  | text s => exact (Option.filter_eq_some_iff.1 h).2
  | null | bool _ | moment _ | list _ | record _ => cases h

/-- The number that a cell is read as is the one that its text spells, the sign of zero aside. -/
theorem number?_display (c : Cell) :
    (Number.ofText? c.display).map Number.text = c.number?.map Number.text := by
  cases c with
  | null => decide +kernel
  | bool b =>
    have hwords : Number.ofText? "true" = none ∧ Number.ofText? "false" = none := by decide +kernel
    cases b with
    | true => exact congrArg _ hwords.1
    | false => exact congrArg _ hwords.2
  | number x =>
    show (Number.ofText? (Number.text x)).map _ = (if _ then some x else none).map _
    cases hx : Number.isFinite x with
    | true =>
      obtain ⟨y, hread, hy⟩ := Number.ofText?_text hx
      rw [hread, if_pos rfl]
      obtain rfl | ⟨hy, hx⟩ := hy
      · rfl
      · rw [Option.map_some, Number.text_of_isZero hy, Option.map_some, Number.text_of_isZero hx]
    | false =>
      rw [Number.ofText?_text_of_not_isFinite hx]
      rfl
  | text s => rfl
  | moment m => exact congrArg _ m.number_ofText?_text
  | list items =>
    refine congrArg _ (Number.ofText?_eq_none (.inl ?_))
    rw [display, Json.compact, String.toList_append, String.toList_append]
    rfl
  | record fields =>
    refine congrArg _ (Number.ofText?_eq_none (.inr ?_))
    rw [display, Json.compact, String.toList_append, String.toList_append]
    rfl

/-! ## Keys -/

/-- The key of a present cell is the text of its number, or its text if it has none. -/
theorem key?_of_present (hc : c.isAbsent = false) :
    c.key? = some ((c.number?.map Number.text).getD c.display) := by
  rw [key?, hc, if_neg Bool.false_ne_true]
  cases c.number? with
  | none => rfl
  | some x => rfl

/-- The key of a present cell depends on its text alone. -/
theorem key?_eq (hc : c.isAbsent = false) :
    c.key? = some (((Number.ofText? c.display).map Number.text).getD c.display) := by
  rw [key?_of_present hc, number?_display]

/-- A present cell has a text. -/
theorem display_ne_empty (hc : c.isAbsent = false) : c.display ≠ "" := by
  cases c with
  | null => cases hc
  | bool b => cases b <;> decide
  | number x => exact Number.text_ne_empty x
  | text s => exact beq_eq_false_iff_ne.1 hc
  | moment m =>
    intro hempty
    obtain ⟨time, htime, -⟩ := m.chars_eq_append
    obtain ⟨d, rest, hyear, -⟩ := exists_yearChars_eq m.date.year
    have hchars : m.chars = [] := by
      rw [← String.toList_ofList (l := m.chars)]
      exact congrArg String.toList hempty
    rw [htime, Date.chars, hyear] at hchars
    cases hchars
  | list items =>
    intro hempty
    have hchars := congrArg String.toList hempty
    simp [display, Json.compact] at hchars
  | record fields =>
    intro hempty
    have hchars := congrArg String.toList hempty
    simp [display, Json.compact] at hchars

/-- No cell has the empty key. -/
theorem key?_ne_empty (c : Cell) : c.key? ≠ some "" := by
  intro hempty
  cases hc : c.isAbsent with
  | true =>
    rw [key?, hc, if_pos rfl] at hempty
    cases hempty
  | false =>
    rw [key?_of_present hc, Option.some_inj] at hempty
    cases hx : c.number? with
    | none =>
      rw [hx] at hempty
      exact display_ne_empty hc hempty
    | some x =>
      rw [hx] at hempty
      exact Number.text_ne_empty x hempty

section
variable (ha : a.isAbsent = false) (hb : b.isAbsent = false)
include ha hb

/-- The key of a number is the key of no cell that has none. -/
theorem number?_eq_none_of_key?_eq (h : a.key? = b.key?) (hnumber : a.number? = none) :
    b.number? = none := by
  rw [key?_of_present ha, key?_of_present hb, hnumber, Option.some_inj] at h
  rw [← Option.not_isSome_iff_eq_none]
  intro hsome
  obtain ⟨y, hy⟩ := Option.isSome_iff_exists.1 hsome
  obtain ⟨z, hz, -⟩ := Number.ofText?_text (isFinite_of_number? hy)
  have hread := a.number?_display
  rw [hnumber] at hread
  rw [hy] at h
  change a.display = Number.text y at h
  rw [h, hz] at hread
  cases hread

/-- Cells that are no numbers have one key if they have one text, and only then. -/
theorem display_eq_of_key?_eq (h : a.key? = b.key?)
    (hnumber : a.number? = none ∨ b.number? = none) : a.display = b.display := by
  have hnone : a.number? = none ∧ b.number? = none := by
    obtain hnone | hnone := hnumber
    · exact ⟨hnone, number?_eq_none_of_key?_eq ha hb h hnone⟩
    · exact ⟨number?_eq_none_of_key?_eq hb ha h.symm hnone, hnone⟩
  rw [key?_of_present ha, key?_of_present hb, hnone.1, hnone.2] at h
  exact Option.some_inj.1 h

end

/-- Moments in cells of one text are of one day. -/
theorem date_eq_of_display_eq {m n : Moment} (h : a.display = b.display) (hm : a.moment? = some m)
    (hn : b.moment? = some n) : m.date = n.date := by
  cases a with
  | moment m' =>
    cases hm
    cases b with
    | moment n' =>
      cases hn
      exact Moment.date_eq_of_text_eq h
    | text t =>
      change m.text = t at h
      subst h
      exact (Moment.date_eq_of_ofText?_text hn).symm
    | null | bool _ | number _ | list _ | record _ => cases hn
  | text s =>
    cases b with
    | moment n' =>
      cases hn
      change s = n.text at h
      subst h
      exact Moment.date_eq_of_ofText?_text hm
    | text t =>
      change s = t at h
      subst h
      exact congrArg Moment.date (Option.some_inj.1 (hm.symm.trans hn))
    | null | bool _ | number _ | list _ | record _ => cases hn
  | null | bool _ | number _ | list _ | record _ => cases hm

end Cell

/-! ## Equality -/

section
variable {a b : Cell} {p : Precision}

/-- Of two things that are not there together, one is not there. -/
theorem none_or_none {α β : Type} {x : Option α} {y : Option β}
    (h : ∀ a b, x = some a → y = some b → False) : x = none ∨ y = none := by
  cases x with
  | none => exact .inl rfl
  | some a =>
    cases y with
    | none => exact .inr rfl
    | some b => exact (h a b rfl rfl).elim

/-- The four ways in which two present cells are compared. -/
theorem coerce_cases (ha : a.isAbsent = false) (hb : b.isAbsent = false) :
    (∃ x y, a = .bool x ∧ b = .bool y ∧ coerce p a b = some (.bools x y)) ∨
    (∃ x y, a.number? = some x ∧ b.number? = some y ∧ coerce p a b = some (.numbers x y)) ∨
    ((a.number? = none ∨ b.number? = none) ∧ ∃ m n, a.moment? = some m ∧ b.moment? = some n ∧
      coerce p a b = some (.moments (p.truncate m) (p.truncate n))) ∨
    ((a.number? = none ∨ b.number? = none) ∧ (a.moment? = none ∨ b.moment? = none) ∧
      coerce p a b = some (.texts a.display b.display)) := by
  by_cases hbools : ∃ x y, a = .bool x ∧ b = .bool y
  · obtain ⟨x, y, rfl, rfl⟩ := hbools
    exact .inl ⟨x, y, rfl, rfl, rfl⟩
  · rw [coerce, ha, hb, Bool.or_self, if_neg Bool.false_ne_true]
    · split
      · next _ _ x y hx hy => exact .inr (.inl ⟨x, y, hx, hy, rfl⟩)
      · next _ _ hnumbers =>
        have hnumber := none_or_none hnumbers
        split
        · next _ _ m n hm hn => exact .inr (.inr (.inl ⟨hnumber, m, n, hm, hn, rfl⟩))
        · next _ _ hmoments => exact .inr (.inr (.inr ⟨hnumber, none_or_none hmoments, rfl⟩))
    · rintro x y rfl rfl
      exact hbools ⟨x, y, rfl, rfl⟩

/-- Cells are equal if they have the order of equals. -/
theorem Comparison.holdsAt_equal_iff :
    Comparison.equal.holdsAt p a b = true ↔ (coerce p a b).bind Coerced.order = some .eq := by
  rw [holdsAt]
  cases (coerce p a b).bind Coerced.order with
  | none => exact ⟨nofun, nofun⟩
  | some o => exact (beq_iff_eq (a := o)).trans Option.some_inj.symm

/-- A moment is equal to itself. -/
theorem Moment.order_self (m : Moment) : m.order m = .eq := by
  simp [Moment.order, Date.order]

/-- Equality of present cells and of their join keys. Cells with one key are equal, and equal cells
have one key unless both are moments. -/
theorem Cell.key?_agrees (ha : a.isAbsent = false) (hb : b.isAbsent = false) :
    (a.key? = b.key? → Comparison.equal.holds a b = true) ∧
      (a.moment? = none ∨ b.moment? = none → Comparison.equal.holds a b = true →
        a.key? = b.key?) := by
  have hequal : Comparison.equal.holds a b = true ↔ _ := Comparison.holdsAt_equal_iff
  rw [hequal]
  obtain ⟨x, y, rfl, rfl, hcoerce⟩ | ⟨x, y, hx, hy, hcoerce⟩ |
    ⟨hnumber, m, n, hm, hn, hcoerce⟩ | ⟨hnumber, hmoment, hcoerce⟩ := coerce_cases (p := .day) ha hb
  all_goals rw [hcoerce, Option.bind_some, Coerced.order]
  · cases x <;> cases y <;> decide +kernel
  · rw [Cell.key?_of_present ha, Cell.key?_of_present hb, hx, hy, Option.some_inj]
    have htexts :=
      Number.text_eq_text_iff (Cell.isFinite_of_number? hx) (Cell.isFinite_of_number? hy)
    exact ⟨htexts.1, fun _ => htexts.2⟩
  · refine ⟨fun h => ?_, ?_⟩
    · have hdate := Cell.date_eq_of_display_eq (Cell.display_eq_of_key?_eq ha hb h hnumber) hm hn
      rw [Precision.truncate, Precision.truncate, hdate, Moment.order_self]
    · rw [hm, hn]
      rintro (h | h)
      · cases h
      · cases h
  · rw [Option.some_inj, Std.compare_eq_iff_eq]
    refine ⟨fun h => Cell.display_eq_of_key?_eq ha hb h hnumber, fun _ h => ?_⟩
    rw [Cell.key?_eq ha, Cell.key?_eq hb, h]

/-- A number and a text that spells it otherwise. -/
theorem Cell.key?_agrees_spelling :
    ((Cell.text " 1.50").isAbsent = false ∧ (Cell.number 1.5).isAbsent = false ∧
      (Cell.number 1.5).moment? = none) ∧
    (Cell.text " 1.50").key? = (Cell.number 1.5).key? ∧
    Comparison.equal.holds (.text " 1.50") (.number 1.5) = true := by
  have hpresent : (Cell.text " 1.50").isAbsent = false := by decide +kernel
  obtain ⟨hequal, hkey⟩ := @Cell.key?_agrees (.text " 1.50") (.number 1.5) hpresent rfl
  have hkeys := hkey (.inr rfl) (by decide +kernel)
  exact ⟨⟨hpresent, rfl, rfl⟩, hkeys, hequal hkeys⟩

end

end RowAudit
