import RowAudit.Proofs.Check.Answers
import RowAudit.Proofs.Text.Lowering

/-!
# Looking for a text with regard to case and without

Without regard to case, a check that a cell contains a text lowers the two as wholes and then looks
for the one in the other. A cell that holds the text as it is then holds it still, unless the
lower-case form of the text depends on a side where the place asked for lets something stand
(`Place.losesMatches`), which takes a capital sigma (`Place.losesMatches_of_notMem`). For such texts
there are cells that pass with regard to case and fail without (`Check.contains_ignoringCase`).
-/

namespace RowAudit

namespace Text

/-- A text occurs where it stands between two others. -/
theorem occursIn_iff (needle haystack : List Char) :
    occursIn needle haystack = true ↔ needle <:+: haystack := by
  induction haystack with
  | nil => simp [occursIn]
  | cons c haystack ih => rw [occursIn, Bool.or_eq_true, ih, List.isPrefixOf_iff_prefix,
      List.infix_cons_iff]

end Text

namespace Place

/-- A text stands at a place if it is between two others, with none on the side that the place rules
out. -/
theorem holds_iff (place : Place) (needle haystack : List Char) :
    place.holds needle haystack = true ↔
      ∃ b a, haystack = b ++ needle ++ a ∧ (place = atStart → b = []) ∧
        (place = atEnd → a = []) := by
  cases place with
  | anywhere =>
    rw [holds, Text.occursIn_iff]
    simp [List.IsInfix, eq_comm]
  | atStart =>
    rw [holds, List.isPrefixOf_iff_prefix]
    simp [List.IsPrefix, eq_comm]
  | atEnd =>
    rw [holds, List.isSuffixOf_iff_suffix]
    simp [List.IsSuffix, eq_comm]

/-- What holds a needle at some place has it for a part. -/
theorem infix_of_holds {place : Place} {needle haystack : List Char}
    (h : place.holds needle haystack = true) : needle <:+: haystack := by
  obtain ⟨b, a, rfl, -, -⟩ := (place.holds_iff needle haystack).1 h
  exact ⟨b, a, rfl⟩

/-- Whether lowering can take a text away from a place: its lower-case form depends on a side where
the place lets something stand. -/
def losesMatches (place : Place) (search : List Char) : Bool :=
  (place ≠ atStart && Text.dependsOnBefore search) || (place ≠ atEnd && Text.dependsOnAfter search)

variable {place : Place} {search : List Char}

/-- Only texts with a capital sigma can be lost. -/
theorem losesMatches_of_notMem (h : Text.capitalSigma ∉ search) (place : Place) :
    place.losesMatches search = false := by
  have hbefore : Text.dependsOnBefore search = false := by
    refine Bool.eq_false_iff.2 fun hdepends => h ?_
    obtain ⟨u, w, rfl, -⟩ := Text.exists_of_dependsOnBefore hdepends
    simp
  have hafter : Text.dependsOnAfter search = false := by
    refine Bool.eq_false_iff.2 fun hdepends => h ?_
    obtain ⟨u, w, rfl, -⟩ := Text.exists_of_dependsOnAfter hdepends
    simp
  rw [losesMatches, hbefore, hafter, Bool.and_false, Bool.and_false, Bool.or_self]

/-- A text that cannot be lost stands in the lower-case form of every text that it stands in. -/
theorem holds_lower (h : place.losesMatches search = false) {haystack : List Char}
    (hfound : place.holds search haystack = true) :
    place.holds (Text.lowerAfter [] search) (Text.lowerAfter [] haystack) = true := by
  obtain ⟨b, a, rfl, hstart, hend⟩ := (place.holds_iff search haystack).1 hfound
  simp only [losesMatches, ne_eq, Bool.or_eq_false_iff, Bool.and_eq_false_imp,
    decide_eq_true_eq] at h
  obtain ⟨b', a', hlower, hb, ha⟩ := Text.exists_lowerAfter_append (s := search)
    (fun hne => h.1 fun hplace => hne (hstart hplace))
    (fun hne => h.2 fun hplace => hne (hend hplace))
  exact (place.holds_iff _ _).2
    ⟨b', a', hlower, fun hplace => hb (hstart hplace), fun hplace => ha (hend hplace)⟩

/-- A text that can be lost is lost next to a letter. -/
theorem exists_lost (h : place.losesMatches search = true) :
    ∃ haystack, haystack ≠ [] ∧ place.holds search haystack = true ∧
      place.holds (Text.lowerAfter [] search) (Text.lowerAfter [] haystack) = false := by
  simp only [losesMatches, ne_eq, Bool.or_eq_true, Bool.and_eq_true, decide_eq_true_eq] at h
  rcases h with ⟨hplace, hdepends⟩ | ⟨hplace, hdepends⟩
  · refine ⟨'a' :: search, by simp, ?_, Bool.eq_false_iff.2 fun hfound => ?_⟩
    · exact (place.holds_iff _ _).2 ⟨['a'], [], by simp, fun h => absurd h hplace, fun _ => rfl⟩
    · exact Text.not_infix_of_dependsOnBefore hdepends (infix_of_holds hfound)
  · refine ⟨search ++ ['a'], by simp, ?_, Bool.eq_false_iff.2 fun hfound => ?_⟩
    · exact (place.holds_iff _ _).2 ⟨[], ['a'], by simp, fun _ => rfl, fun h => absurd h hplace⟩
    · exact Text.not_infix_of_dependsOnAfter hdepends (infix_of_holds hfound)

end Place

namespace Check

variable {column : String} {ctx : Context} {row : Row} {ok : Bool}

/-- What a check for a text says about a row. -/
theorem answers_contains (check : Contains) :
    (contains check).Answers column ctx row ok ↔
      ok = ((contains check).skips column row ||
        check.place.holds (check.folded check.search).toList
          (check.folded (row.get column).display).toList) := by
  rw [answers_iff (fun _ => rfl) (o := check.judge column (row.get column)) rfl, Contains.judge,
    Outcome.isValid_check]

/-- Whatever the column and the setting, the texts that are found without regard to case wherever
they are found with regard to it are those that lowering cannot take away from their place. -/
theorem contains_ignoringCase (search : String) (place : Place) (column : String) (ctx : Context) :
    (∀ row, (contains ⟨search, place, true⟩).Answers column ctx row true →
      (contains ⟨search, place, false⟩).Answers column ctx row true) ↔
    place.losesMatches search.toList = false := by
  have hlower (s : String) : (Text.lower s).toList = Text.lowerAfter [] s.toList :=
    String.toList_ofList
  simp only [answers_contains, Contains.folded, if_true, Bool.false_eq_true, if_false, hlower,
    eq_comm (a := true), Bool.or_eq_true]
  constructor
  · intro hwidens
    refine Bool.eq_false_iff.2 fun hloses => ?_
    obtain ⟨haystack, hne, hfound, hlost⟩ := Place.exists_lost hloses
    -- a row with the cell that the text is lost in
    let row := Row.ofList [(column, .text (String.ofList haystack))]
    have hcell : row.get column = .text (String.ofList haystack) := by
      simp [row, Row.get, Row.ofList, Fields.ofList, Fields.insert, Fields.get?]
    have hpresent : (row.get column).isAbsent = false := by
      rw [hcell]
      simpa [Cell.isAbsent] using hne
    have hdisplay : (row.get column).display.toList = haystack := by
      rw [hcell]
      exact String.toList_ofList
    have hpasses := hwidens row
    rw [skips_of_present hpresent, skips_of_present hpresent, hdisplay, hlost] at hpasses
    simp [hfound] at hpasses
  · intro hkeeps row hpasses
    exact hpasses.imp_right (Place.holds_lower hkeeps)

/-! ### A row of Greek capitals -/

/-- A row that starts with a capital sigma and has another one inside. -/
def inscription : Row := .ofList [("v", .text "ΣΩΣΤΑ")]

/-- A context with that row. -/
def inscriptions : Context := .ofTable "my rule" ⟨"t", [inscription]⟩

/-- The end of the row cannot be lost, so it is found without regard to case, too. -/
theorem contains_ignoringCase_end :
    (contains ⟨"ΣΤΑ", .atEnd, true⟩).Answers "v" inscriptions inscription true ∧
      (contains ⟨"ΣΤΑ", .atEnd, false⟩).Answers "v" inscriptions inscription true := by
  have hfound : (contains ⟨"ΣΤΑ", .atEnd, true⟩).Answers "v" inscriptions inscription true := by
    rw [answers_contains]
    decide +kernel
  have hkept : Place.atEnd.losesMatches "ΣΤΑ".toList = false := by decide +kernel
  exact ⟨hfound, (contains_ignoringCase "ΣΤΑ" .atEnd "v" inscriptions).2 hkept inscription hfound⟩

/-- The start of the row is lost without regard to case: by itself it ends in a final sigma. -/
theorem start_lost_ignoringCase :
    (contains ⟨"ΣΩΣ", .atStart, true⟩).Answers "v" inscriptions inscription true ∧
      (contains ⟨"ΣΩΣ", .atStart, false⟩).Answers "v" inscriptions inscription false := by
  constructor <;> rw [answers_contains] <;> decide +kernel

end Check

end RowAudit
