import RowAudit.Proofs.Aggregation.Overflow
import RowAudit.Proofs.Cell.Transitivity

/-!
# Least and greatest values

An extreme is sought among the numbers of a column, or among its present cells if it has no numbers
(`candidates`). One pass keeps the best cell so far, so no later candidate is better than the one
that it ends with. That no candidate at all is better takes more: the order of the candidates has to
be transitive. It is if they are numbers; otherwise it is unless a text divides two moments, and
then there are rows of the column whose extreme is not one (`compute_extreme`).
-/

namespace RowAudit

/-- Finite numbers have the order of numbers. -/
theorem Cell.order?_number {p : Precision} {x y : Float} (hx : Number.isFinite x = true)
    (hy : Number.isFinite y = true) : order? p (.number x) (.number y) = Number.order x y := by
  simp [order?, coerce, isAbsent, number?, hx, hy, Coerced.order]

namespace Aggregation

/-- A wanted order is a strict order of some cells. -/
structure StrictOn (wanted : Ordering) (cells : List Cell) : Prop where
  irrefl : ∀ a ∈ cells, Cell.order? .exact a a ≠ some wanted
  trans : ∀ a ∈ cells, ∀ b ∈ cells, ∀ c ∈ cells, Cell.order? .exact a b = some wanted →
    Cell.order? .exact b c = some wanted → Cell.order? .exact a c = some wanted

/-! ## Candidates -/

/-- The cells among which an extreme is sought: the numbers of a column, or its present cells if it
has no numbers. -/
def candidates (column : String) (rows : List Row) : List Cell :=
  if (numbers column rows).isEmpty then present column rows
  else (numbers column rows).map .number

section
variable {column : String} {rows : List Row} {c : Cell} {o : Ordering}

/-- The present cells are those of the rows that are not absent. -/
theorem mem_present : c ∈ present column rows ↔
    ∃ row ∈ rows, row.get column = c ∧ c.isAbsent = false := by
  simp only [present, List.mem_filter, List.mem_map, Bool.not_eq_true', exists_and_right,
    ← and_assoc]

/-- Candidates are the numbers of a column, or cells none of which is a number. -/
theorem candidates_cases (column : String) (rows : List Row) :
    numbers column rows ≠ [] ∧ candidates column rows = (numbers column rows).map .number ∨
    numbers column rows = [] ∧ candidates column rows = present column rows ∧
      ∀ c ∈ present column rows, c.number? = none := by
  rw [candidates]
  cases hnumbers : numbers column rows with
  | nil => exact .inr ⟨rfl, rfl, List.filterMap_eq_nil_iff.1 hnumbers⟩
  | cons x xs => exact .inl ⟨List.cons_ne_nil x xs, rfl⟩

/-- The numbers of a column are finite. -/
theorem exists_number_of_mem_map (hc : c ∈ (numbers column rows).map Cell.number) :
    ∃ x, Number.isFinite x = true ∧ c = .number x := by
  obtain ⟨x, hx, rfl⟩ := List.mem_map.1 hc
  exact ⟨x, isFinite_of_mem_numbers hx, rfl⟩

/-- A number is no moment, so numbers are not divided. -/
theorem not_divided_numbers (column : String) (rows : List Row) :
    ¬ Cell.Divided ((numbers column rows).map .number) := by
  rintro ⟨-, -, p, hp, -, -, -, m, -, hm, -⟩
  obtain ⟨x, -, rfl⟩ := exists_number_of_mem_map hp
  cases hm

/-- A candidate is present. -/
theorem isAbsent_of_mem_candidates (hc : c ∈ candidates column rows) : c.isAbsent = false := by
  obtain ⟨-, hcandidates⟩ | ⟨-, hcandidates, -⟩ := candidates_cases column rows
  · rw [hcandidates] at hc
    obtain ⟨x, -, rfl⟩ := exists_number_of_mem_map hc
    rfl
  · rw [hcandidates] at hc
    obtain ⟨-, -, -, hc⟩ := mem_present.1 hc
    exact hc

/-- There are no candidates exactly if no cell is present. -/
theorem candidates_eq_nil_iff : candidates column rows = [] ↔
    ∀ row ∈ rows, (row.get column).isAbsent = true := by
  have hpresent : present column rows = [] ↔ ∀ row ∈ rows, (row.get column).isAbsent = true := by
    simp [present, List.filter_eq_nil_iff]
  obtain ⟨hnumbers, hcandidates⟩ | ⟨-, hcandidates, -⟩ := candidates_cases column rows
  · refine iff_of_false ?_ fun habsent => ?_
    · rwa [hcandidates, List.map_eq_nil_iff]
    · rw [numbers, hpresent.2 habsent] at hnumbers
      exact hnumbers rfl
  · rw [hcandidates, hpresent]

/-- Candidates are strictly ordered unless one of them divides two of them. -/
theorem candidates_strictOn (ho : o ≠ .eq) (h : ¬ Cell.Divided (candidates column rows)) :
    StrictOn o (candidates column rows) where
  irrefl a ha := by
    rw [Cell.order?_self (isAbsent_of_mem_candidates ha), ne_eq, Option.some_inj]
    exact ho.symm
  trans a ha b hb c hc hab hbc := by
    obtain ⟨-, hcandidates⟩ | ⟨-, hcandidates, hplain⟩ := candidates_cases column rows
    · obtain ⟨x, hx, rfl⟩ := exists_number_of_mem_map (hcandidates ▸ ha)
      obtain ⟨y, hy, rfl⟩ := exists_number_of_mem_map (hcandidates ▸ hb)
      obtain ⟨z, hz, rfl⟩ := exists_number_of_mem_map (hcandidates ▸ hc)
      rw [Cell.order?_number hx hy] at hab
      rw [Cell.order?_number hy hz] at hbc
      rw [Cell.order?_number hx hz]
      exact Number.order_trans hx hy hz hab hbc
    · have horder {d e : Cell} (hd : d ∈ candidates column rows) (he : e ∈ candidates column rows) :
          Cell.order? .exact d e = some (Cell.plainOrder d e) :=
        Cell.order?_of_plain (isAbsent_of_mem_candidates hd) (isAbsent_of_mem_candidates he)
          (hplain d (hcandidates ▸ hd)) (hplain e (hcandidates ▸ he))
      rw [horder ha hb, Option.some_inj] at hab
      rw [horder hb hc, Option.some_inj] at hbc
      rw [horder ha hc, Option.some_inj]
      refine Classical.byContradiction fun hac => h ((Cell.exists_detour_iff ho).1 ?_)
      exact ⟨a, ha, b, hb, c, hc, hab, hbc, hac⟩

end

/-! ## One pass -/

section
variable {wanted : Ordering}

/-- No candidate after the one that a pass ends with is better. -/
theorem extremeCell_eq_append (wanted : Ordering) (best : Cell) (cs : List Cell) :
    ∃ before after, best :: cs = before ++ extremeCell wanted best cs :: after ∧
      ∀ c ∈ after, Cell.order? .exact c (extremeCell wanted best cs) ≠ some wanted := by
  induction cs generalizing best with
  | nil => exact ⟨[], [], rfl, nofun⟩
  | cons c cs ih =>
    rw [extremeCell]
    split
    · obtain ⟨before, after, hsplit, hafter⟩ := ih c
      exact ⟨best :: before, after, congrArg (best :: ·) hsplit, hafter⟩
    · next hworse =>
      obtain ⟨before, after, hsplit, hafter⟩ := ih best
      cases before with
      | nil =>
        obtain ⟨hbest, rfl⟩ := List.cons_eq_cons.1 hsplit
        rw [← hbest] at hafter ⊢
        refine ⟨[], c :: cs, rfl, fun d hd => ?_⟩
        obtain rfl | hd := List.mem_cons.1 hd
        · exact hworse
        · exact hafter d hd
      | cons b before =>
        obtain ⟨rfl, hcs⟩ := List.cons_eq_cons.1 hsplit
        exact ⟨best :: c :: before, after, congrArg (fun l => best :: c :: l) hcs, hafter⟩

/-- A pass over strictly ordered cells ends with its first cell or with a better one, and no cell is
better than that. -/
theorem StrictOn.extremeCell_unbeaten {cells : List Cell} (h : StrictOn wanted cells) :
    ∀ {best : Cell} {cs : List Cell}, best ∈ cells → cs ⊆ cells →
      (extremeCell wanted best cs = best ∨
        Cell.order? .exact (extremeCell wanted best cs) best = some wanted) ∧
      ∀ c ∈ best :: cs, Cell.order? .exact c (extremeCell wanted best cs) ≠ some wanted := by
  intro best cs
  induction cs generalizing best with
  | nil =>
    refine fun hbest _ => ⟨.inl rfl, fun c hc => ?_⟩
    obtain rfl := List.mem_singleton.1 hc
    exact h.irrefl c hbest
  | cons c cs ih =>
    intro hbest hsub
    obtain ⟨hc, hcs⟩ := List.cons_subset.1 hsub
    have hvalue {d : Cell} (hd : d ∈ cells) : extremeCell wanted d cs ∈ cells :=
      List.cons_subset.2 ⟨hd, hcs⟩ (extremeCell_mem wanted d cs)
    rw [extremeCell]
    split
    · next hbetter =>
      obtain ⟨hfirst, hrest⟩ := ih hc hcs
      refine ⟨.inr ?_, fun d hd => ?_⟩
      · obtain heq | hless := hfirst
        · rw [heq]
          exact hbetter
        · exact h.trans _ (hvalue hc) c hc best hbest hless hbetter
      · obtain rfl | hd := List.mem_cons.1 hd
        · exact fun hd => hrest c List.mem_cons_self (h.trans c hc d hbest _ (hvalue hc) hbetter hd)
        · exact hrest d hd
    · next hworse =>
      obtain ⟨hfirst, hrest⟩ := ih hbest hcs
      -- A cell that is no better than the first one is no better than a cell that is.
      have hnew : Cell.order? .exact c (extremeCell wanted best cs) ≠ some wanted := by
        intro hnew
        obtain heq | hless := hfirst
        · exact hworse (heq ▸ hnew)
        · exact hworse (h.trans c hc _ (hvalue hbest) best hbest hnew hless)
      refine ⟨hfirst, fun d hd => ?_⟩
      obtain rfl | hd := List.mem_cons.1 hd
      · exact hrest d List.mem_cons_self
      · obtain rfl | hd := List.mem_cons.1 hd
        · exact hnew
        · exact hrest d (List.mem_cons_of_mem _ hd)

end

/-! ## Extremes -/

/-- The order in which the value of a reducer stands to the other cells, if it is an extreme. -/
def Reducer.wanted? : Reducer → Option Ordering
  | .min => some .lt
  | .max => some .gt
  | .sum => none
  | .avg => none
  | .count => none
  | .distinctCount => none

section
variable {column : String} {rows : List Row} {wanted : Ordering}

/-- An extreme is less or greater than other cells. -/
theorem Reducer.ne_eq_of_wanted? {r : Reducer} (h : r.wanted? = some wanted) : wanted ≠ .eq := by
  cases r <;> cases h <;> nofun

/-- A pass over numbers is one over the cells of the numbers. -/
theorem extremeCell_numbers {x : Float} {xs : List Float}
    (hfinite : ∀ y ∈ x :: xs, Number.isFinite y = true) :
    extremeCell wanted (.number x) (xs.map .number) = .number (extremeNumber wanted x xs) := by
  induction xs generalizing x with
  | nil => rfl
  | cons y xs ih =>
    have hx : Number.isFinite x = true := hfinite x List.mem_cons_self
    have hy : Number.isFinite y = true := hfinite y (List.mem_cons_of_mem _ List.mem_cons_self)
    have hxs : ∀ z ∈ xs, Number.isFinite z = true := fun z hz =>
      hfinite z (List.mem_cons_of_mem _ (List.mem_cons_of_mem _ hz))
    have hbetter : (coerce .exact (.number y) (.number x)).bind Coerced.order = Number.order y x :=
      Cell.order?_number hy hx
    rw [List.map_cons, extremeCell, extremeNumber, hbetter]
    split
    · exact ih (List.forall_mem_cons.2 ⟨hy, hxs⟩)
    · exact ih (List.forall_mem_cons.2 ⟨hx, hxs⟩)

/-- An extreme is sought in one pass over the candidates. -/
theorem apply_of_wanted? {r : Reducer} (h : r.wanted? = some wanted) :
    r.apply column rows =
      match candidates column rows with
      | [] => .null
      | c :: cs => extremeCell wanted c cs := by
  have happly : r.apply column rows =
      extreme wanted (numbers column rows) (present column rows) := by
    cases r <;> cases h <;> rfl
  rw [happly, candidates]
  cases hnumbers : numbers column rows with
  | nil => cases present column rows <;> rfl
  | cons x xs =>
    refine (extremeCell_numbers fun y hy => ?_).symm
    exact isFinite_of_mem_numbers (hnumbers ▸ hy)

/-- An extreme is one of the candidates, if there are any. -/
theorem apply_mem_candidates {r : Reducer} (h : r.wanted? = some wanted)
    (hne : candidates column rows ≠ []) : r.apply column rows ∈ candidates column rows := by
  rw [apply_of_wanted? h]
  cases hcandidates : candidates column rows with
  | nil => exact absurd hcandidates hne
  | cons best cs => exact extremeCell_mem wanted best cs

/-- Unless one of them divides two of them, no candidate is better than an extreme. -/
theorem apply_unbeaten {r : Reducer} (h : r.wanted? = some wanted)
    (hwhole : ¬ Cell.Divided (candidates column rows)) :
    ∀ c ∈ candidates column rows, Cell.order? .exact c (r.apply column rows) ≠ some wanted := by
  have hstrict := candidates_strictOn (Reducer.ne_eq_of_wanted? h) hwhole
  rw [apply_of_wanted? h]
  cases hcandidates : candidates column rows with
  | nil => exact nofun
  | cons best cs =>
    rw [hcandidates] at hstrict
    exact (hstrict.extremeCell_unbeaten List.mem_cons_self (List.subset_cons_self best cs)).2

/-- The candidates in three rows are the cells of the rows if these are present and no numbers. -/
theorem candidates_of_plain {rows' : List Row} (hcells : ∀ row ∈ rows',
    (row.get column).isAbsent = false ∧ (row.get column).number? = none) :
    candidates column rows' = rows'.map (·.get column) := by
  have hpresent : present column rows' = rows'.map (·.get column) := by
    refine List.filter_eq_self.2 fun c hc => ?_
    obtain ⟨row, hrow, rfl⟩ := List.mem_map.1 hc
    rw [(hcells row hrow).1]
    rfl
  have hnumbers : numbers column rows' = [] := by
    rw [numbers, hpresent, List.filterMap_eq_nil_iff]
    intro c hc
    obtain ⟨row, hrow, rfl⟩ := List.mem_map.1 hc
    exact (hcells row hrow).2
  rw [candidates, hnumbers, hpresent]
  rfl

/-- Candidates that are divided are cells of rows, and no numbers. -/
theorem exists_row_of_divided (hdivided : Cell.Divided (candidates column rows)) :
    ∀ c ∈ candidates column rows, ∃ row ∈ rows, row.get column = c ∧ c.isAbsent = false ∧
      c.number? = none := by
  intro c hc
  obtain ⟨-, hcandidates⟩ | ⟨-, hcandidates, hplain⟩ := candidates_cases column rows
  · exact absurd (hcandidates ▸ hdivided) (not_divided_numbers column rows)
  · rw [hcandidates] at hc
    obtain ⟨row, hrow, hcell, habsent⟩ := mem_present.1 hc
    exact ⟨row, hrow, hcell, habsent, hplain c hc⟩

/-- If a candidate divides two of them, then a reduction of three rows misses the extreme. -/
theorem exists_beaten_of_divided {r : Reducer} (h : r.wanted? = some wanted)
    (hdivided : Cell.Divided (candidates column rows)) : ∃ rows' ⊆ rows,
      ∃ c ∈ candidates column rows', Cell.order? .exact c (r.apply column rows') = some wanted := by
  obtain ⟨a, ha, b, hb, c, hc, hab, hbc, hac⟩ :=
    (Cell.exists_detour_iff (Reducer.ne_eq_of_wanted? h)).2 hdivided
  obtain ⟨rowA, hrowA, rfl, hpresentA, hplainA⟩ := exists_row_of_divided hdivided a ha
  obtain ⟨rowB, hrowB, rfl, hpresentB, hplainB⟩ := exists_row_of_divided hdivided b hb
  obtain ⟨rowC, hrowC, rfl, hpresentC, hplainC⟩ := exists_row_of_divided hdivided c hc
  rw [← Option.some_inj, ← Cell.order?_of_plain hpresentA hpresentB hplainA hplainB] at hab
  rw [← Option.some_inj, ← Cell.order?_of_plain hpresentB hpresentC hplainB hplainC] at hbc
  rw [ne_eq, ← Option.some_inj, ← Cell.order?_of_plain hpresentA hpresentC hplainA hplainC] at hac
  have hcandidates : candidates column [rowC, rowA, rowB] =
      [rowC.get column, rowA.get column, rowB.get column] := by
    refine candidates_of_plain fun row hrow => ?_
    obtain rfl | rfl | rfl : row = rowC ∨ row = rowA ∨ row = rowB := by simpa using hrow
    · exact ⟨hpresentC, hplainC⟩
    · exact ⟨hpresentA, hplainA⟩
    · exact ⟨hpresentB, hplainB⟩
  -- The first cell is not better than the last one, which falls to the one in the middle.
  have hvalue : extremeCell wanted (rowC.get column) [rowA.get column, rowB.get column] =
      rowB.get column :=
    (congrArg (extremeCell wanted · [rowB.get column]) (if_neg hac)).trans (if_pos hbc)
  refine ⟨[rowC, rowA, rowB], ?_, rowA.get column, ?_, ?_⟩
  · simp [hrowA, hrowB, hrowC]
  · simp [hcandidates]
  · rw [apply_of_wanted? h, hcandidates]
    exact (congrArg _ hvalue).trans hab

end

/-- The value of an aggregation for the least or the greatest cell of a column, over all rows. It is
null exactly if no cell of the column is present, and otherwise a candidate such that no later
candidate is better. No candidate at all is better than it unless one of them divides two of them,
being a text that is no moment and stands between two moments that do not stand in the order of
their texts; and then the same aggregation over some of the rows has a value to which another
candidate is better. -/
theorem compute_extreme (a : Aggregation) {wanted : Ordering}
    (hwanted : a.function.reducer.wanted? = some wanted) (hgrouped : a.function.grouped = false)
    (hfilter : a.filter = none) (hdistinct : a.distinctColumn = none) (rows : List Row) :
    ∃ value, a.compute rows = .ok (.scalar value) ∧
      (value = .null ↔ ∀ row ∈ rows, (row.get a.column).isAbsent = true) ∧
      (value ≠ .null → ∃ before after, candidates a.column rows = before ++ value :: after ∧
        ∀ c ∈ after, Cell.order? .exact c value ≠ some wanted) ∧
      (¬ Cell.Divided (candidates a.column rows) →
        ∀ c ∈ candidates a.column rows, Cell.order? .exact c value ≠ some wanted) ∧
      (Cell.Divided (candidates a.column rows) → ∃ rows' ⊆ rows, ∃ value',
        a.compute rows' = .ok (.scalar value') ∧
          ∃ c ∈ candidates a.column rows', Cell.order? .exact c value' = some wanted) := by
  have hcompute (rows : List Row) :
      a.compute rows = .ok (.scalar (a.function.reducer.apply a.column rows)) := by
    have hself : a.ungrouped = a := by
      obtain ⟨⟨grouped, reducer⟩, column, label, filter, groupColumns, distinct, handling⟩ := a
      cases hgrouped
      cases hfilter
      rfl
    have hreduced : a.reduced rows = a.function.reducer.apply a.column rows := by
      rw [reduced, hdistinct]
      rfl
    rw [← hreduced, ← compute_ungrouped, hself]
  refine ⟨_, hcompute rows, ?_, ?_, apply_unbeaten hwanted, fun hdivided => ?_⟩
  · rw [← candidates_eq_nil_iff]
    refine ⟨fun hnull => by_contra fun hne => ?_, fun hnil => ?_⟩
    · have hpresent := isAbsent_of_mem_candidates (apply_mem_candidates hwanted hne)
      rw [hnull] at hpresent
      cases hpresent
    · rw [apply_of_wanted? hwanted, hnil]
  · rw [apply_of_wanted? hwanted]
    cases candidates a.column rows with
    | nil => exact fun hnull => absurd rfl hnull
    | cons best cs => exact fun _ => extremeCell_eq_append wanted best cs
  · obtain ⟨rows', hsub, c, hc, hbetter⟩ := exists_beaten_of_divided hwanted hdivided
    exact ⟨rows', hsub, _, hcompute rows', c, hc, hbetter⟩

/-- The least value of a column. -/
def leastDue : Aggregation where
  function := ⟨false, .min⟩
  column := "due"

/-- Only a text is the same cell as a text. -/
theorem eq_text_of_same {c : Cell} {s : String} (h : c.same (.text s) = true) : c = .text s := by
  cases c with
  | text t => exact congrArg Cell.text (beq_iff_eq.1 h)
  | null | bool _ | number _ | moment _ | list _ | record _ => cases h

/-- If the least deadline is the same cell as a text, it is that text. -/
theorem compute_leastDue {rows : List Row} {s : String}
    (h : (Reducer.min.apply "due" rows).same (.text s) = true) :
    leastDue.compute rows = .ok (.scalar (.text s)) := by
  rw [← eq_text_of_same h]
  exact compute_ungrouped leastDue rows

/-- Two days in two spellings and a word after both of them. -/
def deadlines : List Row :=
  [.ofList [("due", .text "2024-03-01")], .ofList [("due", .text "")],
   .ofList [("due", .text "later")], .ofList [("due", .text "2024/02/29")]]

/-- The word divides no two days, so the least value is the earlier day. -/
theorem compute_extreme_deadlines :
    (leastDue.function.reducer.wanted? = some .lt ∧ leastDue.function.grouped = false ∧
      leastDue.filter = none ∧ leastDue.distinctColumn = none ∧
      ¬ Cell.Divided (candidates "due" deadlines)) ∧
    leastDue.compute deadlines = .ok (.scalar (.text "2024/02/29")) ∧
    ∀ c ∈ candidates "due" deadlines, Cell.order? .exact c (.text "2024/02/29") ≠ some .lt := by
  have hwhole : ¬ Cell.Divided (candidates "due" deadlines) := by
    rw [← Cell.exists_detour_iff (o := .lt) nofun]
    decide +kernel
  have hleast : leastDue.compute deadlines = .ok (.scalar (.text "2024/02/29")) :=
    compute_leastDue (by decide +kernel)
  obtain ⟨value, hvalue, -, -, hunbeaten, -⟩ := compute_extreme leastDue rfl rfl rfl rfl deadlines
  cases hleast.symm.trans hvalue
  exact ⟨⟨rfl, rfl, rfl, rfl, hwhole⟩, hleast, hunbeaten hwhole⟩

/-- One day in two spellings, and a word that stands between them. -/
def respelled : List Row :=
  [.ofList [("due", .text "2024/01/01")], .ofList [("due", .text "2024-01-01")],
   .ofList [("due", .text "2024-later")]]

/-- The word is before the first spelling and becomes the least value, although the second spelling
is before the word. No cell is before the second spelling. -/
theorem least_respelled_beaten :
    leastDue.compute respelled = .ok (.scalar (.text "2024-later")) ∧
    Cell.text "2024-01-01" ∈ candidates "due" respelled ∧
    Cell.order? .exact (.text "2024-01-01") (.text "2024-later") = some .lt ∧
    ∀ c ∈ candidates "due" respelled, Cell.order? .exact c (.text "2024-01-01") ≠ some .lt := by
  have hmem : (candidates "due" respelled).any (·.same (.text "2024-01-01")) = true := by
    decide +kernel
  refine ⟨compute_leastDue (by decide +kernel), ?_, by decide +kernel, by decide +kernel⟩
  obtain ⟨c, hc, hsame⟩ := List.any_eq_true.1 hmem
  rwa [← eq_text_of_same hsame]

end Aggregation

end RowAudit
