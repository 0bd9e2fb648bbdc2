import RowAudit.Proofs.Aggregation.Grouping
import RowAudit.Proofs.Basic
import RowAudit.Proofs.Number.Range

/-!
# Aggregations out of the range of numbers

Of the reducers only the sum and the average add, and their additions are not checked. So over
finite rows the value of an aggregation is not finite exactly if the additions over one of its
groups leave the range of numbers (`Aggregation.compute_isFinite_iff`). Counts, extremes and the
division of an average do not leave it.
-/

namespace RowAudit

/-! ## Finite cells -/

namespace Cell

mutual

/-- Whether all numbers in a cell are finite. -/
def isFinite : Cell → Bool
  | number x => Number.isFinite x
  | list items => itemsFinite items
  | record fields => fieldsFinite fields
  | null => true
  | bool _ => true
  | text _ => true
  | moment _ => true

/-- `isFinite` over the items of a list. -/
def itemsFinite : List Cell → Bool
  | [] => true
  | c :: rest => isFinite c && itemsFinite rest

/-- `isFinite` over the fields of a record. -/
def fieldsFinite : List (String × Cell) → Bool
  | [] => true
  | (_, c) :: rest => isFinite c && fieldsFinite rest

end

/-- Items are finite if each of them is. -/
theorem itemsFinite_eq (cs : List Cell) : itemsFinite cs = cs.all isFinite := by
  induction cs with
  | nil => rfl
  | cons c cs ih => rw [itemsFinite, List.all_cons, ih]

/-- Fields are finite if each value is. -/
theorem fieldsFinite_eq (fs : List (String × Cell)) :
    fieldsFinite fs = fs.all fun field => field.2.isFinite := by
  induction fs with
  | nil => rfl
  | cons field fs ih => rw [fieldsFinite, List.all_cons, ih]

end Cell

/-- Whether all numbers in a row are finite. -/
def Row.isFinite (row : Row) : Bool := Cell.fieldsFinite row.cells

/-- The cells of a finite row are finite, also where there are none. -/
theorem Row.isFinite_get {row : Row} (h : row.isFinite = true) (column : String) :
    (row.get column).isFinite = true := by
  rw [isFinite, Cell.fieldsFinite_eq, List.all_eq_true] at h
  rw [get, Fields.get?]
  cases hfind : List.find? (·.1 == column) row.cells with
  | none => rfl
  | some field => exact h field (List.mem_of_find?_eq_some hfind)

/-- Rows of finite numbers, no more of them than a count can tell. -/
structure FiniteRows (rows : List Row) : Prop where
  isFinite : ∀ row ∈ rows, row.isFinite = true
  length_lt : rows.length < 2 ^ 64

/-- Some of finite rows are finite rows. -/
theorem FiniteRows.sublist {rows rows' : List Row} (h : FiniteRows rows)
    (hsub : rows'.Sublist rows) :
    FiniteRows rows' :=
  ⟨fun row hrow => h.isFinite row (hsub.subset hrow), hsub.length_le.trans_lt h.length_lt⟩

namespace Aggregation

open Formula (Fault)

/-! ## Reductions -/

/-- What stands in a list behind one of two things, or is that one, stands behind both or is one of
them. -/
theorem mem_of_mem_ite_cons {α : Type} {p : Prop} [Decidable p] {a x y : α} {xs : List α}
    (h : a ∈ (if p then x else y) :: xs) : a ∈ y :: x :: xs := by
  split at h
  · exact List.mem_cons_of_mem y h
  · rcases List.mem_cons.1 h with rfl | h
    · exact List.mem_cons_self
    · exact List.mem_cons_of_mem y (List.mem_cons_of_mem x h)

/-- The extreme of numbers is one of them. -/
theorem extremeNumber_mem (wanted : Ordering) (best : Float) (xs : List Float) :
    extremeNumber wanted best xs ∈ best :: xs := by
  induction xs generalizing best with
  | nil => exact List.mem_cons_self
  | cons x xs ih => exact mem_of_mem_ite_cons (ih _)

/-- The extreme of cells is one of them. -/
theorem extremeCell_mem (wanted : Ordering) (best : Cell) (cs : List Cell) :
    extremeCell wanted best cs ∈ best :: cs := by
  induction cs generalizing best with
  | nil => exact List.mem_cons_self
  | cons c cs ih => exact mem_of_mem_ite_cons (ih _)

/-- An extreme is one of the numbers, or one of the present cells, or null. -/
theorem isFinite_extreme {wanted : Ordering} {numbers : List Float} {present : List Cell}
    (hnumbers : ∀ x ∈ numbers, Number.isFinite x = true)
    (hpresent : ∀ c ∈ present, c.isFinite = true) :
    (extreme wanted numbers present).isFinite = true := by
  unfold extreme
  split
  · exact hnumbers _ (extremeNumber_mem ..)
  · exact hpresent _ (extremeCell_mem ..)
  · rfl

/-- A count is a finite number. -/
theorem isFinite_ofCount (n : Nat) : Number.isFinite (ofCount n) = true := Number.isFinite_toFloat _

/-- The number with which the additions of a reducer begin. -/
def Reducer.start? : Reducer → Option Float
  | .sum => some (-0.0)
  | .avg => some 0.0
  | .count => none
  | .min => none
  | .max => none
  | .distinctCount => none

/-- The additions of a reduction leave the range. -/
def Reducer.Overflows (r : Reducer) (column : String) (rows : List Row) : Prop :=
  ∃ start ∈ r.start?, Number.LeavesRange (· + ·) start (numbers column rows)

section
variable {rows : List Row} {column : String}

/-- The numbers of a column are finite. -/
theorem isFinite_of_mem_numbers {x : Float} (hx : x ∈ numbers column rows) :
    Number.isFinite x = true := by
  obtain ⟨c, -, hc⟩ := List.mem_filterMap.1 hx
  exact Cell.isFinite_of_number? hc

/-- The present cells of finite rows are finite. -/
theorem isFinite_of_mem_present (hrows : FiniteRows rows) {c : Cell}
    (hc : c ∈ present column rows) :
    c.isFinite = true := by
  obtain ⟨row, hrow, rfl⟩ := List.mem_map.1 (List.mem_filter.1 hc).1
  exact Row.isFinite_get (hrows.isFinite row hrow) column

/-- A column has no more numbers than there are rows. -/
theorem length_numbers_le : (numbers column rows).length ≤ rows.length := by
  rw [numbers, present]
  exact (List.length_filterMap_le ..).trans
    ((List.length_filter_le ..).trans_eq (List.length_map ..))

/-- The value of a reduction of finite rows is not finite exactly if its additions leave the
range. -/
theorem Reducer.isFinite_apply_iff (r : Reducer) (hrows : FiniteRows rows) :
    (r.apply column rows).isFinite = false ↔ r.Overflows column rows := by
  have hfold {start : Float} (hstart : Number.isFinite start = true) :
      Number.isFinite ((numbers column rows).foldl (· + ·) start) = false ↔
        Number.LeavesRange (· + ·) start (numbers column rows) :=
    Number.isFinite_foldl_iff Number.not_isFinite_add hstart fun x hx => isFinite_of_mem_numbers hx
  have hsilent {c : Cell} (hc : c.isFinite = true) (hr : r.start? = none) :
      c.isFinite = false ↔ r.Overflows column rows := by
    refine iff_of_false (Bool.not_eq_false _ ▸ hc) ?_
    rintro ⟨start, hstart, -⟩
    rw [hr] at hstart
    cases hstart
  have hextreme (wanted : Ordering) :
      (extreme wanted (numbers column rows) (present column rows)).isFinite = true :=
    isFinite_extreme (fun x hx => isFinite_of_mem_numbers hx) fun c hc =>
      isFinite_of_mem_present hrows hc
  cases r with
  | count => exact hsilent (isFinite_ofCount _) rfl
  | distinctCount => exact hsilent (isFinite_ofCount _) rfl
  | min => exact hsilent (hextreme .lt) rfl
  | max => exact hsilent (hextreme .gt) rfl
  | sum =>
    refine (hfold (by decide +kernel)).trans ⟨fun h => ⟨_, rfl, h⟩, ?_⟩
    rintro ⟨start, ⟨⟩, h⟩
    exact h
  | avg =>
    have hstarts : Reducer.avg.Overflows column rows ↔
        Number.LeavesRange (· + ·) 0.0 (numbers column rows) := by
      refine ⟨?_, fun h => ⟨_, rfl, h⟩⟩
      rintro ⟨start, ⟨⟩, h⟩
      exact h
    rw [hstarts, ← hfold (by decide +kernel), apply]
    split
    · next hempty =>
      rw [List.isEmpty_iff.1 hempty]
      exact iff_of_false nofun (by decide +kernel)
    · next hempty =>
      have hpos : 0 < (numbers column rows).length :=
        List.length_pos_iff.2 fun h => hempty (List.isEmpty_iff.2 h)
      have hlt : (numbers column rows).length < 2 ^ 64 := length_numbers_le.trans_lt hrows.length_lt
      cases hsum : Number.isFinite ((numbers column rows).foldl (· + ·) 0.0) with
      | true =>
        exact iff_of_false (Bool.not_eq_false _ ▸ Number.isFinite_div_toFloat hsum hpos hlt) nofun
      | false => exact iff_of_true (Number.not_isFinite_div hsum (isFinite_ofCount _)) rfl

end

/-! ## Aggregations -/

/-- The rows that are reduced to one value each: all that pass, or those of each group. -/
def parts (a : Aggregation) (passing : List Row) : List (List Row) :=
  if a.function.grouped then (Groups.ofRows a.groupColumns passing).map Prod.snd else [passing]

/-- The additions of an aggregation leave the range on one of its parts. -/
def Overflows (a : Aggregation) (rows : List Row) : Prop :=
  ∃ passing, a.Passing rows passing ∧ ∃ part ∈ a.parts passing,
    a.function.reducer.Overflows a.column (distinctRows a.distinctColumn part)

/-- The cells of a value. -/
def Result.cells : Result → List Cell
  | .scalar c => [c]
  | .grouped groups => groups.map Group.value

section
variable {a : Aggregation} {rows passing part : List Row}

/-- A filter keeps some of the rows. -/
theorem Test.select_sublist {t : Test} (h : t.select rows = .ok passing) :
    passing.Sublist rows := by
  induction rows generalizing passing with
  | nil =>
    cases h
    exact List.Sublist.refl _
  | cons row rows ih =>
    rw [select] at h
    obtain ⟨keep, -, h⟩ := exists_of_bind_eq_ok h
    obtain ⟨rest, hselect, h⟩ := exists_of_bind_eq_ok h
    cases h
    have hrest := ih hselect
    cases keep with
    | true => exact hrest.cons_cons row
    | false => exact hrest.cons row

/-- What has not been met before are some of the rows. -/
theorem distinctAfter_sublist (column : String) (met : List (Option String)) (rows : List Row) :
    (distinctAfter column met rows).Sublist rows := by
  induction rows generalizing met with
  | nil => exact List.Sublist.refl _
  | cons row rows ih =>
    rw [distinctAfter]
    split
    · exact (ih met).cons row
    · exact (ih _).cons_cons row

/-- The rows that count are some of the rows. -/
theorem distinctRows_sublist (column : Option String) (rows : List Row) :
    (distinctRows column rows).Sublist rows := by
  cases column with
  | none => exact List.Sublist.refl _
  | some column => exact distinctAfter_sublist column [] rows

/-- Each part consists of some of the rows that pass. -/
theorem sublist_of_mem_parts (h : part ∈ a.parts passing) : part.Sublist passing := by
  unfold parts at h
  split at h
  · obtain ⟨⟨key, members⟩, hmem, rfl⟩ := List.mem_map.1 h
    obtain ⟨rfl, -⟩ := ((Groups.splits_ofRows a.groupColumns passing).mem_iff key members).1 hmem
    exact List.filter_sublist
  · exact List.mem_singleton.1 h ▸ List.Sublist.refl _

/-- An aggregation has one cell for each of its parts. -/
theorem compute_cells_iff {cs : List Cell} : (∃ r, a.compute rows = .ok r ∧ r.cells = cs) ↔
    ∃ passing, a.Passing rows passing ∧ cs = (a.parts passing).map a.reduced := by
  have hcells (passing : List Row) :
      (if a.function.grouped then Result.grouped (a.groupsOf passing)
        else .scalar (a.reduced passing)).cells = (a.parts passing).map a.reduced := by
    unfold parts
    split
    · rw [Result.cells, groupsOf, List.map_map, List.map_map]
      rfl
    · rfl
  constructor
  · rintro ⟨r, hr, rfl⟩
    obtain ⟨passing, hpassing, rfl⟩ := compute_eq_ok_iff.1 hr
    exact ⟨passing, hpassing, hcells passing⟩
  · rintro ⟨passing, hpassing, rfl⟩
    exact ⟨_, compute_eq_ok_iff.2 ⟨passing, hpassing, rfl⟩, hcells passing⟩

/-- Over finite rows an aggregation has a value that is not finite exactly if its additions leave
the range on one of its parts. -/
theorem compute_isFinite_iff (a : Aggregation) (hrows : FiniteRows rows) :
    (∃ r, a.compute rows = .ok r ∧ ∃ c ∈ r.cells, c.isFinite = false) ↔ a.Overflows rows := by
  have hpart {passing : List Row} (hpassing : a.Passing rows passing) {part : List Row}
      (hmem : part ∈ a.parts passing) : (a.reduced part).isFinite = false ↔
        a.function.reducer.Overflows a.column (distinctRows a.distinctColumn part) := by
    obtain ⟨test, -, hselect⟩ := hpassing
    exact a.function.reducer.isFinite_apply_iff <| hrows.sublist <|
      (distinctRows_sublist _ _).trans
      ((sublist_of_mem_parts hmem).trans (Test.select_sublist hselect))
  constructor
  · rintro ⟨r, hr, c, hc, hfinite⟩
    obtain ⟨passing, hpassing, hcells⟩ := compute_cells_iff.1 ⟨r, hr, rfl⟩
    rw [hcells] at hc
    obtain ⟨part, hmem, rfl⟩ := List.mem_map.1 hc
    exact ⟨passing, hpassing, part, hmem, (hpart hpassing hmem).1 hfinite⟩
  · rintro ⟨passing, hpassing, part, hmem, hover⟩
    obtain ⟨r, hr, hcells⟩ := compute_cells_iff.2 ⟨passing, hpassing, rfl⟩
    exact ⟨r, hr, a.reduced part, hcells ▸ List.mem_map_of_mem hmem, (hpart hpassing hmem).2 hover⟩

end

end Aggregation

end RowAudit
