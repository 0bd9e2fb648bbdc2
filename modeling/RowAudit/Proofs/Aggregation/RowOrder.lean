import Mathlib.Data.Finset.Card
import Mathlib.Data.List.Perm.Basic
import RowAudit.Proofs.Aggregation.Extremes

/-!
# Aggregations and the order of rows

What a filter keeps, and how rows are split into groups, follows the order of the rows only inside a
group. Counts do not see that order, and the extremes of the same numbers are equal, whichever of
them comes first (`Reducer.Orderless`). So an aggregation by such a reducer has one value for all
orders of the rows (`compute_perm`), if none of them is dropped for another one.
-/

namespace RowAudit.Aggregation

/-! ## Rows that pass -/

section
variable {a : Aggregation} {test : Test} {rows rows' passing : List Row}

/-- A filter succeeds exactly if it fails on no row, and then keeps those that it accepts. -/
theorem Test.select_eq_ok_iff :
    test.select rows = .ok passing ↔ test.Settles rows ∧ passing = rows.filter test.accepts := by
  constructor
  · intro h
    have hsettles : test.Settles rows := by
      induction rows generalizing passing with
      | nil => exact nofun
      | cons row rest ih =>
        obtain ⟨keep, hkeep, h⟩ := exists_of_bind_eq_ok h
        obtain ⟨kept, hkept, -⟩ := exists_of_bind_eq_ok h
        exact List.forall_mem_cons.2 ⟨⟨keep, hkeep⟩, ih hkept⟩
    rw [select_of_settles hsettles] at h
    exact ⟨hsettles, (Except.ok.inj h).symm⟩
  · rintro ⟨hsettles, rfl⟩
    exact select_of_settles hsettles

/-- The rows that pass are some of the rows. -/
theorem Passing.subset (h : a.Passing rows passing) : passing ⊆ rows := by
  obtain ⟨test, -, hselect⟩ := h
  exact (Test.select_sublist hselect).subset

/-- A filter that fails on none of the rows keeps the same rows of them in any order. -/
theorem Passing.perm (h : a.Passing rows passing) (hperm : rows.Perm rows') :
    ∃ passing', a.Passing rows' passing' ∧ passing.Perm passing' := by
  obtain ⟨test, htest, hselect⟩ := h
  obtain ⟨hsettles, rfl⟩ := Test.select_eq_ok_iff.1 hselect
  refine ⟨rows'.filter test.accepts, ⟨test, htest, Test.select_of_settles fun row hrow => ?_⟩,
    hperm.filter _⟩
  exact hsettles row (hperm.mem_iff.2 hrow)

end

/-! ## Groups of rows -/

/-- Groups with one key and equal values. -/
structure Group.Same (g h : Group) : Prop where
  key : g.key = h.key
  value : g.value.same h.value = true

/-- Equal values, or equal groups in one order. -/
inductive Result.Same : Result → Result → Prop
  | scalar {c d : Cell} (h : c.same d = true) : Same (.scalar c) (.scalar d)
  | grouped {gs hs : List Group} (h : List.Forall₂ Group.Same gs hs) :
      Same (.grouped gs) (.grouped hs)

section
variable {columns : List String} {rows rows' : List Row} {a : Aggregation}

/-- The groups have the same keys for all orders of the rows. -/
theorem Groups.keys_perm (columns : List String) (hperm : rows.Perm rows') :
    (ofRows columns rows).map Prod.fst = (ofRows columns rows').map Prod.fst := by
  have hascending (rows : List Row) : ((ofRows columns rows).map Prod.fst).Pairwise (· < ·) :=
    List.pairwise_map.2 (splits_ofRows columns rows).ascending
  refine (hascending rows).eq_of_mem_iff (hascending rows') fun key => ?_
  rw [(splits_ofRows columns rows).mem_keys, (splits_ofRows columns rows').mem_keys]
  simp only [hperm.mem_iff]

/-- The groups with values come from their keys and the rows alone. -/
theorem groupsOf_eq_map (a : Aggregation) (rows : List Row) :
    a.groupsOf rows = ((Groups.ofRows a.groupColumns rows).map Prod.fst).map fun key =>
      ⟨key, a.reduced (rows.filter fun row => groupKey a.groupColumns row = key)⟩ := by
  rw [groupsOf, List.map_map]
  refine List.map_congr_left fun g hg => ?_
  obtain ⟨hmembers, -⟩ := ((Groups.splits_ofRows a.groupColumns rows).mem_iff g.1 g.2).1 hg
  rw [Function.comp_apply, ← hmembers]

/-- Groups are the same for all orders of the rows if their values are. -/
theorem groupsOf_perm (hperm : rows.Perm rows') (hreduced : ∀ {members members' : List Row},
      members ⊆ rows → members.Perm members' →
        (a.reduced members).same (a.reduced members') = true) :
    List.Forall₂ Group.Same (a.groupsOf rows) (a.groupsOf rows') := by
  rw [groupsOf_eq_map, groupsOf_eq_map, ← Groups.keys_perm a.groupColumns hperm,
    List.forall₂_map_left_iff, List.forall₂_map_right_iff, List.forall₂_same]
  exact fun key _ => ⟨rfl, hreduced (List.filter_subset_self _) (hperm.filter _)⟩

end

/-! ## Reductions -/

/-- Without repetitions each key occurs once. -/
theorem nodup_eraseDups (keys : List String) : keys.eraseDups.Nodup := by
  cases keys with
  | nil => exact .nil
  | cons key rest =>
    rw [List.eraseDups_cons, List.nodup_cons]
    exact ⟨by simp, nodup_eraseDups _⟩
termination_by keys.length
decreasing_by exact Nat.lt_succ_of_le (List.length_filter_le _ _)

/-- A distinct count is the number of different keys. -/
theorem length_eraseDups (keys : List String) : keys.eraseDups.length = keys.toFinset.card := by
  have hsame : keys.eraseDups.toFinset = keys.toFinset := by
    ext key
    simp
  rw [← hsame, List.toFinset_card_of_nodup (nodup_eraseDups keys)]

/-- The reducers whose value does not depend on the order of the rows: counts, and extremes of a
column in which every present cell is a number. -/
inductive Reducer.Orderless (column : String) (rows : List Row) : Reducer → Prop
  | count : Orderless column rows .count
  | distinctCount : Orderless column rows .distinctCount
  | extreme {r : Reducer} {wanted : Ordering} (hwanted : r.wanted? = some wanted)
      (hnumeric : ∀ row ∈ rows, (row.get column).isAbsent = false →
        (row.get column).number?.isSome = true) :
      Orderless column rows r

section
variable {column : String} {rows rows' : List Row} {r : Reducer} {wanted : Ordering}

/-- A reducer that does not see the order of rows does not see that of some of them. -/
theorem Reducer.Orderless.of_subset (h : r.Orderless column rows) (hsub : rows' ⊆ rows) :
    r.Orderless column rows' := by
  cases h with
  | count => exact .count
  | distinctCount => exact .distinctCount
  | extreme hwanted hnumeric => exact .extreme hwanted fun row hrow => hnumeric row (hsub hrow)

/-- Rows in another order have the same present cells. -/
theorem present_perm (column : String) (hperm : rows.Perm rows') :
    (present column rows).Perm (present column rows') := (hperm.map _).filter _

/-- Rows in another order have the same numbers. -/
theorem numbers_perm (column : String) (hperm : rows.Perm rows') :
    (numbers column rows).Perm (numbers column rows') := (present_perm column hperm).filterMap _

/-- Rows in another order have the same candidates. -/
theorem candidates_perm (column : String) (hperm : rows.Perm rows') :
    (candidates column rows).Perm (candidates column rows') := by
  have hnumbers := numbers_perm column hperm
  rw [candidates, candidates, hnumbers.isEmpty_eq]
  split
  · exact present_perm column hperm
  · exact hnumbers.map _

/-- Where all present cells are numbers, these are the candidates. -/
theorem candidates_of_numeric (hnumeric : ∀ row ∈ rows, (row.get column).isAbsent = false →
      (row.get column).number?.isSome = true) :
    candidates column rows = (numbers column rows).map .number := by
  obtain ⟨-, hcandidates⟩ | ⟨hnumbers, hcandidates, hplain⟩ := candidates_cases column rows
  · exact hcandidates
  · rw [hcandidates, hnumbers, List.map_nil, List.eq_nil_iff_forall_not_mem]
    intro c hc
    obtain ⟨row, hrow, rfl, hpresent⟩ := mem_present.1 hc
    have hnumber := hnumeric row hrow hpresent
    rw [hplain _ hc] at hnumber
    cases hnumber

/-- Two cells of which neither is in the wanted order to the other are equal. -/
theorem order?_eq_of_unbeaten {c d : Cell} (hc : c.isAbsent = false) (hd : d.isAbsent = false)
    (ho : wanted ≠ .eq) (hcd : Cell.order? .exact c d ≠ some wanted)
    (hdc : Cell.order? .exact d c ≠ some wanted) : Cell.order? .exact c d = some .eq := by
  obtain ⟨o, horder⟩ := Option.isSome_iff_exists.1 (Cell.order?_isSome (p := .exact) hc hd)
  rw [Cell.order?_swap .exact c d] at hdc
  rw [horder] at hcd hdc ⊢
  revert ho hcd hdc
  cases o <;> cases wanted <;> decide

/-- For every order of the rows an extreme of undivided candidates is one of them, and these
extremes are equal. -/
theorem extreme_perm (hwanted : r.wanted? = some wanted)
    (hwhole : ¬ Cell.Divided (candidates column rows)) (hne : candidates column rows ≠ [])
    (hperm : rows.Perm rows') : r.apply column rows' ∈ candidates column rows ∧
      Cell.order? .exact (r.apply column rows) (r.apply column rows') = some .eq := by
  have hcandidates := candidates_perm column hperm
  have hwhole' : ¬ Cell.Divided (candidates column rows') := by
    simpa only [Cell.Divided, hcandidates.mem_iff] using hwhole
  have hmem := apply_mem_candidates hwanted hne
  have hmem' : r.apply column rows' ∈ candidates column rows' :=
    apply_mem_candidates hwanted fun hnil => hne (hnil ▸ hcandidates).eq_nil
  refine ⟨hcandidates.mem_iff.2 hmem', ?_⟩
  exact order?_eq_of_unbeaten (isAbsent_of_mem_candidates hmem) (isAbsent_of_mem_candidates hmem')
    (Reducer.ne_eq_of_wanted? hwanted)
    (apply_unbeaten hwanted hwhole' _ (hcandidates.mem_iff.1 hmem))
    (apply_unbeaten hwanted hwhole _ (hcandidates.mem_iff.2 hmem'))

/-- Two numbers are the same cell if they are equal in order. -/
theorem same_number_iff {x y : Float} :
    (Cell.number x).same (.number y) = true ↔ Number.order x y = some .eq := by
  rw [Number.order_eq_some_eq_iff_compare, ← Number.beq_iff_compare]
  rfl

/-- A count is the same cell as itself. -/
theorem same_count (n : Nat) : (Cell.number (ofCount n)).same (.number (ofCount n)) = true :=
  same_number_iff.2 (Number.order_self (isFinite_ofCount n))

/-- A reducer that does not see the order of rows has the same value for rows in another order. -/
theorem Reducer.Orderless.apply_same (h : r.Orderless column rows) (hperm : rows.Perm rows') :
    (r.apply column rows).same (r.apply column rows') = true := by
  have hpresent := present_perm column hperm
  cases h with
  | count =>
    rw [apply, apply, hperm.length_eq, hpresent.length_eq]
    exact same_count _
  | distinctCount =>
    rw [apply, apply, length_eraseDups, length_eraseDups,
      List.toFinset_eq_of_perm _ _ (hpresent.filterMap Cell.key?)]
    exact same_count _
  | extreme hwanted hnumeric =>
    have hnumbers := candidates_of_numeric hnumeric
    by_cases hne : candidates column rows = []
    · have hne' : candidates column rows' = [] := (hne ▸ candidates_perm column hperm).symm.eq_nil
      rw [apply_of_wanted? hwanted, apply_of_wanted? hwanted, hne, hne']
      rfl
    · have hmem := apply_mem_candidates hwanted hne
      obtain ⟨hmem', hequal⟩ :=
        extreme_perm hwanted (hnumbers ▸ not_divided_numbers column rows) hne hperm
      obtain ⟨x, hx, hvalue⟩ := exists_number_of_mem_map (hnumbers ▸ hmem)
      obtain ⟨y, hy, hvalue'⟩ := exists_number_of_mem_map (hnumbers ▸ hmem')
      rw [hvalue, hvalue'] at hequal ⊢
      rw [Cell.order?_number hx hy] at hequal
      exact same_number_iff.2 hequal

end

/-! ## All orders of the rows -/

section
variable {a : Aggregation} {rows rows' : List Row}

/-- An aggregation that has a value has the same one for rows in another order, if its reducer does
not see their order. -/
theorem compute_same (hdistinct : a.distinctColumn = none)
    (hreducer : a.function.reducer.Orderless a.column rows) (hperm : rows.Perm rows') {r : Result}
    (hr : a.compute rows = .ok r) : ∃ r', a.compute rows' = .ok r' ∧ r.Same r' := by
  obtain ⟨passing, hpassing, rfl⟩ := compute_eq_ok_iff.1 hr
  obtain ⟨passing', hpassing', hkept⟩ := hpassing.perm hperm
  have hreduced {members members' : List Row} (hsub : members ⊆ passing)
      (h : members.Perm members') : (a.reduced members).same (a.reduced members') = true := by
    rw [reduced, reduced, hdistinct]
    exact (hreducer.of_subset (List.Subset.trans hsub hpassing.subset)).apply_same h
  refine ⟨_, compute_eq_ok_iff.2 ⟨passing', hpassing', rfl⟩, ?_⟩
  split
  · exact .grouped (groupsOf_perm hkept hreduced)
  · exact .scalar (hreduced (List.Subset.refl _) hkept)

/-- A count, a distinct count, or an extreme of a column in which every present cell is a number,
over all rows or by groups, after any filter and with no column of distinct cells: for any two
orders of the same rows either both fail, or both give the same value, or the same groups in the
same order. -/
theorem compute_perm (hdistinct : a.distinctColumn = none)
    (hreducer : a.function.reducer.Orderless a.column rows) (hperm : rows.Perm rows') :
    Option.Rel Result.Same (a.compute rows).toOption (a.compute rows').toOption := by
  cases hr : a.compute rows with
  | ok r =>
    obtain ⟨r', hr', hsame⟩ := compute_same hdistinct hreducer hperm hr
    rw [hr']
    exact .some hsame
  | error fault =>
    cases hr' : a.compute rows' with
    | error fault' => exact .none
    | ok r' =>
      obtain ⟨r, hok, -⟩ :=
        compute_same hdistinct (hreducer.of_subset hperm.symm.subset) hperm.symm hr'
      rw [hr] at hok
      cases hok

end

/-- The highest reading of each station below 40. -/
def highest : Aggregation where
  function := ⟨true, .max⟩
  column := "reading"
  filter := some (.conditions [⟨"reading", .less, .number 40⟩] .and)
  groupColumns := ["station"]

/-- Readings, of which one station has two zeros. -/
def readings : List Row :=
  [.ofList [("station", .text "n"), ("reading", .text "7.0")],
   .ofList [("station", .text "s"), ("reading", .number 0.0)],
   .ofList [("station", .text "n"), ("reading", .number 41)],
   .ofList [("station", .text "s"), ("reading", .number (-0.0))],
   .ofList [("station", .text "s"), ("reading", .null)]]

/-- Read from the last to the first, the readings have the same highest ones. -/
theorem compute_perm_readings :
    (highest.distinctColumn = none ∧ highest.function.reducer.Orderless "reading" readings ∧
      readings.Perm readings.reverse) ∧
    ∃ r r', highest.compute readings = .ok r ∧ highest.compute readings.reverse = .ok r' ∧
      r.Same r' := by
  have hnumeric : ∀ row ∈ readings, (row.get "reading").isAbsent = false →
      (row.get "reading").number?.isSome = true := by decide +kernel
  have hreducer : highest.function.reducer.Orderless "reading" readings := .extreme rfl hnumeric
  have hperm : readings.Perm readings.reverse := (List.reverse_perm readings).symm
  refine ⟨⟨rfl, hreducer, hperm⟩, ?_⟩
  have hsame := compute_perm (a := highest) rfl hreducer hperm
  have hok : (highest.compute readings).toOption.isSome = true := by decide +kernel
  cases hr : highest.compute readings with
  | error fault =>
    rw [hr] at hok
    cases hok
  | ok r =>
    cases hr' : highest.compute readings.reverse with
    | error fault =>
      rw [hr, hr'] at hsame
      cases hsame
    | ok r' =>
      rw [hr, hr'] at hsame
      cases hsame with
      | some hsame => exact ⟨r, r', rfl, rfl, hsame⟩

end RowAudit.Aggregation
