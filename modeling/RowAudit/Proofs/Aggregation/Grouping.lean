import RowAudit.Aggregation.Compute
import RowAudit.Proofs.Cell.Keys
import RowAudit.Proofs.Cell.ReadingBack

/-!
# Groups of rows

A grouped aggregation splits the rows that pass its filter by their keys. The groups stand in
ascending order of the keys, and the group of a key holds the rows with this key in the order of the
table (`Groups.Splits`): each row that is added keeps that, so all of them do. The value of a group
is what the aggregation without groups gives for the rows of the group alone
(`Aggregation.compute_groups`).
-/

namespace RowAudit

open Formula (Fault)

/-! ## Keys of rows -/

/-- A list of texts is the key of a row: for every column the join key of the cell, or the empty
text if the cell is absent. -/
def Row.HasKey (row : Row) (columns key : List String) : Prop :=
  List.Forall₂ (fun column part =>
    if part = "" then (row.get column).isAbsent = true else (row.get column).key? = some part)
    columns key

/-- No present cell has the empty text for its part of a key. -/
theorem Cell.key?_getD_eq_iff {c : Cell} {part : String} : c.key?.getD "" = part ↔
    if part = "" then c.isAbsent = true else c.key? = some part := by
  split
  · next hpart =>
    subst hpart
    rw [← key?_eq_none_iff]
    cases hkey : c.key? with
    | none => exact iff_of_true rfl rfl
    | some k =>
      refine iff_of_false (fun hk => c.key?_ne_empty ?_) nofun
      rw [hkey]
      exact congrArg some hk
  · next hpart =>
    cases c.key? with
    | none => exact iff_of_false (fun h => hpart h.symm) nofun
    | some k => exact Option.some_inj.symm

/-- The key of a row is the one by which it is grouped. -/
theorem Row.hasKey_iff {row : Row} {columns key : List String} :
    row.HasKey columns key ↔ Aggregation.groupKey columns row = key := by
  induction columns generalizing key with
  | nil =>
    constructor
    · rintro ⟨⟩
      rfl
    · rintro rfl
      exact .nil
  | cons column columns ih =>
    constructor
    · intro h
      cases h with
      | cons hpart hrest => exact List.cons_eq_cons.2 ⟨Cell.key?_getD_eq_iff.2 hpart, ih.1 hrest⟩
    · rintro rfl
      exact .cons (Cell.key?_getD_eq_iff.1 rfl) (ih.2 rfl)

instance (row : Row) (columns key : List String) : Decidable (row.HasKey columns key) :=
  decidable_of_iff _ Row.hasKey_iff.symm

namespace Aggregation

/-! ## Splitting rows -/

namespace Groups

/-- The rows under a key. -/
def rowsOf (key : List String) : Groups → List Row
  | [] => []
  | (k, rows) :: rest => if key = k then rows else rowsOf key rest

/-- Groups with the keys in strictly ascending order. -/
def Ascending (groups : Groups) : Prop := groups.Pairwise fun g h => g.1 < h.1

/-- Groups are some rows split by their keys: a key has a group if there is a row with it, and then
the group holds all rows with it, in their order. -/
structure Splits (columns : List String) (rows : List Row) (groups : Groups) : Prop where
  ascending : groups.Ascending
  mem_iff : ∀ key members, (key, members) ∈ groups ↔
    members = rows.filter (fun row => groupKey columns row = key) ∧ members ≠ []

section
variable {groups : Groups} {key : List String} {row : Row} {g : List String × List Row}

/-- Under the key of a group are its rows. -/
theorem rowsOf_of_mem (h : groups.Ascending) (hg : g ∈ groups) : groups.rowsOf g.1 = g.2 := by
  induction groups with
  | nil => cases hg
  | cons d rest ih =>
    obtain ⟨hd, hrest⟩ := List.pairwise_cons.1 h
    rw [rowsOf]
    rcases List.mem_cons.1 hg with rfl | hg
    · exact if_pos rfl
    · rw [if_neg (hd g hg).ne', ih hrest hg]

/-- Under a key that no group has there are no rows. -/
theorem rowsOf_eq_nil (h : ∀ g ∈ groups, g.1 ≠ key) : groups.rowsOf key = [] := by
  induction groups with
  | nil => rfl
  | cons d rest ih =>
    rw [rowsOf, if_neg (h d List.mem_cons_self).symm,
      ih fun g hg => h g (List.mem_cons_of_mem _ hg)]

/-- A row is added at the end of the group of its key, and all other groups stay. -/
theorem mem_add (h : groups.Ascending) : g ∈ groups.add key row ↔
    g.1 ≠ key ∧ g ∈ groups ∨ g = (key, groups.rowsOf key ++ [row]) := by
  induction groups with
  | nil => simp [add, rowsOf]
  | cons d rest ih =>
    obtain ⟨k, rows⟩ := d
    obtain ⟨hd, hrest⟩ := List.pairwise_cons.1 h
    rw [add, rowsOf]
    split
    · next hlt =>
      have hother : ∀ g ∈ (k, rows) :: rest, g.1 ≠ key := by
        intro g hg
        rcases List.mem_cons.1 hg with rfl | hg
        · exact hlt.ne'
        · exact (hlt.trans (hd g hg)).ne'
      have hrows : rowsOf key rest = [] :=
        rowsOf_eq_nil fun g hg => hother g (List.mem_cons_of_mem _ hg)
      rw [if_neg hlt.ne, hrows, List.mem_cons, List.nil_append, or_comm,
        and_iff_right_of_imp (hother g)]
    · split
      · next heq =>
        subst heq
        have hother : ∀ g ∈ rest, g.1 ≠ key := fun g hg => (hd g hg).ne'
        have hsplit : g.1 ≠ key ∧ g ∈ (key, rows) :: rest ↔ g ∈ rest := by
          rw [List.mem_cons]
          refine ⟨fun ⟨hne, hg⟩ => hg.resolve_left ?_, fun hg => ⟨hother g hg, .inr hg⟩⟩
          rintro rfl
          exact hne rfl
        rw [hsplit, List.mem_cons, or_comm]
      · next hne =>
        have hk : g = (k, rows) → g.1 ≠ key := by
          rintro rfl
          exact fun h => hne h.symm
        rw [List.mem_cons, ih hrest, List.mem_cons, and_or_left, and_iff_right_of_imp hk, or_assoc]

/-- Adding a row keeps the keys in ascending order. -/
theorem Ascending.add (h : groups.Ascending) (key : List String) (row : Row) :
    Ascending (groups.add key row) := by
  induction groups with
  | nil => exact List.pairwise_singleton _ _
  | cons d rest ih =>
    obtain ⟨k, rows⟩ := d
    obtain ⟨hd, hrest⟩ := List.pairwise_cons.1 h
    rw [Groups.add]
    split
    · next hlt =>
      refine List.pairwise_cons.2 ⟨fun g hg => ?_, h⟩
      rcases List.mem_cons.1 hg with rfl | hg
      · exact hlt
      · exact hlt.trans (hd g hg)
    · next hnlt =>
      split
      · exact List.pairwise_cons.2 ⟨hd, hrest⟩
      · next hne =>
        refine List.pairwise_cons.2 ⟨fun g hg => ?_, ih hrest⟩
        rcases (mem_add hrest).1 hg with ⟨-, hg⟩ | rfl
        · exact hd g hg
        · exact lt_of_le_of_ne (not_lt.1 hnlt) fun h => hne h.symm

end

section
variable {columns : List String} {rows : List Row} {groups : Groups}

/-- Under a key are the rows with that key. -/
theorem Splits.rowsOf_eq (h : groups.Splits columns rows) (key : List String) :
    groups.rowsOf key = rows.filter fun row => groupKey columns row = key := by
  by_cases hrows : rows.filter (fun row => groupKey columns row = key) = []
  · refine (rowsOf_eq_nil ?_).trans hrows.symm
    rintro ⟨k, members⟩ hg rfl
    obtain ⟨hmembers, hne⟩ := (h.mem_iff _ _).1 hg
    exact hne (hmembers.trans hrows)
  · exact rowsOf_of_mem h.ascending ((h.mem_iff key _).2 ⟨rfl, hrows⟩)

/-- Rows stay split when one more is added. -/
theorem Splits.add (h : groups.Splits columns rows) (row : Row) :
    (groups.add (groupKey columns row) row).Splits columns (rows ++ [row]) where
  ascending := h.ascending.add _ row
  mem_iff key members := by
    rw [mem_add h.ascending, h.rowsOf_eq, List.filter_append, h.mem_iff]
    by_cases hkey : groupKey columns row = key
    · subst hkey
      simp +contextual
    · simp [hkey, Ne.symm hkey]

/-- Grouping rows splits them by their keys. -/
theorem splits_ofRows (columns : List String) (rows : List Row) :
    (ofRows columns rows).Splits columns rows := by
  have hempty : Splits columns [] [] := ⟨.nil, fun key members => by simp⟩
  have hadded : ∀ (rest done : List Row) (groups : Groups), groups.Splits columns done →
      (rest.foldl (fun groups row => groups.add (groupKey columns row) row) groups).Splits columns
        (done ++ rest) := by
    intro rest
    induction rest with
    | nil => simp
    | cons row rest ih =>
      intro done groups h
      simpa using ih _ _ (h.add row)
  exact hadded rows [] [] hempty

/-- A key has a group exactly if a row has the key. -/
theorem Splits.mem_keys (h : groups.Splits columns rows) (key : List String) :
    key ∈ groups.map Prod.fst ↔ ∃ row ∈ rows, groupKey columns row = key := by
  constructor
  · intro hkey
    obtain ⟨⟨k, members⟩, hg, rfl⟩ := List.mem_map.1 hkey
    obtain ⟨hmembers, hne⟩ := (h.mem_iff _ _).1 hg
    obtain ⟨row, hrow⟩ := List.exists_mem_of_ne_nil _ hne
    rw [hmembers] at hrow
    obtain ⟨hrow, hkey⟩ := List.mem_filter.1 hrow
    exact ⟨row, hrow, of_decide_eq_true hkey⟩
  · rintro ⟨row, hrow, hkey⟩
    refine List.mem_map.2 ⟨(key, _), (h.mem_iff key _).2 ⟨rfl, ?_⟩, rfl⟩
    exact List.ne_nil_of_mem (List.mem_filter.2 ⟨hrow, decide_eq_true hkey⟩)

/-- Adding a row makes the groups longer by one row together. -/
theorem sum_length_add (key : List String) (row : Row) (groups : Groups) :
    ((groups.add key row).map (·.2.length)).sum = (groups.map (·.2.length)).sum + 1 := by
  induction groups with
  | nil => rfl
  | cons d rest ih =>
    obtain ⟨k, rows⟩ := d
    rw [add]
    split
    · simp
      omega
    · split
      · simp
        omega
      · rw [List.map_cons, List.sum_cons, ih, List.map_cons, List.sum_cons, Nat.add_assoc]

/-- Every row is in one group. -/
theorem sum_length_ofRows (columns : List String) (rows : List Row) :
    ((ofRows columns rows).map (·.2.length)).sum = rows.length := by
  have hadded : ∀ (rest : List Row) (groups : Groups),
      ((rest.foldl (fun groups row => groups.add (groupKey columns row) row) groups).map
        (·.2.length)).sum = (groups.map (·.2.length)).sum + rest.length := by
    intro rest
    induction rest with
    | nil => simp
    | cons row rest ih =>
      intro groups
      rw [List.foldl_cons, ih, sum_length_add, List.length_cons]
      omega
  exact (hadded rows []).trans (Nat.zero_add _)

end

end Groups

/-! ## Rows that pass -/

namespace Test

/-- Whether a row passes. One on which the test fails does not. -/
def accepts (t : Test) (row : Row) : Bool :=
  match t.passes row with
  | .ok verdict => verdict
  | .error _ => false

/-- The test fails on none of the rows. -/
def Settles (t : Test) (rows : List Row) : Prop :=
  ∀ row ∈ rows, ∃ verdict, t.passes row = .ok verdict

variable {t : Test} {rows : List Row}

/-- A filter that fails on no row keeps those that it accepts. -/
theorem select_of_settles (h : t.Settles rows) : t.select rows = .ok (rows.filter t.accepts) := by
  induction rows with
  | nil => rfl
  | cons row rest ih =>
    obtain ⟨verdict, hrow⟩ := h row List.mem_cons_self
    have haccepts : t.accepts row = verdict := by rw [accepts, hrow]
    rw [select, hrow, ih fun r hr => h r (List.mem_cons_of_mem _ hr), List.filter_cons, haccepts]
    rfl

/-- A selection fails with the first fault. -/
theorem select_of_fault {before : List Row} {row : Row} {fault : Fault} (h : t.Settles before)
    (hrow : t.passes row = .error fault) (after : List Row) :
    t.select (before ++ row :: after) = .error fault := by
  induction before with
  | nil =>
    rw [List.nil_append, select, hrow]
    rfl
  | cons r before ih =>
    obtain ⟨verdict, hr⟩ := h r List.mem_cons_self
    rw [List.cons_append, select, hr, ih fun r hr => h r (List.mem_cons_of_mem _ hr)]
    rfl

/-- The rows that pass, from the verdicts on all of them. -/
theorem select_of_verdicts {verdicts : List Bool}
    (h : rows.map (fun row => (t.passes row).toOption) = verdicts.map some) :
    t.select rows = .ok (((rows.zip verdicts).filter Prod.snd).map Prod.fst) := by
  induction rows generalizing verdicts with
  | nil =>
    obtain rfl : verdicts = [] := List.map_eq_nil_iff.1 h.symm
    rfl
  | cons row rest ih =>
    obtain ⟨v, vs, rfl, hv, hvs⟩ := List.map_eq_cons_iff.1 h.symm
    change some v = (t.passes row).toOption at hv
    have hrow : t.passes row = .ok v := by
      cases hpasses : t.passes row with
      | error fault =>
        rw [hpasses] at hv
        cases hv
      | ok verdict =>
        rw [hpasses] at hv
        cases hv
        rfl
    rw [select, hrow, ih hvs.symm]
    cases v <;> rfl

end Test

/-! ## Values of groups -/

/-- The reduction of rows to one cell. -/
def reduced (a : Aggregation) (rows : List Row) : Cell :=
  a.function.reducer.apply a.column (distinctRows a.distinctColumn rows)

/-- The groups of rows with their values. -/
def groupsOf (a : Aggregation) (rows : List Row) : List Group :=
  (Groups.ofRows a.groupColumns rows).map fun g => ⟨g.1, a.reduced g.2⟩

/-- The aggregation of the same column by the same reducer over all rows that it is given. -/
def ungrouped (a : Aggregation) : Aggregation :=
  { a with function := ⟨false, a.function.reducer⟩, filter := none }

section
variable {a : Aggregation} {test : Test} {rows : List Row}

/-- The rows that pass the filter of an aggregation. -/
def Passing (a : Aggregation) (rows passing : List Row) : Prop :=
  ∃ test, Test.ofFilter a.filter = .ok test ∧ test.select rows = .ok passing

/-- The rows that pass can be told from the verdicts on all of them. -/
theorem passing_of_verdicts {verdicts : List Bool}
    (h : ((Test.ofFilter a.filter).toOption.map fun t =>
      rows.map fun row => (t.passes row).toOption) = some (verdicts.map some)) :
    a.Passing rows (((rows.zip verdicts).filter Prod.snd).map Prod.fst) := by
  cases htest : Test.ofFilter a.filter with
  | error fault =>
    rw [htest] at h
    cases h
  | ok test =>
    rw [htest] at h
    exact ⟨test, htest, Test.select_of_verdicts (Option.some.inj h)⟩

/-- An aggregation is computed over the rows that pass, as a whole or by groups. -/
theorem compute_eq_ok_iff {r : Result} :
    a.compute rows = .ok r ↔ ∃ passing, a.Passing rows passing ∧
      r = if a.function.grouped then .grouped (a.groupsOf passing)
        else .scalar (a.reduced passing) := by
  have hcompute (test : Test) (passing : List Row) (htest : Test.ofFilter a.filter = .ok test)
      (hselect : test.select rows = .ok passing) : a.compute rows =
        .ok (if a.function.grouped then .grouped (a.groupsOf passing)
          else .scalar (a.reduced passing)) := by
    rw [compute, htest]
    show (test.select rows >>= _) = _
    rw [hselect]
    show (if _ then _ else _) = _
    split <;> rfl
  constructor
  · intro hr
    cases htest : Test.ofFilter a.filter with
    | error fault =>
      rw [compute, htest] at hr
      cases hr
    | ok test =>
      cases hselect : test.select rows with
      | error fault =>
        rw [compute, htest] at hr
        change (test.select rows >>= _) = _ at hr
        rw [hselect] at hr
        cases hr
      | ok passing =>
        rw [hcompute test passing htest hselect] at hr
        exact ⟨passing, ⟨test, htest, hselect⟩, (Except.ok.inj hr).symm⟩
  · rintro ⟨passing, ⟨test, htest, hselect⟩, rfl⟩
    exact hcompute test passing htest hselect

/-- Without groups and filter the value is the reduction of the rows. -/
theorem compute_ungrouped (a : Aggregation) (rows : List Row) :
    a.ungrouped.compute rows = .ok (.scalar (a.reduced rows)) := by
  have hselect : Test.always.select rows = .ok rows := by
    have hall : rows.filter Test.always.accepts = rows := List.filter_eq_self.2 fun _ _ => rfl
    rw [Test.select_of_settles fun _ _ => ⟨true, rfl⟩, hall]
  exact compute_eq_ok_iff.2 ⟨rows, ⟨_, rfl, hselect⟩, rfl⟩

/-- The groups with values have the keys of the groups. -/
theorem keys_groupsOf (a : Aggregation) (rows : List Row) :
    (a.groupsOf rows).map Group.key = (Groups.ofRows a.groupColumns rows).map Prod.fst := by
  rw [groupsOf, List.map_map]
  rfl

/-- Groups with values stand in strictly ascending order of their keys. -/
theorem ascending_groupsOf (a : Aggregation) (rows : List Row) :
    ((a.groupsOf rows).map Group.key).Pairwise (· < ·) := by
  rw [keys_groupsOf, List.pairwise_map]
  exact (Groups.splits_ofRows a.groupColumns rows).ascending

/-- There is a group for each key of a row. -/
theorem mem_keys_groupsOf (a : Aggregation) (rows : List Row) (key : List String) :
    key ∈ (a.groupsOf rows).map Group.key ↔ ∃ row ∈ rows, row.HasKey a.groupColumns key := by
  rw [keys_groupsOf, (Groups.splits_ofRows a.groupColumns rows).mem_keys]
  exact exists_congr fun row => and_congr_right fun _ => Row.hasKey_iff.symm

/-- The value of a group is that of its rows alone. -/
theorem value_of_mem_groupsOf {g : Group} (hg : g ∈ a.groupsOf rows) :
    g.value = a.reduced (rows.filter fun row => row.HasKey a.groupColumns g.key) := by
  obtain ⟨⟨key, members⟩, hmem, rfl⟩ := List.mem_map.1 hg
  obtain ⟨rfl, -⟩ := ((Groups.splits_ofRows a.groupColumns rows).mem_iff key members).1 hmem
  simp only [Row.hasKey_iff]

/-- The counts of the rows of all groups add up to the number of rows. -/
theorem exists_counts (hreducer : a.function.reducer = .count) (hcolumn : a.column = "*")
    (hdistinct : a.distinctColumn = none) (rows : List Row) :
    ∃ counts : List Nat,
      (a.groupsOf rows).map Group.value = counts.map (fun n => .number (ofCount n)) ∧
      counts.sum = rows.length := by
  refine ⟨(Groups.ofRows a.groupColumns rows).map (·.2.length), ?_, Groups.sum_length_ofRows _ _⟩
  have hcount (members : List Row) : a.reduced members = .number (ofCount members.length) := by
    rw [reduced, hreducer, hcolumn, hdistinct]
    rfl
  rw [groupsOf, List.map_map, List.map_map]
  exact List.map_congr_left fun g _ => hcount g.2

/-- A grouped aggregation with a filter that can be read. If the filter fails on no row, then there
is a group for each key of a row that passes, the keys stand in strictly ascending order, and the
value of a group is what the same reduction gives for the passing rows with its key, in their order;
in particular the counts of all rows add up to the number of rows that pass. If the filter fails on
some row, then the aggregation fails with the first such fault. -/
theorem compute_groups (a : Aggregation) (test : Test) (hgrouped : a.function.grouped = true)
    (htest : Test.ofFilter a.filter = .ok test) (rows : List Row) :
    (test.Settles rows → ∃ groups, a.compute rows = .ok (.grouped groups) ∧
      (groups.map Group.key).Pairwise (· < ·) ∧
      (∀ key, key ∈ groups.map Group.key ↔
        ∃ row ∈ rows.filter test.accepts, row.HasKey a.groupColumns key) ∧
      (∀ g ∈ groups, a.ungrouped.compute
        ((rows.filter test.accepts).filter fun row => row.HasKey a.groupColumns g.key) =
          .ok (.scalar g.value)) ∧
      (a.function.reducer = .count → a.column = "*" → a.distinctColumn = none →
        ∃ counts : List Nat, groups.map Group.value = counts.map (fun n => .number (ofCount n)) ∧
          (∀ n ∈ counts, n < 2 ^ 53 → Number.integer? (ofCount n) = some (n : Int)) ∧
          counts.sum = (rows.filter test.accepts).length)) ∧
    (∀ before row after fault, rows = before ++ row :: after → test.Settles before →
      test.passes row = .error fault → a.compute rows = .error fault) := by
  constructor
  · intro hsettles
    refine ⟨a.groupsOf (rows.filter test.accepts), ?_, ascending_groupsOf a _,
      mem_keys_groupsOf a _, ?_, ?_⟩
    · refine compute_eq_ok_iff.2 ⟨_, ⟨test, htest, Test.select_of_settles hsettles⟩, ?_⟩
      rw [if_pos hgrouped]
    · intro g hg
      rw [compute_ungrouped, value_of_mem_groupsOf hg]
    · intro hreducer hcolumn hdistinct
      obtain ⟨counts, hvalues, hsum⟩ :=
        exists_counts hreducer hcolumn hdistinct (rows.filter test.accepts)
      exact ⟨counts, hvalues, fun n _ hn => Number.integer?_toFloat hn, hsum⟩
  · rintro before row after fault rfl hbefore hrow
    have hselect := Test.select_of_fault hbefore hrow after
    rw [compute, htest]
    show (test.select (before ++ row :: after) >>= _) = _
    rw [hselect]
    rfl

end

/-- How many orders each region has of those with more than two pieces for each box. -/
def byRegion : Aggregation where
  function := ⟨true, .count⟩
  column := "*"
  filter := some (.formula "pieces / boxes > 2")
  groupColumns := ["region"]

/-- Orders, of which one has no region and one has too few pieces. -/
def orders : List Row :=
  [.ofList [("region", .text "s"), ("pieces", .number 6), ("boxes", .number 2)],
   .ofList [("region", .null), ("pieces", .text "9"), ("boxes", .number 3)],
   .ofList [("region", .text "s"), ("pieces", .number 1), ("boxes", .number 1)],
   .ofList [("region", .text "s"), ("pieces", .number 8), ("boxes", .number 1)]]

/-- An order without boxes. -/
def unpacked : Row := .ofList [("region", .text "n"), ("pieces", .number 4), ("boxes", .number 0)]

/-- The filter of `byRegion` fails on no order but on one without boxes. -/
theorem settles_orders : ∃ test, Test.ofFilter byRegion.filter = .ok test ∧ test.Settles orders ∧
    test.passes unpacked = .error .divisionByZero := by
  have hrows : (match Test.ofFilter byRegion.filter with
      | .ok test => orders.all (fun row => (test.passes row).isOk) &&
          (match test.passes unpacked with
           | .error .divisionByZero => true
           | _ => false)
      | .error _ => false) = true := by decide +kernel
  cases htest : Test.ofFilter byRegion.filter with
  | error fault =>
    rw [htest] at hrows
    cases hrows
  | ok test =>
    rw [htest] at hrows
    obtain ⟨hall, hunpacked⟩ := Bool.and_eq_true_iff.1 hrows
    refine ⟨test, rfl, fun row hrow => ?_, ?_⟩
    · have hok := List.all_eq_true.1 hall row hrow
      cases hpass : test.passes row with
      | ok verdict => exact ⟨verdict, rfl⟩
      | error fault =>
        rw [hpass] at hok
        cases hok
    · split at hunpacked
      · assumption
      · cases hunpacked

/-- The orders of `byRegion` are counted by region, one group for the order without a region, unless
there is one without boxes. -/
theorem compute_groups_byRegion :
    ∃ test, (byRegion.function.grouped = true ∧ Test.ofFilter byRegion.filter = .ok test ∧
        test.Settles orders ∧ test.passes unpacked = .error .divisionByZero) ∧
      (∃ groups, byRegion.compute orders = .ok (.grouped groups) ∧
        ∀ key, key ∈ groups.map Group.key ↔
          ∃ row ∈ orders.filter test.accepts, row.HasKey ["region"] key) ∧
      byRegion.compute (orders ++ [unpacked]) = .error .divisionByZero := by
  obtain ⟨test, htest, hsettles, hunpacked⟩ := settles_orders
  obtain ⟨groups, hcompute, -, hkeys, -⟩ :=
    (compute_groups byRegion test rfl htest orders).1 hsettles
  refine ⟨test, ⟨rfl, htest, hsettles, hunpacked⟩, ⟨groups, hcompute, hkeys⟩, ?_⟩
  exact (compute_groups byRegion test rfl htest _).2 orders unpacked [] .divisionByZero rfl hsettles
    hunpacked

end Aggregation

end RowAudit
