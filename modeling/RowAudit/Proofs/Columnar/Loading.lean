import RowAudit.Columnar
import Mathlib.Data.List.Forall2

/-!
# Loading columnar tables

A load reads all batches before it touches the datasets, so a column that cells cannot be made of
leaves them as they were. `FirstUnsupported` says which column is blamed, `rowsOf_eq` reads all
batches at once, `Values.Converts` says what a value becomes, and `Batch.RowAt` describes a row
without the order in which its columns were set. From these follows what a load does
(`load_all_or_nothing`).
-/

namespace RowAudit

/-- The table that is inserted is found under its name, and any other one as before. -/
theorem Datasets.table?_insert (d : Datasets) (t : Table) (name : String) :
    (d.insert t).table? name = if t.name = name then some t else d.table? name := by
  rw [table?, insert, Fields.get?_insert]
  split
  · next h => rw [Option.map_some, ← h]
  · rfl

namespace Columnar

/-! ## Columns that are refused -/

/-- Cells can be made of the values of the column. -/
def Column.Supported (c : Column) : Prop := ∀ type, c.values ≠ .other type

/-- The first column that is not supported, with the name of its type. -/
def FirstUnsupported (columns : List Column) (c : Column) (type : String) : Prop :=
  ∃ before after, columns = before ++ c :: after ∧ (∀ x ∈ before, x.Supported) ∧
    c.values = .other type

/-- Columns in two parts are checked one part after the other. -/
theorem checkColumns_append (cs ds : List Column) :
    checkColumns (cs ++ ds) = checkColumns cs >>= fun _ => checkColumns ds := by
  induction cs with
  | nil => rfl
  | cons c cs ih =>
    rw [List.cons_append, checkColumns, checkColumns, ih]
    cases c.check <;> rfl

/-- Supported columns pass the check. -/
theorem checkColumns_of_supported {cs : List Column} (h : ∀ c ∈ cs, c.Supported) :
    checkColumns cs = .ok () := by
  induction cs with
  | nil => rfl
  | cons c cs ih =>
    have hc : c.check = .ok () := by
      unfold Column.check
      split
      · next type hother => exact absurd hother (h c List.mem_cons_self type)
      · rfl
    rw [checkColumns, hc]
    exact ih fun x hx => h x (List.mem_cons_of_mem c hx)

/-- The check fails with what is wrong with the first column that is not supported. -/
theorem checkColumns_of_firstUnsupported {cs : List Column} {c : Column} {type : String}
    (h : FirstUnsupported cs c type) :
    checkColumns cs = .error (.typeMismatch
      ("utf8, numeric, boolean, date or timestamp column for '" ++ c.name ++ "'") type) := by
  obtain ⟨before, after, rfl, hbefore, hc⟩ := h
  rw [checkColumns_append, checkColumns_of_supported hbefore]
  show checkColumns (c :: after) = _
  rw [checkColumns, Column.check, hc]
  rfl

/-- Among columns that are not all supported there is a first one that is not. -/
theorem exists_firstUnsupported {cs : List Column} (h : ∃ c ∈ cs, ¬ c.Supported) :
    ∃ c type, FirstUnsupported cs c type := by
  induction cs with
  | nil => simp at h
  | cons c cs ih =>
    by_cases hc : c.Supported
    · have hrest : ∃ x ∈ cs, ¬ x.Supported := by simpa [hc] using h
      obtain ⟨x, type, before, after, rfl, hbefore, hx⟩ := ih hrest
      refine ⟨x, type, c :: before, after, rfl, fun y hy => ?_, hx⟩
      rcases List.mem_cons.1 hy with rfl | hy
      · exact hc
      · exact hbefore y hy
    · obtain ⟨type, htype⟩ : ∃ type, c.values = .other type := by
        simpa [Column.Supported] using hc
      exact ⟨c, type, [], cs, rfl, fun _ hx => absurd hx List.not_mem_nil, htype⟩

/-! ## Cells -/

/-- No value stands at an index. -/
def Lacks {α : Type} (values : List (Option α)) (i : Nat) : Prop := ∀ x, values[i]? ≠ some (some x)

/-- No value that a cell could hold stands at an index: there is none, or it is a time outside the
calendar. -/
def Values.Missing (i : Nat) : Values → Prop
  | nulls | other _ => True
  | bools values => Lacks values i
  | integers values => Lacks values i
  | singles values => Lacks values i
  | doubles values => Lacks values i
  | texts values => Lacks values i
  | days values => ∀ n, values[i]? = some (some n) → Moment.ofMilliseconds? (n * 86400000) = none
  | times unit values =>
    ∀ n, values[i]? = some (some n) → Moment.ofMilliseconds? (unit.milliseconds n) = none

/-- The cell that the value at an index is converted to. -/
inductive Values.Converts (i : Nat) : Values → Cell → Prop
  | missing {v : Values} (h : v.Missing i) : Converts i v .null
  | bool {values b} (h : values[i]? = some (some b)) : Converts i (.bools values) (.bool b)
  | integer {values n} (h : values[i]? = some (some n)) :
    Converts i (.integers values) (.number (Cell.ofInteger n))
  | single {values x} (h : values[i]? = some (some x)) :
    Converts i (.singles values) (.number x.toFloat)
  | double {values x} (h : values[i]? = some (some x)) : Converts i (.doubles values) (.number x)
  | text {values s} (h : values[i]? = some (some s)) : Converts i (.texts values) (.text s)
  | day {values n m} (h : values[i]? = some (some n))
    (hm : Moment.ofMilliseconds? (n * 86400000) = some m) : Converts i (.days values) (.moment m)
  | time {unit values n m} (h : values[i]? = some (some n))
    (hm : Moment.ofMilliseconds? (unit.milliseconds n) = some m) :
    Converts i (.times unit values) (.moment m)

/-- The cell of a value, or null if there is none or it has no cell. -/
theorem Values.cellOf_cases {α : Type} (f : α → Option Cell) (values : List (Option α)) (i : Nat) :
    (∃ x c, values[i]? = some (some x) ∧ f x = some c ∧ cellOf f values i = c) ∨
      ((∀ x, values[i]? = some (some x) → f x = none) ∧ cellOf f values i = .null) := by
  rw [cellOf]
  rcases values[i]? with _ | _ | x
  · simp
  · simp
  · cases hx : f x with
    | none => simp [hx]
    | some c => simp [hx]

/-- The cell at an index is the one that the value there is converted to. -/
theorem Values.converts_cell (v : Values) (i : Nat) : v.Converts i (v.cell i) := by
  cases v with
  | nulls | other type => exact .missing trivial
  | bools values | integers values | singles values | doubles values | texts values =>
    rcases cellOf_cases _ values i with ⟨x, c, hx, hc, hcell⟩ | ⟨hnone, hcell⟩
    · obtain rfl := Option.some.inj hc
      rw [cell, hcell]
      constructor
      exact hx
    · rw [cell, hcell]
      exact .missing fun x hx => nomatch hnone x hx
  | days values =>
    rcases cellOf_cases (fun n => momentCell (n * 86400000)) values i with
      ⟨n, c, hn, hc, hcell⟩ | ⟨hnone, hcell⟩
    · obtain ⟨m, hm, rfl⟩ := Option.map_eq_some_iff.1 hc
      rw [cell, hcell]
      exact .day hn hm
    · rw [cell, hcell]
      exact .missing fun n hn => Option.map_eq_none_iff.1 (hnone n hn)
  | times unit values =>
    rcases cellOf_cases (fun n => momentCell (unit.milliseconds n)) values i with
      ⟨n, c, hn, hc, hcell⟩ | ⟨hnone, hcell⟩
    · obtain ⟨m, hm, rfl⟩ := Option.map_eq_some_iff.1 hc
      rw [cell, hcell]
      exact .time hn hm
    · rw [cell, hcell]
      exact .missing fun n hn => Option.map_eq_none_iff.1 (hnone n hn)

/-! ## Rows -/

/-- The last column with a name. -/
def Batch.lastNamed? (b : Batch) (name : String) : Option Column :=
  b.columns.reverse.find? (·.name == name)

/-- A row holds the cells at an index of a batch: under each name that of the last column with that
name, and nothing under other names. -/
def Batch.RowAt (b : Batch) (i : Nat) (r : Row) : Prop :=
  ∀ name,
    Option.Rel (fun c cell => c.values.Converts i cell) (b.lastNamed? name) (r.cells.get? name)

/-- The row made at an index holds the cells there, however often a name is set. -/
theorem Batch.rowAt_row (b : Batch) (i : Nat) : b.RowAt i (b.row i) := fun name => by
  have hget : (b.row i).cells.get? name = (b.lastNamed? name).map fun c => c.values.cell i := by
    rw [row, Row.ofList, Fields.get?_ofList, ← List.map_reverse, List.find?_map, Option.map_map,
      lastNamed?]
    rfl
  rw [hget]
  cases b.lastNamed? name with
  | none => exact .none
  | some c => exact .some (c.values.converts_cell i)

/-- The places of the rows of batches in their order, each a batch and an index. -/
def places (batches : List Batch) : List (Batch × Nat) :=
  batches.flatMap fun b => (List.range b.size).map fun i => (b, i)

/-- Batches are checked one after the other, and only then is there a result. -/
theorem rowsOf_eq (batches : List Batch) :
    rowsOf batches =
      (checkColumns (batches.flatMap Batch.columns)).map fun _ => batches.flatMap Batch.rows := by
  induction batches with
  | nil => rfl
  | cons b batches ih =>
    rw [rowsOf, ih, List.flatMap_cons, List.flatMap_cons, checkColumns_append]
    cases checkColumns b.columns with
    | error p => rfl
    | ok _ => cases checkColumns (batches.flatMap Batch.columns) <;> rfl

/-- Batches are read exactly if all their columns pass the check, and then as their rows in
order. -/
theorem rowsOf_eq_ok_iff {batches : List Batch} {rows : List Row} :
    rowsOf batches = .ok rows ↔
      checkColumns (batches.flatMap Batch.columns) = .ok () ∧
        rows = batches.flatMap Batch.rows := by
  rw [rowsOf_eq]
  cases checkColumns (batches.flatMap Batch.columns) with
  | error p => simp [Except.map]
  | ok _ => simp [Except.map, eq_comm]

/-- Batches in two parts are read as the rows of one part after those of the other. -/
theorem rowsOf_append {batches more : List Batch} {rows rows' : List Row}
    (h : rowsOf batches = .ok rows) (h' : rowsOf more = .ok rows') :
    rowsOf (batches ++ more) = .ok (rows ++ rows') := by
  obtain ⟨hcheck, rfl⟩ := rowsOf_eq_ok_iff.1 h
  obtain ⟨hcheck', rfl⟩ := rowsOf_eq_ok_iff.1 h'
  refine rowsOf_eq_ok_iff.2 ⟨?_, List.flatMap_append.symm⟩
  rw [List.flatMap_append, checkColumns_append, hcheck]
  exact hcheck'

/-- Each row that is read holds the cells at its place. -/
theorem forall₂_rowAt_rows (batches : List Batch) :
    List.Forall₂ (fun place r => place.1.RowAt place.2 r) (places batches)
      (batches.flatMap Batch.rows) := by
  have hrows :
      batches.flatMap Batch.rows = (places batches).map fun place => place.1.row place.2 := by
    rw [places, List.map_flatMap]
    refine List.flatMap_congr fun b _ => ?_
    rw [Batch.rows, List.map_map]
    rfl
  rw [hrows, List.forall₂_map_right_iff, List.forall₂_same]
  exact fun place _ => place.1.rowAt_row place.2

/-! ## Loads -/

/-- A load succeeds: the named table holds the rows, and no other table has changed. -/
def Loads (d : Datasets) (name : String) (batches : List Batch) (rows : List Row) : Prop :=
  ∃ loaded, (load name batches).run d = (.ok (), loaded) ∧
    loaded.table? name = some ⟨name, rows⟩ ∧ ∀ other ≠ name, loaded.table? other = d.table? other

/-- Batches that cannot be read leave the datasets as they are. -/
theorem run_load_of_error {d : Datasets} {name : String} {batches : List Batch} {p : Problem}
    (h : rowsOf batches = .error p) : (load name batches).run d = (.error p, d) := by
  rw [load, h]
  rfl

/-- Rows that have been read are inserted as one table. -/
theorem run_load_of_ok {d : Datasets} {name : String} {batches : List Batch} {rows : List Row}
    (h : rowsOf batches = .ok rows) :
    (load name batches).run d = (.ok (), d.insert ⟨name, rows⟩) := by
  rw [load, h]
  rfl

/-- A load succeeds exactly if the batches can be read, with the rows that they are read as. -/
theorem loads_iff {d : Datasets} {name : String} {batches : List Batch} {rows : List Row} :
    Loads d name batches rows ↔ rowsOf batches = .ok rows := by
  constructor
  · rintro ⟨loaded, hrun, htable, -⟩
    cases h : rowsOf batches with
    | error p =>
      rw [run_load_of_error h] at hrun
      cases hrun
    | ok rows' =>
      rw [run_load_of_ok h] at hrun
      obtain ⟨-, rfl⟩ := Prod.mk.inj hrun
      rw [Datasets.table?_insert, if_pos rfl, Option.some_inj] at htable
      rw [(Table.mk.inj htable).2]
  · intro h
    refine ⟨_, run_load_of_ok h, ?_, fun other hother => ?_⟩
    · rw [Datasets.table?_insert, if_pos rfl]
    · rw [Datasets.table?_insert, if_neg hother.symm]

/-- A load whose batches have a column that cells cannot be made of, be it one without rows, fails
with what is wrong with the first such column, and the datasets are as before. Any other load
changes the named table only: it then has one row for each index of each batch, in order, in which
each column name holds what the value of the last column with that name is converted to, null if it
is missing. And batches that are loaded behind others give their rows behind the rows of those. -/
theorem load_all_or_nothing (d : Datasets) (name : String) (batches : List Batch) :
    ((∃ c ∈ batches.flatMap Batch.columns, ¬ c.Supported) →
      ∃ c type, FirstUnsupported (batches.flatMap Batch.columns) c type ∧
        (load name batches).run d = (.error (.typeMismatch
          ("utf8, numeric, boolean, date or timestamp column for '" ++ c.name ++ "'") type), d)) ∧
    ((∀ c ∈ batches.flatMap Batch.columns, c.Supported) →
      ∃ rows, Loads d name batches rows ∧
        List.Forall₂ (fun place r => place.1.RowAt place.2 r) (places batches) rows) ∧
    (∀ more rows rows', Loads d name batches rows → Loads d name more rows' →
      Loads d name (batches ++ more) (rows ++ rows')) := by
  refine ⟨fun hsome => ?_, fun hall => ?_, fun more rows rows' h h' => ?_⟩
  · obtain ⟨c, type, hfirst⟩ := exists_firstUnsupported hsome
    refine ⟨c, type, hfirst, run_load_of_error ?_⟩
    rw [rowsOf_eq, checkColumns_of_firstUnsupported hfirst]
    rfl
  · have hrows := rowsOf_eq_ok_iff.2 ⟨checkColumns_of_supported hall, rfl⟩
    exact ⟨batches.flatMap Batch.rows, loads_iff.2 hrows, forall₂_rowAt_rows batches⟩
  · exact loads_iff.2 (rowsOf_append (loads_iff.1 h) (loads_iff.1 h'))

/-- A batch with two columns of one name. -/
def twiceNamed : Batch :=
  ⟨[⟨"id", .integers [some 1, none]⟩, ⟨"due", .days [some 0, some 100000000]⟩,
    ⟨"id", .texts [some "a", some "b"]⟩], 2⟩

/-- A batch of other columns. -/
def otherColumns : Batch := ⟨[⟨"seen", .times .second [some 60]⟩, ⟨"note", .nulls⟩], 1⟩

/-- A batch without rows that has a column of lists. -/
def listColumn : Batch := ⟨[⟨"id", .bools []⟩, ⟨"tags", .other "List(Int32)"⟩], 0⟩

/-- A load of batches with different columns, and one that is refused after a batch was read. -/
theorem load_all_or_nothing_batches :
    (∃ rows, Loads .empty "t" [twiceNamed, otherColumns] rows ∧
      List.Forall₂ (fun place r => place.1.RowAt place.2 r)
        [(twiceNamed, 0), (twiceNamed, 1), (otherColumns, 0)] rows) ∧
    (∃ c type, FirstUnsupported (twiceNamed.columns ++ listColumn.columns) c type ∧
      (load "t" [twiceNamed, listColumn]).run .empty = (.error (.typeMismatch
        ("utf8, numeric, boolean, date or timestamp column for '" ++ c.name ++ "'") type),
          .empty)) := by
  constructor
  · refine (load_all_or_nothing .empty "t" [twiceNamed, otherColumns]).2.1 fun c hc => ?_
    have hcolumns : c ∈ twiceNamed.columns ++ otherColumns.columns := hc
    simp only [twiceNamed, otherColumns, List.cons_append, List.nil_append, List.mem_cons,
      List.not_mem_nil, or_false] at hcolumns
    rcases hcolumns with rfl | rfl | rfl | rfl | rfl <;> exact nofun
  · exact (load_all_or_nothing .empty "t" [twiceNamed, listColumn]).1
      ⟨⟨"tags", .other "List(Int32)"⟩, by simp [listColumn], fun h => h _ rfl⟩

end Columnar

end RowAudit
