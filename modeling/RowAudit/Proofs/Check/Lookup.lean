import Mathlib.Data.Finset.Card
import Mathlib.Data.List.Sort
import RowAudit.Check.Basic
import RowAudit.Proofs.Basic

/-!
# Checks that look at other tables

Three kinds of checks look something up in other tables (`Lookup`): the keys of a column, the
combinations of keys in several columns, or whether conditions hold. What they look up does not
depend on the row, so that a plan keeps it from the first row that asks for it
(`Lookup.judgeKeeping`). What is kept can never be told from what would be computed anew
(`Lookup.judgeAll_eq`). `Lookup.Passes` says without sets and without anything kept which rows pass,
and `Lookup.Unknown` on which rows the lookup fails for want of a table; the main statement is
`Lookup.judgeAll_naive`.
-/

namespace RowAudit

/-! ## Sets of keys -/

/-- Adding a key adds that key and no other. -/
theorem mem_addKey {k key : String} {keys : List String} :
    k ∈ addKey key keys ↔ k = key ∨ k ∈ keys := by
  induction keys with
  | nil => simp [addKey]
  | cons a rest ih =>
    unfold addKey
    split
    · simp
    · split
      · next h => simp [h]
      · simp [ih, or_left_comm]

/-- Adding a key keeps the keys in ascending order. -/
theorem pairwise_addKey {key : String} {keys : List String} (h : keys.Pairwise (· < ·)) :
    (addKey key keys).Pairwise (· < ·) := by
  induction keys with
  | nil => simp [addKey]
  | cons a rest ih =>
    obtain ⟨ha, hrest⟩ := List.pairwise_cons.1 h
    unfold addKey
    split
    · next hlt =>
      refine List.pairwise_cons.2 ⟨fun b hb => ?_, h⟩
      obtain rfl | hb := List.mem_cons.1 hb
      · exact hlt
      · exact String.lt_trans hlt (ha b hb)
    · next hnlt =>
      split
      · exact h
      · next hne =>
        refine List.pairwise_cons.2 ⟨fun b hb => ?_, ih hrest⟩
        obtain rfl | hb := mem_addKey.1 hb
        · exact Std.lt_of_le_of_ne (Std.not_lt.1 hnlt) fun h => hne h.symm
        · exact ha b hb

/-- A set of keys stands in ascending order, each key once. -/
theorem pairwise_keySet (keys : List String) : (keySet keys).Pairwise (· < ·) := by
  have hfold : ∀ (keys acc : List String), acc.Pairwise (· < ·) →
      (keys.foldl (fun ks k => addKey k ks) acc).Pairwise (· < ·) := by
    intro keys
    induction keys with
    | nil => exact fun _ h => h
    | cons k keys ih => exact fun acc h => ih _ (pairwise_addKey h)
  exact hfold keys [] .nil

/-- A set of keys has the keys that it is made of. -/
theorem mem_keySet {k : String} {keys : List String} : k ∈ keySet keys ↔ k ∈ keys := by
  have hfold : ∀ (keys acc : List String),
      k ∈ keys.foldl (fun ks k => addKey k ks) acc ↔ k ∈ keys ∨ k ∈ acc := by
    intro keys
    induction keys with
    | nil => simp
    | cons a keys ih => intro acc; simp [ih, mem_addKey, or_left_comm, or_assoc]
  rw [keySet, hfold]
  simp

/-- Key sets are equal if they have the same members. -/
theorem keySet_eq_keySet_iff {as bs : List String} :
    keySet as = keySet bs ↔ ∀ k, k ∈ as ↔ k ∈ bs := by
  refine ⟨fun h k => ?_, fun h => ?_⟩
  · rw [← mem_keySet, h, mem_keySet]
  · refine (pairwise_keySet as).eq_of_mem_iff (pairwise_keySet bs) fun k => ?_
    rw [mem_keySet, mem_keySet, h]

/-! ## Keys of rows -/

namespace Row

/-- The key of the cell in a column. -/
def key? (row : Row) (column : String) : Option String := (row.get column).key?

/-- No cell in the columns is absent. -/
def Complete (row : Row) (columns : List String) : Prop :=
  ∀ c ∈ columns, (row.get c).isAbsent = false

/-- The distinct keys of the cells in the columns. -/
def keys (row : Row) (columns : List String) : Finset (Option String) :=
  (columns.map row.key?).toFinset

variable {row row' : Row} {columns columns' : List String}

/-- The keys of a row are those of its cells in the columns. -/
theorem mem_keys {key : Option String} :
    key ∈ row.keys columns ↔ ∃ c ∈ columns, row.key? c = key := by
  simp [keys]

/-- A row with a cell in every column has the set of their keys. -/
theorem keySet?_of_complete (h : row.Complete columns) :
    row.keySet? columns = some (RowAudit.keySet (columns.filterMap row.key?)) := by
  have hkeys : ∀ c ∈ columns, (row.key? c).isSome = true :=
    fun c hc => Cell.key?_isSome_iff.2 (h c hc)
  rw [keySet?, show (columns.mapM fun c => (row.get c).key?) = _ from mapM_of_isSome hkeys]
  rfl

/-- A row that misses a cell has no set of keys. -/
theorem keySet?_of_not_complete (h : ¬row.Complete columns) : row.keySet? columns = none := by
  have hnone : ∃ c ∈ columns, row.key? c = none := by
    simpa [Complete, key?, Cell.key?_eq_none_iff] using h
  rw [keySet?, show (columns.mapM fun c => (row.get c).key?) = _ from mapM_eq_none hnone]
  rfl

/-- The key sets of complete cells are equal if the cells have the same keys. -/
theorem keySet?_eq_iff (h : row.Complete columns) (h' : row'.Complete columns') :
    row.keySet? columns = row'.keySet? columns' ↔ row.keys columns = row'.keys columns' := by
  have hnone {r : Row} {cs : List String} (hr : r.Complete cs) : none ∉ r.keys cs := by
    rw [mem_keys]
    rintro ⟨c, hc, hkey⟩
    rw [key?, Cell.key?_eq_none_iff, hr c hc] at hkey
    cases hkey
  have hsome {r : Row} {cs : List String} {k : String} :
      k ∈ cs.filterMap r.key? ↔ some k ∈ r.keys cs := by
    rw [List.mem_filterMap, mem_keys]
  rw [keySet?_of_complete h, keySet?_of_complete h', Option.some_inj, keySet_eq_keySet_iff,
    Finset.ext_iff]
  simp only [hsome]
  refine ⟨fun heq key => ?_, fun heq k => heq (some k)⟩
  cases key with
  | none => exact iff_of_false (hnone h) (hnone h')
  | some k => exact heq k

/-- The keys in some columns are those in others if each of them occurs there, and there are as many
distinct ones. -/
theorem keys_eq_iff : row.keys columns = row'.keys columns' ↔
    (∀ c ∈ columns, ∃ c' ∈ columns', row.key? c = row'.key? c') ∧
      (row.keys columns).card = (row'.keys columns').card := by
  have hsubset : row.keys columns ⊆ row'.keys columns' ↔
      ∀ c ∈ columns, ∃ c' ∈ columns', row.key? c = row'.key? c' := by
    refine ⟨fun h c hc => ?_, fun h key hkey => ?_⟩
    · obtain ⟨c', hc', heq⟩ := mem_keys.1 (h (mem_keys.2 ⟨c, hc, rfl⟩))
      exact ⟨c', hc', heq.symm⟩
    · obtain ⟨c, hc, rfl⟩ := mem_keys.1 hkey
      obtain ⟨c', hc', heq⟩ := h c hc
      exact mem_keys.2 ⟨c', hc', heq.symm⟩
  rw [← hsubset]
  exact ⟨fun h => ⟨h.subset, congrArg Finset.card h⟩,
    fun ⟨hsub, hcard⟩ => Finset.eq_of_subset_of_card_le hsub hcard.ge⟩

end Row

/-! ## Lookups -/

/-- A check that looks something up in other tables. -/
inductive Lookup where
  | reference (check : Reference)
  | composite (check : CompositeReference)
  | tables (conditions : List TableCondition)

namespace Lookup

/-- The check itself. -/
def check : Lookup → Check
  | reference check => .reference check
  | composite check => .composite check
  | tables conditions => .tableConditions conditions

/-- What is looked up, and kept for the rows that follow. -/
def Kept : Lookup → Type
  | reference _ => List String
  | composite _ => List (List String)
  | tables _ => Outcome

/-- Looks it up. -/
def compute (ctx : Context) : (l : Lookup) → Except Problem l.Kept
  | reference check => check.keys ctx
  | composite check => check.combinations ctx
  | tables conditions => TableCondition.outcome ctx conditions

/-- Whether a row asks for what is looked up. -/
def asks (column : String) (row : Row) : Lookup → Bool
  | reference _ => (row.key? column).isSome
  | composite check => (row.keySet? check.sourceColumns).isSome
  | tables _ => true

/-- Checks a row, given what is looked up, or why it cannot be. -/
def judgeWith (column : String) (ctx : Context) (row : Row) :
    (l : Lookup) → Except Problem l.Kept → Except Problem Outcome
  | reference check, found => check.judge (Thunk.mk fun _ => found) column (row.get column) ctx
  | composite check, found => check.judge (Thunk.mk fun _ => found) ctx row
  | tables _, found => found

/-- Checks a row by itself. -/
def judge (l : Lookup) (column : String) (ctx : Context) (row : Row) : Except Problem Outcome :=
  l.judgeWith column ctx row (l.compute ctx)

/-- What has been kept, or else what is looked up now. -/
def find (l : Lookup) (ctx : Context) : Option l.Kept → Except Problem l.Kept
  | some a => .ok a
  | none => l.compute ctx

/-- Checks a row with what has been kept so far, and gives what is kept afterwards: nothing new
unless the row asks for it. A lookup that fails leaves nothing behind. -/
def judgeKeeping (l : Lookup) (column : String) (kept : Option l.Kept) (ctx : Context) (row : Row) :
    Except Problem Outcome × Option l.Kept :=
  let found := l.find ctx kept
  (l.judgeWith column ctx row found, if l.asks column row then found.toOption else kept)

/-- Checks rows one after the other, keeping what is looked up. -/
def judgeAll (l : Lookup) (column : String) :
    Option l.Kept → List (Context × Row) → List (Except Problem Outcome)
  | _, [] => []
  | kept, (ctx, row) :: rest =>
    let (result, kept) := l.judgeKeeping column kept ctx row
    result :: judgeAll l column kept rest

/-! ## What is kept -/

section
variable {l : Lookup} {column : String} {ctx ctx' : Context}

/-- A table that is found depends on the datasets alone. -/
theorem referenceTable_congr {name : String} {t : Table} (hds : ctx'.datasets = ctx.datasets)
    (h : ctx.referenceTable name = .ok t) : ctx'.referenceTable name = .ok t := by
  unfold Context.referenceTable at h ⊢
  rw [hds]
  cases htable : ctx.datasets.table? name with
  | some t => rwa [htable] at h
  | none => rw [htable] at h; cases h

/-- What is looked up depends on the datasets alone. -/
theorem compute_congr {a : l.Kept} (hds : ctx'.datasets = ctx.datasets)
    (h : l.compute ctx = .ok a) :
    l.compute ctx' = .ok a := by
  cases l with
  | reference check =>
    change check.keys ctx = .ok a at h
    show check.keys ctx' = .ok a
    unfold Reference.keys at h ⊢
    cases htable : ctx.referenceTable check.table with
    | ok t => rwa [htable, ← referenceTable_congr hds htable] at h
    | error p => rw [htable] at h; cases h
  | composite check =>
    change check.combinations ctx = .ok a at h
    show check.combinations ctx' = .ok a
    unfold CompositeReference.combinations at h ⊢
    cases htable : ctx.referenceTable check.table with
    | ok t => rwa [htable, ← referenceTable_congr hds htable] at h
    | error p => rw [htable] at h; cases h
  | tables conditions =>
    change TableCondition.outcome ctx conditions = .ok a at h
    show TableCondition.outcome ctx' conditions = .ok a
    induction conditions with
    | nil => exact h
    | cons c rest ih =>
      unfold TableCondition.outcome at h ⊢
      rw [hds]
      cases htable : ctx.datasets.table? c.table with
      | none => rw [htable] at h; cases h
      | some t =>
        simp only [htable] at h ⊢
        split
        · next hholds => rw [if_pos hholds] at h; exact ih h
        · next hholds => rwa [if_neg hholds] at h

/-- Whatever is kept is what would be found anew. -/
def Honest (l : Lookup) (ds : Datasets) (kept : Option l.Kept) : Prop :=
  ∀ a, kept = some a → ∀ ctx : Context, ctx.datasets = ds → l.compute ctx = .ok a

variable {ds : Datasets} {kept : Option l.Kept}

/-- A row is checked as it would be by itself, and what is kept stays honest. -/
theorem judgeKeeping_spec (column : String) (h : l.Honest ds kept) (hds : ctx.datasets = ds)
    (row : Row) :
    (l.judgeKeeping column kept ctx row).1 = l.judge column ctx row ∧
      l.Honest ds (l.judgeKeeping column kept ctx row).2 := by
  have hfound : l.find ctx kept = l.compute ctx := by
    cases kept with
    | none => rfl
    | some a => exact (h a rfl ctx hds).symm
  unfold judgeKeeping
  rw [hfound]
  refine ⟨rfl, fun a ha ctx' hds' => ?_⟩
  dsimp only at ha
  split at ha
  · cases hcompute : l.compute ctx with
    | ok b =>
      obtain rfl : b = a := by simpa [hcompute, Except.toOption] using ha
      exact compute_congr (hds'.trans hds.symm) hcompute
    | error p => simp [hcompute, Except.toOption] at ha
  · exact h a ha ctx' hds'

/-- Every row is checked as it would be by itself, whatever rows have been checked before. -/
theorem judgeAll_eq (h : l.Honest ds kept) {queries : List (Context × Row)}
    (hds : ∀ q ∈ queries, q.1.datasets = ds) :
    l.judgeAll column kept queries = queries.map fun q => l.judge column q.1 q.2 := by
  induction queries generalizing kept with
  | nil => rfl
  | cons q rest ih =>
    obtain ⟨hq, hrest⟩ := List.forall_mem_cons.1 hds
    obtain ⟨hresult, hnext⟩ := judgeKeeping_spec column h hq q.2
    rw [judgeAll, List.map_cons, ← hresult, ← ih hnext hrest]

/-- What is looked up for a rule depends on the datasets alone, be it a problem. -/
theorem compute_eq (hds : ctx'.datasets = ctx.datasets) (hrule : ctx'.rule = ctx.rule) :
    l.compute ctx' = l.compute ctx := by
  have htable (name : String) : ctx'.referenceTable name = ctx.referenceTable name := by
    unfold Context.referenceTable Context.fault
    rw [hds, hrule]
  cases l with
  | reference check =>
    show check.keys ctx' = check.keys ctx
    rw [Reference.keys, Reference.keys, htable]
  | composite check =>
    show check.combinations ctx' = check.combinations ctx
    rw [CompositeReference.combinations, CompositeReference.combinations, htable]
  | tables conditions =>
    show TableCondition.outcome ctx' conditions = TableCondition.outcome ctx conditions
    induction conditions with
    | nil => rfl
    | cons c rest ih =>
      unfold TableCondition.outcome Context.fault
      rw [ih, hds, hrule]

/-- A prepared check does with every row what the lookup does with it by itself. -/
theorem run_judgeCell (hds : ctx'.datasets = ctx.datasets) (hrule : ctx'.rule = ctx.rule)
    (column : String) (row : Row) (m : Memo) :
    ExceptT.run ((l.check.prepare ctx').judgeCell column (row.get column) ctx row) m =
      (l.judge column ctx row, m) := by
  rw [judge, ← compute_eq hds hrule]
  cases l <;> rfl

end

/-! ## Which rows pass -/

/-- The table of a condition exists and has a row that satisfies the condition. -/
def Satisfied (ds : Datasets) (c : TableCondition) : Prop :=
  ∃ t, ds.table? c.table = some t ∧ ∃ r ∈ t.rows, c.operator.holds (r.get c.column) c.value = true

/-- Which rows pass: an absent cell, or one whose key occurs in the column of the other table, or
does not; cells one of which is absent, or whose keys are those of a complete row of the other
table; and all rows if each condition is satisfied. -/
def Passes (ds : Datasets) (column : String) (row : Row) : Lookup → Prop
  | reference check => (row.get column).isAbsent = true ∨ ∃ t, ds.table? check.table = some t ∧
      (check.mustExist = true ↔ ∃ r ∈ t.rows, r.key? check.column = row.key? column)
  | composite check => (∃ c ∈ check.sourceColumns, (row.get c).isAbsent = true) ∨
      ∃ t, ds.table? check.table = some t ∧ ∃ r ∈ t.rows, r.Complete check.columns ∧
        (∀ c ∈ check.columns, ∃ c' ∈ check.sourceColumns, r.key? c = row.key? c') ∧
        (r.keys check.columns).card = (row.keys check.sourceColumns).card
  | tables conditions => ∀ c ∈ conditions, Satisfied ds c

/-- On which rows a table is missed: those whose cells are all present, and all rows if the
condition on the table comes after satisfied ones only. -/
def Unknown (ds : Datasets) (column : String) (row : Row) : Lookup → Prop
  | reference check => (row.get column).isAbsent = false ∧ ds.table? check.table = none
  | composite check => row.Complete check.sourceColumns ∧ ds.table? check.table = none
  | tables conditions => ∃ before c after, conditions = before ++ c :: after ∧
      ds.table? c.table = none ∧ ∀ b ∈ before, Satisfied ds b

/-- The verdict on a row, if there is one. -/
def verdict (result : Except Problem Outcome) : Option Bool := result.toOption.map Outcome.isValid

section
variable (ctx : Context) (column : String) (row : Row)

/-- The verdict of a plain outcome is the truth that it is made of. -/
theorem verdict_check (ok : Bool) (message : String) :
    verdict (.ok (.check ok message)) = some ok := by
  cases ok <;> rfl

/-- A reference has the verdict that a naive search through the other table gives. -/
theorem reference_verdict (check : Reference) :
    (verdict ((reference check).judge column ctx row) = some true ↔
      (reference check).Passes ctx.datasets column row) ∧
    (verdict ((reference check).judge column ctx row) = none ↔
      (reference check).Unknown ctx.datasets column row) := by
  have hjudge : (reference check).judge column ctx row =
      check.judge (Thunk.mk fun _ => check.keys ctx) column (row.get column) ctx := rfl
  have hget : (Thunk.mk fun _ => check.keys ctx).get = check.keys ctx := rfl
  rw [hjudge, Reference.judge, hget, Reference.keys, Context.referenceTable]
  simp only [Passes, Unknown]
  cases hkey : (row.get column).key? with
  | none =>
    have habsent := Cell.key?_eq_none_iff.1 hkey
    simp [habsent, verdict, Outcome.pass, Except.toOption]
  | some key =>
    have hpresent : (row.get column).isAbsent = false := Cell.key?_isSome_iff.1 (by simp [hkey])
    simp only [hpresent, Bool.false_eq_true, false_or, true_and]
    cases ctx.datasets.table? check.table with
    | none => simp [verdict, Context.fault, Except.map, Except.toOption]
    | some t =>
      have hmem : ((t.column check.column).filterMap Cell.key?).contains key = true ↔
          ∃ r ∈ t.rows, r.key? check.column = row.key? column := by
        simp [Table.column, Row.key?, hkey]
      simp only [Except.map, verdict_check, Option.some_inj, exists_eq_left', ← hmem]
      cases List.contains _ key <;> cases check.mustExist <;> simp

/-- A composite reference has the verdict that a naive search through the other table gives. -/
theorem composite_verdict (check : CompositeReference) :
    (verdict ((composite check).judge column ctx row) = some true ↔
      (composite check).Passes ctx.datasets column row) ∧
    (verdict ((composite check).judge column ctx row) = none ↔
      (composite check).Unknown ctx.datasets column row) := by
  have hjudge : (composite check).judge column ctx row =
      check.judge (Thunk.mk fun _ => check.combinations ctx) ctx row := rfl
  have hget : (Thunk.mk fun _ => check.combinations ctx).get = check.combinations ctx := rfl
  rw [hjudge, CompositeReference.judge, hget, CompositeReference.combinations,
    Context.referenceTable]
  simp only [Passes, Unknown]
  by_cases hcomplete : row.Complete check.sourceColumns
  · have hpresent : ¬∃ c ∈ check.sourceColumns, (row.get c).isAbsent = true := by
      simpa [Row.Complete] using hcomplete
    simp only [hcomplete, hpresent, false_or, true_and]
    cases hwanted : row.keySet? check.sourceColumns with
    | none => simp [Row.keySet?_of_complete hcomplete] at hwanted
    | some wanted =>
      cases ctx.datasets.table? check.table with
      | none => simp [verdict, Context.fault, Except.map, Except.toOption]
      | some t =>
        have hmem : (t.rows.filterMap fun r => r.keySet? check.columns).contains wanted = true ↔
            ∃ r ∈ t.rows, r.Complete check.columns ∧
              (∀ c ∈ check.columns, ∃ c' ∈ check.sourceColumns, r.key? c = row.key? c') ∧
              (r.keys check.columns).card = (row.keys check.sourceColumns).card := by
          simp only [List.contains_iff_mem, List.mem_filterMap, ← hwanted, ← Row.keys_eq_iff]
          refine exists_congr fun r => and_congr_right fun _ => ?_
          by_cases hr : r.Complete check.columns
          · simp [hr, Row.keySet?_eq_iff hr hcomplete]
          · simp [hr, Row.keySet?_of_not_complete hr, hwanted]
        simp only [Except.map, verdict_check, Option.some_inj, exists_eq_left', ← hmem]
        simp
  · have habsent : ∃ c ∈ check.sourceColumns, (row.get c).isAbsent = true := by
      simpa [Row.Complete] using hcomplete
    rw [Row.keySet?_of_not_complete hcomplete]
    exact ⟨iff_of_true rfl (.inl habsent), iff_of_false nofun fun h => hcomplete h.1⟩

/-- Conditions on tables miss a table at the first one, or behind it if it is satisfied. -/
theorem unknown_cons {ds : Datasets} {column : String} {row : Row} {c : TableCondition}
    {rest : List TableCondition} : (tables (c :: rest)).Unknown ds column row ↔
      ds.table? c.table = none ∨ Satisfied ds c ∧ (tables rest).Unknown ds column row := by
  constructor
  · rintro ⟨before, c', after, heq, hnone, hbefore⟩
    cases before with
    | nil =>
      obtain ⟨rfl, -⟩ := List.cons_eq_cons.1 heq
      exact .inl hnone
    | cons b before =>
      obtain ⟨rfl, rfl⟩ := List.cons_eq_cons.1 heq
      obtain ⟨hc, hbefore⟩ := List.forall_mem_cons.1 hbefore
      exact .inr ⟨hc, before, c', after, rfl, hnone, hbefore⟩
  · rintro (hnone | ⟨hc, before, c', after, rfl, hnone, hbefore⟩)
    · exact ⟨[], c, rest, rfl, hnone, nofun⟩
    · exact ⟨c :: before, c', after, rfl, hnone, List.forall_mem_cons.2 ⟨hc, hbefore⟩⟩

/-- Conditions on tables have the verdict that a look at each table in turn gives. -/
theorem tables_verdict (conditions : List TableCondition) :
    (verdict ((tables conditions).judge column ctx row) = some true ↔
      (tables conditions).Passes ctx.datasets column row) ∧
    (verdict ((tables conditions).judge column ctx row) = none ↔
      (tables conditions).Unknown ctx.datasets column row) := by
  have hjudge (cs : List TableCondition) :
      (tables cs).judge column ctx row = TableCondition.outcome ctx cs := rfl
  induction conditions with
  | nil =>
    simp [hjudge, TableCondition.outcome, verdict, Outcome.pass, Except.toOption, Passes, Unknown]
  | cons c rest ih =>
    rw [hjudge, Passes] at ih
    rw [hjudge, Passes, unknown_cons, List.forall_mem_cons, TableCondition.outcome]
    cases htable : ctx.datasets.table? c.table with
    | none =>
      have hc : ¬Satisfied ctx.datasets c := by simp [Satisfied, htable]
      exact ⟨iff_of_false nofun fun h => hc h.1, iff_of_true rfl (.inl rfl)⟩
    | some t =>
      have hc : Satisfied ctx.datasets c ↔ c.holdsIn t = true := by
        simp [Satisfied, htable, TableCondition.holdsIn, Table.column]
      dsimp only
      split
      · next h => simpa [hc, h] using ih
      · next h => simp [hc, h, verdict, Except.toOption, Outcome.fail, Outcome.onColumn]

/-- The verdict on a row by itself. -/
theorem verdict_judge (l : Lookup) :
    (verdict (l.judge column ctx row) = some true ↔ l.Passes ctx.datasets column row) ∧
    (verdict (l.judge column ctx row) = none ↔ l.Unknown ctx.datasets column row) := by
  cases l with
  | reference check => exact reference_verdict ctx column row check
  | composite check => exact composite_verdict ctx column row check
  | tables conditions => exact tables_verdict ctx column row conditions

variable {ctx column row} {l : Lookup} {p : Problem}

/-- A table that is missing is a fault of the rule. -/
theorem referenceTable_error {name : String} (h : ctx.referenceTable name = .error p) :
    p.isConfiguration = true := by
  unfold Context.referenceTable at h
  split at h
  · cases h
  · obtain rfl := Except.error.inj h
    rfl

/-- What cannot be looked up is a fault of the rule. -/
theorem compute_error (h : l.compute ctx = .error p) : p.isConfiguration = true := by
  cases l with
  | reference check => exact referenceTable_error (error_of_map h)
  | composite check => exact referenceTable_error (error_of_map h)
  | tables conditions =>
    change TableCondition.outcome ctx conditions = .error p at h
    induction conditions with
    | nil => cases h
    | cons c rest ih =>
      unfold TableCondition.outcome at h
      split at h
      · obtain rfl := Except.error.inj h
        rfl
      · split at h
        · exact ih h
        · cases h

/-- A row fails to be checked only for what cannot be looked up. -/
theorem judgeWith_error {found : Except Problem l.Kept}
    (h : l.judgeWith column ctx row found = .error p) : found = .error p := by
  cases l with
  | reference check =>
    change check.judge (Thunk.mk fun _ => found) column (row.get column) ctx = .error p at h
    unfold Reference.judge at h
    split at h
    · cases h
    · split at h
      · next p' hfound =>
        obtain rfl := Except.error.inj h
        exact hfound
      · cases h
  | composite check =>
    change check.judge (Thunk.mk fun _ => found) ctx row = .error p at h
    unfold CompositeReference.judge at h
    split at h
    · cases h
    · split at h
      · next p' hfound =>
        obtain rfl := Except.error.inj h
        exact hfound
      · cases h
  | tables conditions => exact h

end

/-! ## Rearrangements -/

/-- Two checks differ at most in the order of their columns. -/
inductive Rearranged : Lookup → Lookup → Prop
  | reference (check : Reference) : Rearranged (.reference check) (.reference check)
  | composite {check : CompositeReference} {sourceColumns columns : List String} :
      sourceColumns.Perm check.sourceColumns → columns.Perm check.columns →
      Rearranged (.composite ⟨sourceColumns, check.table, columns⟩) (.composite check)
  | tables (conditions : List TableCondition) : Rearranged (.tables conditions) (.tables conditions)

end Lookup

/-- Two datasets have the same tables and differ at most in the order of the rows in each. -/
def Datasets.Rearranged (ds' ds : Datasets) : Prop :=
  ∀ name, Option.Rel (fun t' t : Table => t'.rows.Perm t.rows) (ds'.table? name) (ds.table? name)

namespace Lookup

section
variable {l l' : Lookup} {ds ds' : Datasets} {column : String} {row : Row}

/-- What does not depend on the order of rows is found in the rearranged table as well. -/
theorem table?_rearranged (hds : ds'.Rearranged ds) (name : String) (P : Table → Prop)
    (hP : ∀ t' t : Table, t'.rows.Perm t.rows → (P t' ↔ P t)) :
    (∃ t, ds'.table? name = some t ∧ P t) ↔ ∃ t, ds.table? name = some t ∧ P t := by
  have hrel := hds name
  revert hrel
  cases ds'.table? name <;> cases ds.table? name <;> intro hrel
  · rfl
  · cases hrel
  · cases hrel
  · cases hrel with
    | some h => simpa using hP _ _ h

/-- A table is missing exactly if it is missing in the rearranged datasets. -/
theorem table?_eq_none_rearranged (hds : ds'.Rearranged ds) (name : String) :
    ds'.table? name = none ↔ ds.table? name = none := by
  have hrel := hds name
  revert hrel
  cases ds'.table? name <;> cases ds.table? name <;> intro hrel <;> cases hrel <;> simp

/-- Whether a condition on a table is satisfied does not depend on the order of its rows. -/
theorem Satisfied.rearranged (hds : ds'.Rearranged ds) (c : TableCondition) :
    Satisfied ds' c ↔ Satisfied ds c :=
  table?_rearranged hds c.table _ fun _ _ hperm =>
    exists_congr fun _ => and_congr_left fun _ => hperm.mem_iff

/-- Which rows pass does not depend on the order of rows and columns. -/
theorem Passes.rearranged (hl : Rearranged l' l) (hds : ds'.Rearranged ds) :
    l'.Passes ds' column row ↔ l.Passes ds column row := by
  cases hl with
  | reference check =>
    refine or_congr_right (table?_rearranged hds check.table _ fun t' t hperm => ?_)
    simp only [hperm.mem_iff]
  | @composite check sourceColumns columns hsource hcolumns =>
    have hkeys (r : Row) : r.keys columns = r.keys check.columns :=
      List.toFinset_eq_of_perm _ _ (hcolumns.map _)
    have hsourceKeys : row.keys sourceColumns = row.keys check.sourceColumns :=
      List.toFinset_eq_of_perm _ _ (hsource.map _)
    simp only [Passes, Row.Complete, hsource.mem_iff, hcolumns.mem_iff, hkeys, hsourceKeys]
    refine or_congr_right (table?_rearranged hds check.table _ fun t' t hperm => ?_)
    simp only [hperm.mem_iff]
  | tables conditions => exact forall₂_congr fun c _ => Satisfied.rearranged hds c

/-- On which rows a table is missed does not depend on the order of rows and columns. -/
theorem Unknown.rearranged (hl : Rearranged l' l) (hds : ds'.Rearranged ds) :
    l'.Unknown ds' column row ↔ l.Unknown ds column row := by
  cases hl with
  | reference check => exact and_congr_right fun _ => table?_eq_none_rearranged hds check.table
  | @composite check sourceColumns columns hsource hcolumns =>
    refine and_congr (forall_congr' fun c => ?_) (table?_eq_none_rearranged hds check.table)
    rw [hsource.mem_iff]
  | tables conditions =>
    simp only [Unknown, table?_eq_none_rearranged hds, Satisfied.rearranged hds]

/-- Verdicts are equal if they are positive together and missing together. -/
theorem verdict_eq_of_iff {a b : Option Bool} (htrue : a = some true ↔ b = some true)
    (hnone : a = none ↔ b = none) : a = b := by
  rcases a with _ | _ | _ <;> rcases b with _ | _ | _ <;> simp at htrue hnone ⊢

/-- The verdict on a row does not depend on the order of the columns of the check, nor on that of
the rows of the other tables. -/
theorem verdict_rearranged (hl : Rearranged l' l) {ctx' ctx : Context}
    (hds : ctx'.datasets.Rearranged ctx.datasets) :
    verdict (l'.judge column ctx' row) = verdict (l.judge column ctx row) := by
  obtain ⟨hpasses', hunknown'⟩ := verdict_judge ctx' column row l'
  obtain ⟨hpasses, hunknown⟩ := verdict_judge ctx column row l
  refine verdict_eq_of_iff ?_ ?_
  · rw [hpasses', hpasses, Passes.rearranged hl hds]
  · rw [hunknown', hunknown, Unknown.rearranged hl hds]

end

/-! ## All rows -/

/-- A check that looks at other tables judges every row as is said without anything kept, whatever
rows it has judged before: it passes the rows of `Passes`, it misses a table on the rows of
`Unknown`, which is a fault of the rule, and the order of its columns and of the rows it looks at
does not matter. So does a prepared check, apart from passing an absent cell of its own column
before it looks. -/
theorem judgeAll_naive (l : Lookup) (column : String) {ds : Datasets}
    {queries : List (Context × Row)}
    (hds : ∀ q ∈ queries, q.1.datasets = ds) {i : Nat} {ctx : Context} {row : Row}
    (hi : queries[i]? = some (ctx, row)) :
    ∃ result, (l.judgeAll column none queries)[i]? = some result ∧
      (verdict result = some true ↔ l.Passes ds column row) ∧
      (verdict result = none ↔ l.Unknown ds column row) ∧
      (∀ p, result = .error p → p.isConfiguration = true) ∧
      (∀ (l' : Lookup) (ctx' : Context), Rearranged l' l → ctx'.datasets.Rearranged ds →
        verdict (l'.judge column ctx' row) = verdict result) ∧
      ∀ (first : Context) (m : Memo), first.datasets = ds → first.rule = ctx.rule →
        ExceptT.run ((l.check.prepare first).judgeCell column (row.get column) ctx row) m =
          (result, m) ∧
        ExceptT.run ((l.check.prepare first).judge column ctx row) m =
          (if column ≠ "" ∧ (row.get column).isAbsent ∧ l.check.passesAbsent then .ok .pass
            else result, m) := by
  obtain rfl : ctx.datasets = ds := hds _ (List.mem_of_getElem? hi)
  have hempty : l.Honest ctx.datasets none := fun _ h => nomatch h
  have hresult : (l.judgeAll column none queries)[i]? = some (l.judge column ctx row) := by
    rw [judgeAll_eq hempty hds, List.getElem?_map, hi]
    rfl
  obtain ⟨hpasses, hunknown⟩ := verdict_judge ctx column row l
  refine ⟨_, hresult, hpasses, hunknown, fun p h => compute_error (judgeWith_error h),
    fun l' ctx' hl hrows => verdict_rearranged hl hrows, fun first m hfirst hrule => ?_⟩
  have hcell := run_judgeCell (l := l) hfirst hrule column row m
  refine ⟨hcell, ?_⟩
  have hcheck : (l.check.prepare first).check = l.check := by cases l <;> rfl
  rw [Prepared.judge, hcheck]
  split
  · rfl
  · exact hcell

/-- A product whose size and colour stand the other way round in the other table passes, after a row
without a size and one that does not occur there. -/
theorem judgeAll_naive_swapped :
    let l : Lookup := .composite ⟨["size", "colour"], "stock", ["colour", "size"]⟩
    let ds : Datasets := .ofList [("stock", [.ofList [("colour", .text "M")],
      .ofList [("colour", .text "M"), ("size", .text "A")]])]
    let ctx : Context := ⟨"rule", ⟨"orders", []⟩, ds, [], false, false,
      .startOfDay ⟨1970, 1, 1, by decide, by decide⟩⟩
    let row : Row := .ofList [("size", .text "M"), ("colour", .text "A")]
    let queries : List (Context × Row) :=
      [(ctx, .ofList [("colour", .text "A")]),
        (ctx, .ofList [("size", .text "M"), ("colour", .text "M")]), (ctx, row)]
    (∀ q ∈ queries, q.1.datasets = ds) ∧ queries[2]? = some (ctx, row) ∧
      ∃ result, (l.judgeAll "size" none queries)[2]? = some result ∧
        verdict result = some true := by
  intro l ds ctx row queries
  have hds : ∀ q ∈ queries, q.1.datasets = ds := by simp [queries, ctx]
  obtain ⟨result, hresult, hpasses, -⟩ := judgeAll_naive l "size" (i := 2) hds rfl
  have hstock : ds.table? "stock" = some ⟨"stock", [.ofList [("colour", .text "M")],
      .ofList [("colour", .text "M"), ("size", .text "A")]]⟩ := rfl
  have hkeys :
      (["colour", "size"].map (Row.ofList [("colour", .text "M"), ("size", .text "A")]).key?) =
      ["size", "colour"].map row.key? := rfl
  refine ⟨hds, rfl, result, hresult, hpasses.2 (.inr ⟨_, hstock, _, .tail _ (.head _), ?_, ?_, ?_⟩)⟩
  · intro c hc
    obtain rfl | rfl : c = "colour" ∨ c = "size" := by simpa using hc
    · rfl
    · rfl
  · intro c hc
    have hmem : (Row.ofList [("colour", .text "M"), ("size", .text "A")]).key? c ∈
        ["size", "colour"].map row.key? := hkeys ▸ List.mem_map_of_mem hc
    obtain ⟨c', hc', heq⟩ := List.mem_map.1 hmem
    exact ⟨c', hc', heq.symm⟩
  · exact congrArg (fun keys => keys.toFinset.card) hkeys

end Lookup

end RowAudit
