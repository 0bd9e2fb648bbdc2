import RowAudit.Proofs.Aggregation.Memo
import RowAudit.Proofs.Run.Findings

/-!
# Runs that remember aggregations

Whether aggregations are remembered makes no difference to a run whose rules ask for no two clashing
aggregations over one table (`Run.ClashFree`): the memo stays honest from row to row and from rule
to rule. A list of conditions and the formula that spells it may clash, since the two treat absent
cells differently, and then the first one to be asked decides for both (`Run.nullFilters`).
-/

namespace RowAudit

namespace Run

/-- The same run, in which aggregations are remembered or not. -/
def memoizing (run : Run) (memoize : Bool) : Run :=
  { run with settings := { run.settings with memoize } }

/-- The aggregations that the enabled rules may ask for over a table. -/
def Asks (run : Run) (table : String) (a : Aggregation) : Prop :=
  ∃ r ∈ run.enabledRules, r.table = table ∧ ∃ t, run.input.datasets.table? table = some t ∧
    a ∈ (Plan.ofRule (run.context r t) r).calls (run.context r t)

/-- The aggregations that the enabled rules may ask for, each with the name of its table. -/
def asked (run : Run) : List (String × Aggregation) :=
  run.enabledRules.flatMap fun r =>
    match run.input.datasets.table? r.table with
    | none => []
    | some t =>
      ((Plan.ofRule (run.context r t) r).calls (run.context r t)).map fun a => (r.table, a)

/-- No two aggregations that the rules may ask for over one table clash. -/
def ClashFree (run : Run) : Prop := Memo.ClashFree run.input.datasets run.Asks

/-- What the memo holds for the aggregations that the rules may ask for is what they compute. -/
def HonestMemo (run : Run) (m : Memo) : Prop := m.Honest run.input.datasets run.Asks

variable {run : Run} {r : Rule} {t : Table}

/-- The context of a rule on a table, in which aggregations are remembered or not. -/
theorem context_memoizing (run : Run) (memoize : Bool) (r : Rule) (t : Table) :
    (run.memoizing memoize).context r t = (run.context r t).memoizing memoize := rfl

/-- A table has the name that it is found under. -/
theorem name_eq_of_table? {d : Datasets} {name : String} (h : d.table? name = some t) :
    t.name = name := by
  obtain ⟨rows, -, rfl⟩ := Option.map_eq_some_iff.1 h
  rfl

/-- What the rules may ask for is listed. -/
theorem Asks.mem_asked {table : String} {a : Aggregation} (h : run.Asks table a) :
    (table, a) ∈ run.asked := by
  obtain ⟨r, hr, rfl, t, ht, ha⟩ := h
  refine List.mem_flatMap.2 ⟨r, hr, ?_⟩
  rw [ht]
  exact List.mem_map_of_mem ha

/-- Rules whose aggregations have no conditions are clash-free. -/
theorem clashFree_of_not_hasConditions
    (h : ∀ q ∈ run.asked, q.2.hasConditions = false) : run.ClashFree := by
  intro t _ a b ha hb hclash
  rcases hclash.hasConditions with hcond | hcond
  · exact Bool.false_ne_true ((h _ ha.mem_asked).symm.trans hcond)
  · exact Bool.false_ne_true ((h _ hb.mem_asked).symm.trans hcond)

/-- While the memo is honest, an answer is what is computed, and the memo stays honest. -/
theorem answer_inStep (hfree : run.ClashFree) (ht : run.input.datasets.table? t.name = some t)
    {a : Aggregation} (ha : run.Asks t.name a) :
    Formula.InStep (fun m (_ : Memo) => run.HonestMemo m)
      (((run.context r t).memoizing true).answer a)
      (((run.context r t).memoizing false).answer a) := by
  intro m m' hm
  obtain ⟨hanswer, hnext⟩ := hm.fetch hfree ht ha
  have hcompute : (((run.context r t).memoizing false).answer a).run m' = (a.compute t.rows, m') :=
    Context.run_answer rfl a m'
  rw [hcompute]
  exact ⟨hanswer, hnext⟩

/-- Checking rows, with an honest memo or without one, finds the same. -/
theorem checkRows_inStep (hfree : run.ClashFree) (hr : r ∈ run.enabledRules)
    (ht : run.input.datasets.table? r.table = some t) (rows : List Row) (index : Nat) (b : Buffer)
    {m : Memo} (hm : run.HonestMemo m) (m' : Memo) :
    let plan := Plan.ofRule (run.context r t) r
    let remembered := (checkRows plan r ((run.context r t).memoizing true) index rows b).run m
    remembered.1 = ((checkRows plan r ((run.context r t).memoizing false) index rows b).run m').1 ∧
      run.HonestMemo remembered.2 := by
  intro plan
  have hname : t.name = r.table := name_eq_of_table? ht
  induction rows generalizing index b m m' with
  | nil => exact ⟨rfl, hm⟩
  | cons row rest ih =>
    have hcalls : ∀ a ∈ plan.calls ((run.context r t).memoizing true),
        Formula.InStep (fun m (_ : Memo) => run.HonestMemo m)
          (((run.context r t).memoizing true).answer a)
          (((run.context r t).memoizing false).answer a) := by
      intro a ha
      rw [Plan.calls_memoizing] at ha
      exact answer_inStep hfree (hname ▸ ht) ⟨r, hr, hname.symm, t, hname ▸ ht, ha⟩
    have hjudge : Formula.InStep (fun m (_ : Memo) => run.HonestMemo m)
        (plan.judge r ((run.context r t).memoizing true) row)
        (plan.judge r ((run.context r t).memoizing false) row) :=
      Plan.judge_inStep plan r row hcalls
    have hres : (StateT.run (plan.judge r ((run.context r t).memoizing true) row) m).1 =
        (StateT.run (plan.judge r ((run.context r t).memoizing false) row) m').1 :=
        (hjudge m m' hm).1
    have hnext : run.HonestMemo
        (StateT.run (plan.judge r ((run.context r t).memoizing true) row) m).2 := (hjudge m m' hm).2
    obtain ⟨hfindings, hlast⟩ := ih (index + 1) (write r b (finding r index
      (StateT.run (plan.judge r ((run.context r t).memoizing true) row) m).1)) hnext
      (StateT.run (plan.judge r ((run.context r t).memoizing false) row) m').2
    refine ⟨?_, hlast⟩
    rw [checkRows, checkRows, StateT.run_bind, StateT.run_bind]
    refine hfindings.trans ?_
    rw [hres]
    rfl

/-- Checking a rule, with an honest memo or without one, finds the same. -/
theorem checkRule_inStep (hfree : run.ClashFree) (hr : r ∈ run.enabledRules) (b : Buffer) {m : Memo}
    (hm : run.HonestMemo m) (m' : Memo) :
    (((run.memoizing true).checkRule r b).run m).1 =
    (((run.memoizing false).checkRule r b).run m').1 ∧
      run.HonestMemo (((run.memoizing true).checkRule r b).run m).2 := by
  unfold checkRule
  have hdatasets (memoize : Bool) : (run.memoizing memoize).input.datasets = run.input.datasets :=
    rfl
  rw [hdatasets, hdatasets]
  cases ht : run.input.datasets.table? r.table with
  | none => exact ⟨rfl, hm⟩
  | some t =>
    dsimp only
    rw [context_memoizing, context_memoizing, Plan.ofRule_memoizing, Plan.ofRule_memoizing]
    exact checkRows_inStep hfree hr ht t.rows 0 b hm m'

/-- Checking rules, with an honest memo or without one, finds the same. -/
theorem checkRules_inStep (hfree : run.ClashFree) (rules : List Rule)
    (hrules : ∀ r ∈ rules, r ∈ run.enabledRules) (b : Buffer) {m : Memo} (hm : run.HonestMemo m)
    (m' : Memo) :
    (((run.memoizing true).checkRules rules b).run m).1 =
      (((run.memoizing false).checkRules rules b).run m').1 := by
  induction rules generalizing b m m' with
  | nil => rfl
  | cons r rest ih =>
    obtain ⟨hres, hnext⟩ := checkRule_inStep hfree (hrules r List.mem_cons_self) b hm m'
    have hrest := ih (fun r hr => hrules r (List.mem_cons_of_mem _ hr))
      (((run.memoizing true).checkRule r b).run m).1 hnext
      (((run.memoizing false).checkRule r b).run m').2
    rw [checkRules, checkRules, StateT.run_bind, StateT.run_bind]
    refine hrest.trans ?_
    rw [hres]
    rfl

/-- Where no aggregations clash, remembering them makes no difference to the report. -/
theorem validate_memoizing_of_clashFree (hfree : run.ClashFree) :
    (run.memoizing true).validate = (run.memoizing false).validate := by
  have hbuffer := checkRules_inStep hfree run.enabledRules (fun r hr => hr) .empty
    (m := .empty) Memo.honest_empty .empty
  unfold validate
  exact congrArg run.report hbuffer

/-! ## When remembering is safe -/

/-- Remembering aggregations is safe exactly as far as they do not clash. A memo answers whatever
the rules of a run may ask for, in whatever order, with what is computed if and only if no two of
these aggregations clash; then the run has the report of one that remembers nothing. Two
aggregations that clash agree in everything but the form of the filter, which is a list of
conditions for one of them at least. -/
theorem memoizing_safe_iff_clashFree (run : Run) :
    ((∀ questions : List (Table × Aggregation),
      (∀ q ∈ questions, run.input.datasets.table? q.1.name = some q.1 ∧ run.Asks q.1.name q.2) →
      ((Memo.answers questions).run .empty).1 = questions.map fun q => q.2.compute q.1.rows) ↔
      run.ClashFree) ∧
    (run.ClashFree → (run.memoizing true).validate = (run.memoizing false).validate) ∧
    (∀ rows a b, Aggregation.Clash rows a b →
      a.function = b.function ∧ a.column = b.column ∧ a.filterText = b.filterText ∧
      a.groupColumns = b.groupColumns ∧ a.distinctColumn = b.distinctColumn ∧
      (a.hasConditions = true ∨ b.hasConditions = true)) := by
  refine ⟨Memo.answers_eq_iff, validate_memoizing_of_clashFree, fun rows a b hclash => ?_⟩
  obtain ⟨hfunction, hcolumn, hfilter, hgroups, hdistinct⟩ :=
    Aggregation.callSite_eq_iff.1 hclash.1
  exact ⟨hfunction, hcolumn, hfilter, hgroups, hdistinct, hclash.hasConditions⟩

/-- Two rules that ask for one sum, under one call site: the first one calls it, beside a count, and
the second one has configured it. -/
def sharedSum : Run :=
  onTable .sequential "t"
    [.ofList [("kind", .text "a"), ("n", .number 2)], .ofList [("kind", .null), ("n", .number 3)]]
    [{ id := "r1", name := "called", table := "t", column := "", kind := .formula,
       parameters := [("formula", .text "SUM(\"n\") > COUNT(\"n\", \"kind == null\")")] },
     { id := "r2", name := "configured", table := "t", column := "", kind := .formula,
       parameters := [("formula", .text "total >= n"), ("aggregations", .array [.object
         [("function", .text "SUM"), ("column", .text "n"), ("alias", .text "total")]])] }]

/-- The second rule may be answered with what the first one has left in the memo. -/
theorem memoizing_safe_iff_clashFree_sharedSum :
    (sharedSum.asked.map fun q => (q.1, q.2.callSite)) =
      [("t", "SUM(\"n\")"), ("t", "COUNT(\"n\", \"kind == null\")"), ("t", "SUM(\"n\")")] ∧
    (∀ questions : List (Table × Aggregation),
      (∀ q ∈ questions, sharedSum.input.datasets.table? q.1.name = some q.1 ∧
        sharedSum.Asks q.1.name q.2) →
      ((Memo.answers questions).run .empty).1 = questions.map fun q => q.2.compute q.1.rows) ∧
    (sharedSum.memoizing true).validate = (sharedSum.memoizing false).validate := by
  have hfree : sharedSum.ClashFree := clashFree_of_not_hasConditions (by decide +kernel)
  obtain ⟨hanswers, hreports, -⟩ := memoizing_safe_iff_clashFree sharedSum
  exact ⟨by decide +kernel, hanswers.2 hfree, hreports hfree⟩

/-- Two rules that take the least text among the rows without a cell in column `a`. The first one
says so in a formula, which null satisfies; the second one in a condition, which null does not
satisfy. -/
def nullFilters : Run :=
  onTable .sequential "t" [.ofList [("a", .null), ("b", .text "x")]]
    [{ id := "r1", name := "formula", table := "t", column := "", kind := .formula,
       parameters := [("formula", .text "MIN(\"b\", \"a == null\") == \"x\"")] },
     { id := "r2", name := "condition", table := "t", column := "", kind := .formula,
       parameters := [("formula", .text "n == \"x\""), ("aggregations", .array [.object
         [("function", .text "MIN"), ("column", .text "b"), ("alias", .text "n"),
          ("filter", .object [("conditions", .array [.object
            [("column", .text "a"), ("operator", .text "=="), ("value", .null)]])])]])] }]

/-- Where the formula is asked first, its value is taken for that of the condition. -/
theorem validate_nullFilters_ne :
    (nullFilters.memoizing true).validate.findings ≠
      (nullFilters.memoizing false).validate.findings := by
  decide +kernel

end Run

end RowAudit
