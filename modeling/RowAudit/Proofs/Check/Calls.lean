import RowAudit.Proofs.Formula.Agreement
import RowAudit.Run.Plan

/-!
# What a check asks of the memo

Only table formulas look at the memo, and only through the values of aggregations
(`Context.answer`). The aggregations that a plan may ask for are known before any row is checked
(`Plan.calls`). So two ways of answering these lead to the same outcomes on every row, and in
particular the memo has no influence where nothing is remembered (`Plan.judge_of_not_memoize`).
-/

namespace RowAudit

open Formula (InStep)

/-- The same setting, in which aggregations are remembered or not. -/
def Context.memoizing (ctx : Context) (memoize : Bool) : Context := { ctx with memoize }

/-! ## Aggregations that are asked for -/

namespace Formula.Scope

/-- The configured aggregation with a label. -/
def labelled (s : Scope) (name : String) : Option Aggregation :=
  s.aggregations.find? fun a => a.label == some name

/-- The aggregations that a formula may ask for: those that it calls, and those whose labels stand
among its columns, each replaced by the configured one with its call site. -/
def calls (s : Scope) (e : Expr) : List Aggregation :=
  (e.calls ++ e.columns.filterMap s.labelled).map s.configured

end Formula.Scope

/-- The aggregations that a check may ask for. -/
def Check.calls (ctx : Context) : Check → List Aggregation
  | tableFormula check => (check.scope ctx).calls check.formula.expr
  | _ => []

/-- The aggregations that a plan may ask for. -/
def Plan.calls (ctx : Context) : Plan → List Aggregation
  | single p => p.check.calls ctx
  | chain links => links.flatMap fun l => l.check.check.calls ctx
  | broken _ => []

/-- The value of an aggregation over the table of a check. -/
def Context.answer (ctx : Context) (a : Aggregation) : Formula.Run Memo Aggregation.Result :=
  if ctx.memoize then Memo.fetch ctx.table.name ctx.table.rows a
  else
    match a.compute ctx.table.rows with
    | .ok r => pure r
    | .error fault => throw fault

/-! ## Checks in step -/

section
variable {R : Memo → Memo → Prop} {ctx : Context} {memoize : Bool}

/-- Where nothing is remembered, an answer is what is computed, and the memo stays as it is. -/
theorem Context.run_answer (h : ctx.memoize = false) (a : Aggregation) (m : Memo) :
    (ctx.answer a).run m = (a.compute ctx.table.rows, m) := by
  rw [Context.answer, h, if_neg Bool.false_ne_true]
  cases a.compute ctx.table.rows <;> rfl

/-- Where nothing is remembered, answers are in step with themselves. -/
theorem Context.answer_inStep (h : ctx.memoize = false) (a : Aggregation) :
    InStep R (ctx.answer a) (ctx.answer a) := by
  intro s t hst
  rw [run_answer h, run_answer h]
  exact ⟨rfl, hst⟩

/-- The evaluation of a formula as a check is in step where the evaluation is. -/
theorem Audit.ofRun_inStep {α : Type} {x y : Formula.Run Memo α} (h : InStep R x y) :
    InStep R (Audit.ofRun x) (Audit.ofRun y) := by
  intro s t hst
  obtain ⟨hres, hnext⟩ := h s t hst
  have hrun (z : Formula.Run Memo α) (m : Memo) :
      (Audit.ofRun z).run m = ((z.run m).1.mapError .evaluation, (z.run m).2) := by
    show StateT.run (ExceptT.run z >>= _) m = _
    rw [StateT.run_bind, show (ExceptT.run z).run m = z.run m from rfl]
    cases z.run m with
    | mk result next => cases result <;> rfl
  rw [hrun, hrun, ← hres]
  exact ⟨rfl, hnext⟩

/-- What a computation without state gives is in step with itself. -/
theorem Audit.ofExcept_inStep {α : Type} (x : Except Problem α) :
    InStep R (Audit.ofExcept x) (Audit.ofExcept x) := fun _ _ h => ⟨rfl, h⟩

/-- A call over the table of a check is an answer, of which groups keep their values alone. -/
theorem TableFormula.call_eq (check : TableFormula) (ctx : Context) (a : Aggregation) :
    (check.scope ctx).call a =
      ctx.answer ((check.scope ctx).configured a) >>= fun r =>
        pure (Formula.Scope.evaluated ((check.scope ctx).configured a).handling r) := by
  obtain ⟨rule, table, datasets, lists, timeAware, memoize, now⟩ := ctx
  unfold Formula.Scope.call Context.answer scope
  cases memoize with
  | true => rfl
  | false =>
    dsimp only
    generalize
      (⟨table.name, table.rows, check.aggregations, false⟩ : Formula.Scope).configured a = c
    cases c.compute table.rows <;> rfl

/-- A table formula is in step where its aggregations are. -/
theorem TableFormula.judge_inStep (check : TableFormula) (row : Row)
    (h : ∀ a ∈ (Check.tableFormula check).calls ctx,
      InStep R (ctx.answer a) ((ctx.memoizing memoize).answer a)) :
    InStep R (check.judge ctx row) (check.judge (ctx.memoizing memoize) row) := by
  have hcall (a : Aggregation)
      (ha : a ∈ check.formula.expr.calls ++ check.formula.expr.columns.filterMap
        (check.scope ctx).labelled) :
      InStep R ((check.scope ctx).call a) ((check.scope (ctx.memoizing memoize)).call a) := by
    rw [call_eq, call_eq]
    exact (h _ (List.mem_map_of_mem ha)).bind fun r => InStep.pure _
  have heval : InStep R (check.formula.evaluate row none (some (check.scope ctx)))
      (check.formula.evaluate row none (some (check.scope (ctx.memoizing memoize)))) := by
    refine Formula.Expr.eval_inStep check.formula.expr [] (fun name hname => ?_) fun a ha => ?_
    · refine Formula.View.column_inStep (v := (check.scope ctx).view row none)
        (w := (check.scope (ctx.memoizing memoize)).view row none) rfl rfl rfl fun a ha =>
          hcall a ?_
      exact List.mem_append_right _ (List.mem_filterMap.2 ⟨name, hname, ha⟩)
    · exact hcall a (List.mem_append_left _ ha)
  refine (Audit.ofRun_inStep heval).bind fun value => ?_
  cases check.verdicts value with
  | ok verdicts => exact InStep.pure _
  | error fault => exact InStep.throw _

/-- Conditions on tables do not look at the memo. -/
theorem TableCondition.outcome_memoizing (ctx : Context) (memoize : Bool)
    (conditions : List TableCondition) :
    TableCondition.outcome (ctx.memoizing memoize) conditions =
      TableCondition.outcome ctx conditions := by
  induction conditions with
  | nil => rfl
  | cons c rest ih =>
    unfold TableCondition.outcome
    rw [ih]
    rfl

/-- A prepared check is in step where its aggregations are. -/
theorem Prepared.judge_inStep (p : Prepared) (column : String) (row : Row)
    (h : ∀ a ∈ p.check.calls ctx, InStep R (ctx.answer a) ((ctx.memoizing memoize).answer a)) :
    InStep R (p.judge column ctx row) (p.judge column (ctx.memoizing memoize) row) := by
  have hcell : InStep R (p.judgeCell column (row.get column) ctx row)
      (p.judgeCell column (row.get column) (ctx.memoizing memoize) row) := by
    cases p with
    | keyed check keys => exact Audit.ofExcept_inStep _
    | combined check combinations => exact Audit.ofExcept_inStep _
    | settled conditions outcome => exact Audit.ofExcept_inStep _
    | plain check =>
      cases check with
      | tableFormula check => exact check.judge_inStep row h
      | tableConditions conditions =>
        show InStep R (Audit.ofExcept (TableCondition.outcome ctx conditions))
          (Audit.ofExcept (TableCondition.outcome (ctx.memoizing memoize) conditions))
        rw [TableCondition.outcome_memoizing]
        exact Audit.ofExcept_inStep _
      | listed check | custom check | calculation check | composite check | reference check
      | rowFormula check => exact Audit.ofExcept_inStep _
      | required | valueLimit check | numberInterval check | pattern check | dataType check
      | oneOf check | contains check | dependency check | dateBound check | dateInterval check
      | dateSpelling check | columnComparison check => exact InStep.pure _
  unfold Prepared.judge
  dsimp only
  split
  · exact InStep.pure _
  · exact hcell

/-- A chain of checks is in step where its aggregations are. -/
theorem Chain.judgeFrom_inStep (row : Row) (links : Chain Prepared) (before : Connective)
    (running : Bool) (failure : Option Outcome)
    (h : ∀ l ∈ links, ∀ a ∈ l.check.check.calls ctx,
      InStep R (ctx.answer a) ((ctx.memoizing memoize).answer a)) :
    InStep R
      (Chain.judgeFrom (fun column p => p.judge column ctx row) before running failure links)
      (Chain.judgeFrom (fun column p => p.judge column (ctx.memoizing memoize) row) before running
        failure links) := by
  induction links generalizing before running failure with
  | nil => exact InStep.pure _
  | cons l rest ih =>
    have hrest : ∀ l ∈ rest, ∀ a ∈ l.check.check.calls ctx,
        InStep R (ctx.answer a) ((ctx.memoizing memoize).answer a) :=
      fun l hl => h l (List.mem_cons_of_mem _ hl)
    unfold Chain.judgeFrom
    cases before.settled? running with
    | some verdict => exact ih _ _ _ hrest
    | none =>
      exact (l.check.judge_inStep l.column row (h l List.mem_cons_self)).bind fun o =>
        ih _ _ _ hrest

/-- A plan is in step where its aggregations are. -/
theorem Plan.judge_inStep (plan : Plan) (r : Rule) (row : Row)
    (h : ∀ a ∈ plan.calls ctx, InStep R (ctx.answer a) ((ctx.memoizing memoize).answer a)) :
    InStep R (plan.judge r ctx row) (plan.judge r (ctx.memoizing memoize) row) := by
  cases plan with
  | single p => exact p.judge_inStep r.column row h
  | chain links =>
    exact Chain.judgeFrom_inStep row links _ _ _ fun l hl a ha =>
      h a (List.mem_flatMap.2 ⟨l, hl, ha⟩)
  | broken message => exact InStep.throw _

/-- Where nothing is remembered, the outcome of a plan on a row does not depend on the memo, which
stays as it is. -/
theorem Plan.judge_of_not_memoize (plan : Plan) (r : Rule) (row : Row) (hm : ctx.memoize = false)
    (m : Memo) : (plan.judge r ctx row).run m = (((plan.judge r ctx row).run .empty).1, m) := by
  have hself : ctx.memoizing ctx.memoize = ctx := rfl
  have hstep : InStep (fun s t => s = m ∧ t = .empty) (plan.judge r ctx row)
      (plan.judge r ctx row) := by
    have hanswer : ∀ a ∈ plan.calls ctx, InStep (fun s t => s = m ∧ t = .empty) (ctx.answer a)
        ((ctx.memoizing ctx.memoize).answer a) := fun a _ => by
      rw [hself]
      exact Context.answer_inStep hm a
    have := plan.judge_inStep r row hanswer
    rwa [hself] at this
  obtain ⟨hres, hmemo, -⟩ := hstep m .empty ⟨rfl, rfl⟩
  exact Prod.ext hres hmemo

/-! ## Plans -/

/-- What a plan is does not depend on whether aggregations are remembered. -/
theorem Plan.ofRule_memoizing (ctx : Context) (memoize : Bool) (r : Rule) :
    Plan.ofRule (ctx.memoizing memoize) r = Plan.ofRule ctx r := by
  have hprepare (check : Check) : check.prepare (ctx.memoizing memoize) = check.prepare ctx := by
    cases check with
    | tableConditions conditions =>
      unfold Check.prepare
      simp only [TableCondition.outcome_memoizing]
    | _ => rfl
  have hchain (links : Chain Check) :
      Chain.prepare (ctx.memoizing memoize) links = Chain.prepare ctx links := by
    simp only [Chain.prepare, hprepare]
  unfold Plan.ofRule Plan.build
  simp only [hprepare, hchain]

/-- What a plan may ask for does not depend on whether aggregations are remembered. -/
theorem Plan.calls_memoizing (plan : Plan) (ctx : Context) (memoize : Bool) :
    plan.calls (ctx.memoizing memoize) = plan.calls ctx := by
  have hcheck (check : Check) : check.calls (ctx.memoizing memoize) = check.calls ctx := by
    cases check <;> rfl
  cases plan with
  | single p => exact hcheck p.check
  | chain links => simp only [Plan.calls, hcheck]
  | broken message => rfl

end

end RowAudit
