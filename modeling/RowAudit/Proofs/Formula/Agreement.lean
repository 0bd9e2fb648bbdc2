import RowAudit.Formula.Eval

/-!
# Evaluations in step

Two computations are in step under a relation of their states (`InStep`) if from related states they
come to the same result, or the same fault, in related states again. The walk over a formula looks
at its surroundings only through the columns and the aggregations that occur in it, so two walks are
in step as soon as these are (`Expr.eval_inStep`).
-/

namespace RowAudit.Formula

/-! ## Computations in step -/

section
variable {σ τ ε α β : Type} {R : σ → τ → Prop}

/-- What follows a computation starts in the state that it has left, unless it has failed. -/
theorem run_bind_eq (x : ExceptT ε (StateM σ) α) (f : α → ExceptT ε (StateM σ) β) (s : σ) :
    (x >>= f).run s =
      (match (x.run s).1 with
       | .ok a => (f a).run (x.run s).2
       | .error e => (.error e, (x.run s).2) : Except ε β × σ) := by
  show (ExceptT.bindCont f (x.run s).1) (x.run s).2 = _
  cases (x.run s).1 <;> rfl

/-- From related states two computations give one result and related states. -/
def InStep (R : σ → τ → Prop) (x : ExceptT ε (StateM σ) α) (y : ExceptT ε (StateM τ) α) : Prop :=
  ∀ s t, R s t → (x.run s).1 = (y.run t).1 ∧ R (x.run s).2 (y.run t).2

namespace InStep

/-- Returning a value is in step with itself. -/
theorem pure (a : α) : InStep (ε := ε) R (Pure.pure a) (Pure.pure a) := fun _ _ h => ⟨rfl, h⟩

/-- Failing is in step with itself. -/
theorem throw (e : ε) :
    InStep (α := α) R (MonadExcept.throw e : ExceptT ε (StateM σ) α)
      (MonadExcept.throw e : ExceptT ε (StateM τ) α) := fun _ _ h => ⟨rfl, h⟩

/-- What follows has to be in step for the results that the first computation can give. -/
theorem bind {x : ExceptT ε (StateM σ) α} {y : ExceptT ε (StateM τ) α}
    {f : α → ExceptT ε (StateM σ) β} {g : α → ExceptT ε (StateM τ) β} (hx : InStep R x y)
    (hf : ∀ a, InStep R (f a) (g a)) : InStep R (x >>= f) (y >>= g) := by
  intro s t h
  obtain ⟨hres, hst⟩ := hx s t h
  rw [run_bind_eq, run_bind_eq, ← hres]
  cases (x.run s).1 with
  | ok a => exact hf a _ _ hst
  | error e => exact ⟨rfl, hst⟩

/-- A computation without state is in step with itself. -/
theorem liftExcept (x : Except ε α) :
    InStep R (monadLift x : ExceptT ε (StateM σ) α) (monadLift x : ExceptT ε (StateM τ) α) := by
  cases x <;> exact fun _ _ h => ⟨rfl, h⟩

end InStep

end

/-! ## Formulas -/

/-- A name is in step if the aggregation that it may stand for is. -/
theorem View.column_inStep {σ τ : Type} {R : σ → τ → Prop} {v : View σ} {w : View τ}
    (hrow : v.row = w.row) (hbound : v.bound = w.bound) (hlabel : v.labelled = w.labelled)
    {name : String} (hcall : ∀ a, v.labelled name = some a → InStep R (v.call a) (w.call a)) :
    InStep R (v.column name) (w.column name) := by
  unfold View.column
  rw [← hrow, ← hbound, ← hlabel]
  split
  · exact InStep.pure _
  · split
    · exact InStep.pure _
    · split
      · next a ha => exact hcall a ha
      · exact InStep.pure _

namespace Expr

mutual

/-- The aggregations that occur in a tree. -/
def calls : Expr → List Aggregation
  | literal _ => []
  | column _ => []
  | list items => callsItems items
  | negate e => calls e
  | not e => calls e
  | binary _ l r => calls l ++ calls r
  | aggregate a => [a]

/-- `calls` over the items of a list. -/
def callsItems : List Expr → List Aggregation
  | [] => []
  | e :: rest => calls e ++ callsItems rest

end

mutual

/-- Columns that have been seen stay listed. -/
theorem subset_columnsAfter : ∀ (e : Expr) (seen : List String), seen ⊆ columnsAfter seen e
  | literal _, _ => fun _ h => h
  | column name, seen => by
    intro n hn
    unfold columnsAfter
    split
    · exact hn
    · exact List.mem_append_left _ hn
  | list items, seen => subset_columnsAfterItems items seen
  | negate e, seen => subset_columnsAfter e seen
  | not e, seen => subset_columnsAfter e seen
  | binary _ l r, seen => fun _ h =>
    subset_columnsAfter r (columnsAfter seen l) (subset_columnsAfter l seen h)
  | aggregate _, _ => fun _ h => h

/-- `subset_columnsAfter` over the items of a list. -/
theorem subset_columnsAfterItems :
    ∀ (es : List Expr) (seen : List String), seen ⊆ columnsAfterItems seen es
  | [], _ => fun _ h => h
  | e :: rest, seen => fun _ h =>
    subset_columnsAfterItems rest (columnsAfter seen e) (subset_columnsAfter e seen h)

end

/-- The value of a tree with an operator that needs both sides, or asks for the absence of one. -/
theorem eval_operator {σ : Type} (v : View σ) {op : Operator} (hand : op ≠ .and) (hor : op ≠ .or)
    (l r : Expr) :
    eval v (binary op l r) =
      match absenceTest? op l r with
      | some wanted =>
        (if l.isNullLiteral then eval v r else eval v l) >>= fun a =>
          liftM (a.map fun c => .ok (.bool (c.isAbsent == wanted)))
      | none =>
        eval v l >>= fun a => eval v r >>= fun b => liftM (a.combine (applyOperator op) b) := by
  rw [eval]
  · cases absenceTest? op l r with
    | some wanted => cases l.isNullLiteral <;> rfl
    | none => rfl
  · exact hand
  · exact hor

section
variable {σ τ : Type} {R : σ → τ → Prop} {v : View σ} {w : View τ}

/-- List items are in step: both have groups, or neither has. -/
theorem itemCell_inStep (a : Evaluated) :
    InStep R (itemCell a : Run σ Cell) (itemCell a : Run τ Cell) := by
  cases a with
  | scalar c => exact InStep.pure c
  | groups values handling => exact InStep.throw _

mutual

/-- Walks over a tree are in step if the columns that it reads and the aggregations in it are. -/
theorem eval_inStep : ∀ (e : Expr) (seen : List String),
    (∀ name ∈ columnsAfter seen e, InStep R (v.column name) (w.column name)) →
    (∀ a ∈ e.calls, InStep R (v.call a) (w.call a)) → InStep R (e.eval v) (e.eval w)
  | literal c, _, _, _ => InStep.pure _
  | column name, seen, hcol, _ => by
    refine hcol name ?_
    unfold columnsAfter
    split
    · next h => exact List.contains_iff_mem.1 h
    · exact List.mem_append_right _ (List.mem_singleton_self name)
  | list items, seen, hcol, hcall => by
    rw [eval, eval]
    exact (evalItems_inStep items seen hcol hcall).bind fun _ => InStep.pure _
  | negate e, seen, hcol, hcall => by
    rw [eval, eval]
    exact (eval_inStep e seen hcol hcall).bind fun a => InStep.liftExcept _
  | not e, seen, hcol, hcall => by
    rw [eval, eval]
    exact (eval_inStep e seen hcol hcall).bind fun a => InStep.liftExcept _
  | aggregate a, _, _, hcall => hcall a (List.mem_singleton_self a)
  | binary op l r, seen, hcol, hcall => by
    have hl : InStep R (l.eval v) (l.eval w) :=
      eval_inStep l seen (fun n hn => hcol n (subset_columnsAfter r _ hn))
        fun a ha => hcall a (List.mem_append_left _ ha)
    have hr : InStep R (r.eval v) (r.eval w) :=
      eval_inStep r (columnsAfter seen l) hcol fun a ha => hcall a (List.mem_append_right _ ha)
    have hboth (hand : op ≠ .and) (hor : op ≠ .or) :
        InStep R (eval v (binary op l r)) (eval w (binary op l r)) := by
      rw [eval_operator v hand hor, eval_operator w hand hor]
      cases absenceTest? op l r with
      | some wanted =>
        refine InStep.bind ?_ fun a => InStep.liftExcept _
        split
        · exact hr
        · exact hl
      | none => exact hl.bind fun a => hr.bind fun b => InStep.liftExcept _
    cases op with
    | and =>
      rw [eval, eval]
      refine hl.bind fun a => ?_
      split
      · exact hr.bind fun b => InStep.pure _
      · exact InStep.pure _
    | or =>
      rw [eval, eval]
      refine hl.bind fun a => ?_
      split
      · exact InStep.pure _
      · exact hr.bind fun b => InStep.pure _
    | arithmetic o => exact hboth nofun nofun
    | comparison c => exact hboth nofun nofun

/-- `eval_inStep` over the items of a list. -/
theorem evalItems_inStep : ∀ (es : List Expr) (seen : List String),
    (∀ name ∈ columnsAfterItems seen es, InStep R (v.column name) (w.column name)) →
    (∀ a ∈ callsItems es, InStep R (v.call a) (w.call a)) →
    InStep R (evalItems v es) (evalItems w es)
  | [], _, _, _ => InStep.pure _
  | e :: rest, seen, hcol, hcall => by
    rw [evalItems, evalItems]
    refine (eval_inStep e seen (fun n hn => hcol n (subset_columnsAfterItems rest _ hn))
      fun a ha => hcall a (List.mem_append_left _ ha)).bind fun a => ?_
    refine (itemCell_inStep a).bind fun c => ?_
    refine (evalItems_inStep rest (columnsAfter seen e) hcol fun a ha =>
      hcall a (List.mem_append_right _ ha)).bind fun cs => InStep.pure _

end

end

end Expr

end RowAudit.Formula
