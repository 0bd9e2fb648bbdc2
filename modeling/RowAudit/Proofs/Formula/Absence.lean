import RowAudit.Proofs.Basic
import RowAudit.Proofs.Cell.Order
import RowAudit.Proofs.Formula.Sandbox
import RowAudit.Proofs.Formula.Yields

/-!
# Absence in formulas

Over a row alone, the value of a tree comes from the values of its parts by the equations of the
first section. A calculation, a tree of negations and arithmetical operations over columns and
literals, has an absent value exactly if one of these has (`Expr.Calculation.exists_isAbsent_iff`),
since each operation gives null for an absent operand and something present otherwise. No comparison
with an absent value holds, unless it asks for absence (`evaluate_absence`).
-/

namespace RowAudit.Formula

/-! ## Values over a row alone -/

/-- Without a memo, computations in sequence are steps in sequence. -/
theorem run_bind_unit {α β : Type} (x : Run Unit α) (f : α → Run Unit β) :
    ((x >>= f).run ()).1 = (x.run ()).1 >>= fun a => ((f a).run ()).1 := by
  rw [run_bind_eq]
  cases (x.run ()).1 <;> rfl

/-- Without a memo, a step is what it is as a computation. -/
theorem run_liftM_unit {α : Type} (x : Except Fault α) : ((liftM x : Run Unit α).run ()).1 = x := by
  cases x <;> rfl

namespace Expr

variable {row : Row} {bound : Option Cell} {e l r : Expr}

/-- A literal has its cell for its value. -/
theorem evalRow_literal (c : Cell) : (literal c).evalRow row bound = .ok (.scalar c) := rfl

/-- A name has the bound cell, or that of the row, for its value. -/
theorem evalRow_column (name : String) :
    (column name).evalRow row bound = .ok (.scalar ((boundTo name bound).getD (row.get name))) := by
  have hcolumn := (rowView row bound).column_of_unlabelled name (.inr (.inr rfl))
  rw [evalRow, eval, hcolumn]
  rfl

/-- A negation is that of the value of its operand. -/
theorem evalRow_negate (e : Expr) :
    (negate e).evalRow row bound = e.evalRow row bound >>= fun a => a.map negateCell := by
  rw [evalRow, eval, run_bind_unit]
  simp only [run_liftM_unit, evalRow]

/-- A logical negation is that of the truth of its operand. -/
theorem evalRow_not (e : Expr) :
    (not e).evalRow row bound =
      e.evalRow row bound >>= fun a => a.map fun c => .ok (.bool !c.truthy) := by
  rw [evalRow, eval, run_bind_unit]
  simp only [run_liftM_unit, evalRow]

/-- The value under an operator that needs both sides, or asks for the absence of one. -/
theorem evalRow_operator {op : Operator} (hand : op ≠ .and) (hor : op ≠ .or) :
    (binary op l r).evalRow row bound =
      match absenceTest? op l r with
      | some wanted =>
        (if l.isNullLiteral then r.evalRow row bound else l.evalRow row bound) >>= fun a =>
          a.map fun c => .ok (.bool (c.isAbsent == wanted))
      | none => l.evalRow row bound >>= fun a => r.evalRow row bound >>= fun b =>
          a.combine (applyOperator op) b := by
  rw [evalRow, eval_operator _ hand hor]
  cases absenceTest? op l r with
  | some wanted =>
    simp only [run_bind_unit, run_liftM_unit, evalRow]
    split <;> rfl
  | none => simp only [run_bind_unit, run_liftM_unit, evalRow]

end Expr

section
variable {a b v : Evaluated}

/-- A map of one cell gives one cell. -/
theorem Evaluated.IsScalar.of_map {f : Cell → Except Fault Cell} (ha : a.IsScalar)
    (h : a.map f = .ok v) : v.IsScalar := by
  cases a with
  | scalar c =>
    obtain ⟨d, -, rfl⟩ := exists_of_map_eq_ok h
    trivial
  | groups _ _ => exact ha.elim

/-- Two single cells are combined to one. -/
theorem Evaluated.IsScalar.of_combine {f : Cell → Cell → Except Fault Cell} (ha : a.IsScalar)
    (hb : b.IsScalar) (h : a.combine f b = .ok v) : v.IsScalar := by
  cases a with
  | groups _ _ => exact ha.elim
  | scalar c =>
    cases b with
    | groups _ _ => exact hb.elim
    | scalar d =>
      obtain ⟨e, -, rfl⟩ := exists_of_map_eq_ok h
      trivial

end

namespace Expr

variable {row : Row} {bound : Option Cell} {e l r : Expr}

/-- Without a table no value has groups, since only aggregations give them. -/
theorem isScalar_of_evalRow : ∀ {e : Expr} {v : Evaluated}, e.evalRow row bound = .ok v → v.IsScalar
  | literal _, v, h => by
    cases h
    trivial
  | column name, v, h => by
    rw [evalRow_column] at h
    cases h
    trivial
  | list items, v, h => by
    rw [evalRow, eval, run_bind_unit] at h
    obtain ⟨cells, -, h⟩ := exists_of_bind_eq_ok h
    cases h
    trivial
  | negate e, v, h => by
    rw [evalRow_negate] at h
    obtain ⟨a, ha, h⟩ := exists_of_bind_eq_ok h
    exact (isScalar_of_evalRow ha).of_map h
  | not e, v, h => by
    rw [evalRow_not] at h
    obtain ⟨a, ha, h⟩ := exists_of_bind_eq_ok h
    exact (isScalar_of_evalRow ha).of_map h
  | aggregate a, v, h => by cases h
  | binary op l r, v, h => by
    have hboth (hand : op ≠ .and) (hor : op ≠ .or) : v.IsScalar := by
      rw [evalRow_operator hand hor] at h
      split at h
      · obtain ⟨a, ha, h⟩ := exists_of_bind_eq_ok h
        split at ha
        · exact (isScalar_of_evalRow ha).of_map h
        · exact (isScalar_of_evalRow ha).of_map h
      · obtain ⟨a, ha, h⟩ := exists_of_bind_eq_ok h
        obtain ⟨b, hb, h⟩ := exists_of_bind_eq_ok h
        exact (isScalar_of_evalRow ha).of_combine (isScalar_of_evalRow hb) h
    cases op with
    | and =>
      rw [evalRow, eval, run_bind_unit] at h
      obtain ⟨a, -, h⟩ := exists_of_bind_eq_ok h
      split at h
      · rw [run_bind_unit] at h
        obtain ⟨b, -, h⟩ := exists_of_bind_eq_ok h
        cases h
        trivial
      · cases h
        trivial
    | or =>
      rw [evalRow, eval, run_bind_unit] at h
      obtain ⟨a, -, h⟩ := exists_of_bind_eq_ok h
      split at h
      · cases h
        trivial
      · rw [run_bind_unit] at h
        obtain ⟨b, -, h⟩ := exists_of_bind_eq_ok h
        cases h
        trivial
    | arithmetic o => exact hboth (by simp) (by simp)
    | comparison c => exact hboth (by simp) (by simp)

/-- Under an operator that needs both sides, these have cells to which it is applied. -/
theorem exists_of_evalRow_operator {op : Operator} {v : Evaluated}
    (h : (binary op l r).evalRow row bound = .ok v) (hand : op ≠ .and) (hor : op ≠ .or)
    (htest : absenceTest? op l r = none) :
    ∃ a b c, l.evalRow row bound = .ok (.scalar a) ∧ r.evalRow row bound = .ok (.scalar b) ∧
      applyOperator op a b = .ok c ∧ v = .scalar c := by
  rw [evalRow_operator hand hor, htest] at h
  obtain ⟨a, ha, h⟩ := exists_of_bind_eq_ok h
  obtain ⟨b, hb, h⟩ := exists_of_bind_eq_ok h
  cases a with
  | groups _ _ => exact (isScalar_of_evalRow ha).elim
  | scalar a =>
    cases b with
    | groups _ _ => exact (isScalar_of_evalRow hb).elim
    | scalar b =>
      obtain ⟨c, hc, rfl⟩ := exists_of_map_eq_ok h
      exact ⟨a, b, c, ha, hb, hc, rfl⟩

/-- A negation with a value negates the cell of its operand. -/
theorem exists_of_evalRow_negate {v : Evaluated} (h : (negate e).evalRow row bound = .ok v) :
    ∃ a c, e.evalRow row bound = .ok (.scalar a) ∧ negateCell a = .ok c ∧ v = .scalar c := by
  rw [evalRow_negate] at h
  obtain ⟨a, ha, h⟩ := exists_of_bind_eq_ok h
  cases a with
  | groups _ _ => exact (isScalar_of_evalRow ha).elim
  | scalar a =>
    obtain ⟨c, hc, rfl⟩ := exists_of_map_eq_ok h
    exact ⟨a, c, ha, hc, rfl⟩

/-- Arithmetical operations are no tests of absence. -/
theorem absenceTest?_arithmetic (op : Arithmetic) (l r : Expr) :
    absenceTest? (.arithmetic op) l r = none := by
  unfold absenceTest?
  split <;> rfl

/-- An operation without the literal null is no test of absence. -/
theorem absenceTest?_of_not_null (op : Operator) (hl : l.isNullLiteral = false)
    (hr : r.isNullLiteral = false) : absenceTest? op l r = none := by
  rw [absenceTest?.eq_def, hl, hr]
  rfl

end Expr

/-! ## Absence -/

/-- A negated cell is absent if the cell is. -/
theorem isAbsent_negateCell {c d : Cell} (h : negateCell c = .ok d) : d.isAbsent = c.isAbsent := by
  unfold negateCell at h
  split at h
  · next hc =>
    cases h
    exact hc.symm
  · next hc =>
    split at h
    · cases h
      exact (Bool.not_eq_true _ ▸ hc).symm
    · cases h

/-- An operation gives something absent exactly if an operand is. -/
theorem Arithmetic.isAbsent_onCells {op : Arithmetic} {a b c : Cell} (h : op.onCells a b = .ok c) :
    c.isAbsent = (a.isAbsent || b.isAbsent) := by
  unfold onCells at h
  split at h
  · next habsent =>
    cases h
    exact habsent.symm
  · next hpresent =>
    rw [Bool.not_eq_true] at hpresent
    rw [hpresent]
    split at h
    · unfold onNumbers at h
      split at h
      · cases h
      · split at h <;> cases h
        rfl
    · split at h
      · cases h
        have ha : a.display ≠ "" := Cell.display_ne_empty (Bool.or_eq_false_iff.1 hpresent).1
        show (a.display ++ b.display == "") = false
        simp [ha]
      · cases h

namespace Expr

/-- Trees of negations and arithmetical operations over columns and literals, with these leaves from
left to right. -/
inductive Calculation : Expr → List Expr → Prop
  | literal (c : Cell) : Calculation (.literal c) [.literal c]
  | column (name : String) : Calculation (.column name) [.column name]
  | negate {e : Expr} {leaves : List Expr} (h : Calculation e leaves) :
      Calculation (.negate e) leaves
  | arithmetic (op : Arithmetic) {l r : Expr} {ls rs : List Expr} (hl : Calculation l ls)
    (hr : Calculation r rs) : Calculation (.binary (.arithmetic op) l r) (ls ++ rs)

/-- A tree has an absent value over a row alone. -/
def AbsentOn (row : Row) (bound : Option Cell) (e : Expr) : Prop :=
  ∃ c, e.evalRow row bound = .ok (.scalar c) ∧ c.isAbsent = true

section
variable {row : Row} {bound : Option Cell} {e l r : Expr} {leaves : List Expr} {c : Cell}

/-- A tree with a value is absent if the value is. -/
theorem absentOn_iff (h : e.evalRow row bound = .ok (.scalar c)) :
    e.AbsentOn row bound ↔ c.isAbsent = true := by
  constructor
  · rintro ⟨d, hd, habsent⟩
    cases hd.symm.trans h
    exact habsent
  · intro habsent
    exact ⟨c, h, habsent⟩

/-- A calculation that has a value is absent exactly if one of its leaves is. -/
theorem Calculation.exists_isAbsent_iff (he : Calculation e leaves) {v : Evaluated}
    (h : e.evalRow row bound = .ok v) :
    ∃ c, v = .scalar c ∧ (c.isAbsent = true ↔ ∃ leaf ∈ leaves, leaf.AbsentOn row bound) := by
  induction he generalizing v with
  | literal d =>
    cases h
    exact ⟨d, rfl, by simp [absentOn_iff (evalRow_literal d)]⟩
  | column name =>
    have hcolumn : (Expr.column name).evalRow row bound = _ := evalRow_column name
    cases hcolumn.symm.trans h
    exact ⟨_, rfl, by simp [absentOn_iff hcolumn]⟩
  | negate _ ih =>
    obtain ⟨a, c, ha, hc, rfl⟩ := exists_of_evalRow_negate h
    obtain ⟨_, ⟨⟩, habsent⟩ := ih ha
    exact ⟨c, rfl, by rw [isAbsent_negateCell hc, habsent]⟩
  | arithmetic op _ _ ihl ihr =>
    obtain ⟨a, b, c, ha, hb, hc, rfl⟩ :=
      exists_of_evalRow_operator h (by simp) (by simp) (absenceTest?_arithmetic op _ _)
    obtain ⟨_, ⟨⟩, hleft⟩ := ihl ha
    obtain ⟨_, ⟨⟩, hright⟩ := ihr hb
    refine ⟨c, rfl, ?_⟩
    rw [Arithmetic.isAbsent_onCells hc, Bool.or_eq_true, hleft, hright]
    simp only [List.mem_append, or_and_right, exists_or]

/-- A comparison with an absent value does not hold. -/
theorem evalRow_comparison_of_absent {op : Comparison} {v : Evaluated}
    (hl : l.isNullLiteral = false)
    (hr : r.isNullLiteral = false) (habsent : l.AbsentOn row bound ∨ r.AbsentOn row bound)
    (h : (binary (.comparison op) l r).evalRow row bound = .ok v) : v = .scalar (.bool false) := by
  obtain ⟨a, b, c, ha, hb, hc, rfl⟩ :=
    exists_of_evalRow_operator h (by simp) (by simp) (absenceTest?_of_not_null _ hl hr)
  rw [absentOn_iff ha, absentOn_iff hb] at habsent
  cases hc
  rw [Comparison.holds, Comparison.holdsAt_eq, Cell.order?_of_absent habsent]
  rfl

end

end Expr

/-- Without a table a formula sees the row alone. -/
theorem run_evaluate_none (f : Formula) (row : Row) (bound : Option Cell) (m : Memo) :
    (f.evaluate row bound none).run m = (f.expr.evalRow row bound, m) := by
  have hstep : InStep (fun s (_ : Unit) => s = m) (f.expr.eval (bareView row bound))
      (f.expr.eval (Expr.rowView row bound)) := by
    refine Expr.eval_inStep f.expr [] (fun name _ => ?_) fun a _ => InStep.throw _
    have hlabelled (a : Aggregation) : (bareView row bound).labelled name ≠ some a :=
      Option.some_ne_none a |>.symm
    exact View.column_inStep (v := bareView row bound) (w := Expr.rowView row bound) rfl rfl rfl
      fun a ha => absurd ha (hlabelled a)
  obtain ⟨hres, hmemo⟩ := hstep m () rfl
  exact Prod.ext hres hmemo

/-- Absence spreads over calculations. Over a row alone, a calculation that has a value has an
absent one exactly if one of its columns and literals has. A comparison that has a value does not
hold if a side of it is absent; only one with the literal null beside it asks for absence. A formula
that is evaluated without a table has these values. -/
theorem evaluate_absence (row : Row) (bound : Option Cell) :
    (∀ (e : Expr) (leaves : List Expr), e.Calculation leaves → ∀ v, e.evalRow row bound = .ok v →
      ∃ c, v = .scalar c ∧ (c.isAbsent = true ↔ ∃ leaf ∈ leaves, leaf.AbsentOn row bound)) ∧
    (∀ l r : Expr, l.isNullLiteral = false → r.isNullLiteral = false →
      l.AbsentOn row bound ∨ r.AbsentOn row bound → ∀ (op : Comparison) (v : Evaluated),
        (Expr.binary (.comparison op) l r).evalRow row bound = .ok v → v = .scalar (.bool false)) ∧
    ∀ (f : Formula) (m : Memo),
      (f.evaluate row bound none).run m = (f.expr.evalRow row bound, m) := by
  refine ⟨fun e leaves he v h => he.exists_isAbsent_iff h, fun l r hl hr habsent op v h => ?_, ?_⟩
  · exact Expr.evalRow_comparison_of_absent hl hr habsent h
  · exact fun f m => run_evaluate_none f row bound m

/-- A price for a number of pieces. -/
def charge : Expr :=
  .binary (.arithmetic .add)
    (.negate (.binary (.arithmetic .mul) (.column "price") (.column "pieces")))
    (.literal (.text " EUR"))

/-- Without the number of pieces the price is absent, and does not even differ from three. -/
theorem evaluate_absence_charge :
    let row := Row.ofList [("price", .text "7")]
    let three := Expr.literal (.number 3)
    let leaves := [Expr.column "price", .column "pieces", .literal (.text " EUR")]
    (charge.Calculation leaves ∧ charge.isNullLiteral = false ∧ three.isNullLiteral = false ∧
      charge.AbsentOn row none) ∧
    (∃ leaf ∈ leaves, leaf.AbsentOn row none) ∧
    (Expr.binary (.comparison .notEqual) charge three).evalRow row none =
      .ok (.scalar (.bool false)) := by
  intro row three leaves
  have hcharge : charge.Calculation leaves :=
    .arithmetic .add (.negate (.arithmetic .mul (.column "price") (.column "pieces"))) (.literal _)
  have hvalue : charge.evalRow row none = .ok (.scalar .null) := rfl
  have habsent : charge.AbsentOn row none := ⟨.null, hvalue, rfl⟩
  obtain ⟨hcalculation, hcomparison, -⟩ := evaluate_absence row none
  obtain ⟨c, hc, hleaves⟩ := hcalculation charge leaves hcharge _ hvalue
  cases hc
  obtain ⟨v, hv⟩ :
      ∃ v, (Expr.binary (.comparison .notEqual) charge three).evalRow row none = .ok v :=
    ⟨_, rfl⟩
  rw [hcomparison charge three rfl rfl (.inl habsent) .notEqual v hv] at hv
  exact ⟨⟨hcharge, rfl, rfl, habsent⟩, hleaves.1 rfl, hv⟩

end RowAudit.Formula
