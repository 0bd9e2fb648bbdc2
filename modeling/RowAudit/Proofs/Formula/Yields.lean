import RowAudit.Proofs.Formula.Agreement

/-!
# What trees yield

`Yields e cell` says that the walk over a tree comes to a cell on every row alone, with nothing
bound to the name `value`. There is one lemma for each kind of node that filters of conditions are
written with: columns, literals, negative numbers, comparisons, conjunctions and disjunctions.
-/

namespace RowAudit

/-- A row reads null in the columns that it does not have. -/
theorem Row.get_of_has_eq_false {row : Row} {name : String} (h : row.has name = false) :
    row.get name = .null := by
  have hfind : List.find? (·.1 == name) row.cells = none := by
    rw [List.find?_eq_none]
    exact List.any_eq_false.1 h
  rw [get, Fields.get?, hfind]
  rfl

namespace Formula

/-! ## Names -/

/-- The bound cell, for the name that it is bound to. -/
def boundTo (name : String) (bound : Option Cell) : Option Cell :=
  if name = "value" then bound else none

/-- A name that stands for no aggregation means the bound cell or else the cell of the row. -/
theorem View.column_of_unlabelled {σ : Type} (v : View σ) (name : String)
    (h : boundTo name v.bound ≠ none ∨ v.row.has name = true ∨ v.labelled name = none) :
    v.column name = pure (.scalar ((boundTo name v.bound).getD (v.row.get name))) := by
  have hbound : (if name = "value" then v.bound else none) = boundTo name v.bound := rfl
  rw [View.column, hbound]
  cases hbound : boundTo name v.bound with
  | some c => rfl
  | none =>
    cases hrow : v.row.has name with
    | true => rfl
    | false =>
      obtain h | h | h := h
      · exact absurd hbound h
      · rw [hrow] at h; cases h
      · rw [h, Row.get_of_has_eq_false hrow]
        rfl

namespace Expr

/-! ## Trees -/

/-- On every row alone a tree has the cell that a function of the row gives. -/
def Yields (e : Expr) (cell : Row → Cell) : Prop :=
  ∀ row, e.eval (rowView row none) = pure (.scalar (cell row))

section
variable {l r : Expr} {f g : Row → Cell}

/-- A column yields the cell of the row. -/
theorem yields_column (name : String) : Yields (.column name) fun row => row.get name := by
  intro row
  have hunbound : boundTo name none = none := ite_self _
  show (rowView row none).column name = _
  rw [(rowView row none).column_of_unlabelled name (.inr (.inr rfl))]
  show pure (Evaluated.scalar ((boundTo name none).getD (row.get name))) = _
  rw [hunbound]
  rfl

/-- A literal yields its cell. -/
theorem yields_literal (c : Cell) : Yields (.literal c) fun _ => c := fun _ => rfl

/-- The negative of a number. -/
theorem yields_negate {x : Float} (hx : Number.isFinite x = true) :
    Yields (.negate (.literal (.number x))) fun _ => .number (-x) := by
  intro row
  have hnegate : negateCell (.number x) = .ok (.number (-x)) := by
    rw [negateCell, Cell.number?, hx]
    rfl
  show ((Evaluated.scalar (.number x)).map negateCell : Run Unit _) = _
  rw [Evaluated.map, hnegate]
  rfl

/-- A comparison that is no test for absence. -/
theorem Yields.comparison {c : Comparison} (hl : Yields l f) (hr : Yields r g)
    (hnull : l.isNullLiteral = false ∧ r.isNullLiteral = false) :
    Yields (.binary (.comparison c) l r) fun row => .bool (c.holds (f row) (g row)) := by
  intro row
  have htest : absenceTest? (.comparison c) l r = none := by
    rw [absenceTest?.eq_def, hnull.1, hnull.2]
    rfl
  have hand : Operator.comparison c ≠ .and := by simp
  have hor : Operator.comparison c ≠ .or := by simp
  rw [eval_operator _ hand hor, htest, hl row, hr row]
  rfl

/-- A conjunction yields both truth values together. -/
theorem Yields.and {a b : Row → Bool} (hl : Yields l fun row => .bool (a row))
    (hr : Yields r fun row => .bool (b row)) :
    Yields (.binary .and l r) fun row => .bool (a row && b row) := by
  intro row
  have hright : (eval (rowView row none) r >>= fun c => pure (Evaluated.scalar (.bool c.verdict))) =
      (pure (.scalar (.bool (b row))) : Run Unit Evaluated) := by
    rw [hr row]
    rfl
  rw [eval, hl row]
  change (if a row = true then _ else pure (.scalar (.bool false))) =
    (pure (.scalar (.bool (a row && b row))) : Run Unit Evaluated)
  cases a row with
  | true => rw [if_pos rfl, hright, Bool.true_and]
  | false => rw [if_neg Bool.false_ne_true, Bool.false_and]

/-- A disjunction yields one truth value or the other. -/
theorem Yields.or {a b : Row → Bool} (hl : Yields l fun row => .bool (a row))
    (hr : Yields r fun row => .bool (b row)) :
    Yields (.binary .or l r) fun row => .bool (a row || b row) := by
  intro row
  have hright : (eval (rowView row none) r >>= fun c => pure (Evaluated.scalar (.bool c.verdict))) =
      (pure (.scalar (.bool (b row))) : Run Unit Evaluated) := by
    rw [hr row]
    rfl
  rw [eval, hl row]
  change (if a row = true then pure (.scalar (.bool true)) else _) =
    (pure (.scalar (.bool (a row || b row))) : Run Unit Evaluated)
  cases a row with
  | true => rw [if_pos rfl, Bool.true_or]
  | false => rw [if_neg Bool.false_ne_true, hright, Bool.false_or]

end

end Expr

end Formula

end RowAudit
