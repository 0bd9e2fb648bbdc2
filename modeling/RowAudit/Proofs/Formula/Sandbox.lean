import RowAudit.Formula.Scope
import RowAudit.Proofs.Formula.Agreement
import RowAudit.Proofs.Formula.Completeness

/-!
# What a row formula can see

The grammar of row formulas has no calls, so no tree that is read in the row dialect contains an
aggregation (`calls_eq_nil_of_parse`). Such a tree sees its row and the cell bound to the name
`value` and nothing else. Its value is a cell, unless an operation on cells fails
(`Expr.eval_gives`), and a table behind it makes no difference as long as none of the configured
aggregations has a label, by which a name might refer to it (`Expr.eval_view_eq`).
-/

namespace RowAudit.Formula

/-! ## Trees without aggregations -/

/-- The grammar of row formulas derives no aggregations. -/
theorem Derives.calls_eq_nil {d : Nat} {c : Category} {ts : List Token} {e : Expr}
    (h : Derives d c ts e) : e.calls = [] := by
  induction h with
  | operand _ ih | primary _ ih | plus _ ih | negate _ ih | not _ ih | parens _ ih
  | list _ ih => exact ih
  | binary _ _ _ ihl ihr =>
    rw [Expr.calls, ihl, ihr]
    rfl
  | number | text | word | column | field | quotedField | emptyList => rfl
  | item _ ih =>
    rw [Expr.calls, Expr.callsItems, ih]
    rfl
  | itemComma _ _ ih ihs =>
    rw [Expr.calls] at ihs
    rw [Expr.calls, Expr.callsItems, ih, ihs]
    rfl

/-- A tree that is read in the row dialect contains no aggregation. -/
theorem calls_eq_nil_of_parse {source : String} {e : Expr} (h : parse .row source = .ok e) :
    e.calls = [] := by
  obtain ⟨tokens, -, hderives, -⟩ := parseWith_row_eq_ok_iff.1 h
  exact hderives.calls_eq_nil

/-! ## Values of such trees -/

/-- The faults of operations on cells. -/
inductive Fault.OfCells : Fault → Prop
  | divisionByZero : OfCells .divisionByZero
  | misuse (m : Misuse) : OfCells (.misuse m)

/-- A result has a property, unless an operation on cells has failed. -/
def Within {α : Type} (P : α → Prop) : Except Fault α → Prop
  | .ok a => P a
  | .error fault => fault.OfCells

/-- Whatever the state, a computation comes to such a result. -/
def Gives {σ α : Type} (P : α → Prop) (x : Run σ α) : Prop := ∀ s, Within P (x.run s).1

section
variable {σ α β : Type} {P : α → Prop} {Q : β → Prop}

/-- Returning a value with a property gives it. -/
theorem Gives.pure {a : α} (h : P a) : Gives P (Pure.pure a : Run σ α) := fun _ => h

/-- Computations in sequence give what the last one does. -/
theorem Gives.bind {x : Run σ α} {f : α → Run σ β} (hx : Gives P x)
    (hf : ∀ a, P a → Gives Q (f a)) :
    Gives Q (x >>= f) := by
  intro s
  have hs := hx s
  rw [run_bind_eq]
  cases hres : (x.run s).1 with
  | ok a => exact hf a (by rwa [hres] at hs) _
  | error fault => rwa [hres] at hs

/-- A step gives as a computation what it gives by itself. -/
theorem Gives.liftExcept {x : Except Fault α} (h : Within P x) : Gives P (liftM x : Run σ α) := by
  cases x <;> exact fun _ => h

end

/-- A value without groups. -/
def Evaluated.IsScalar : Evaluated → Prop
  | .scalar _ => True
  | .groups _ _ => False

section
variable {a b : Evaluated}

/-- A map of one cell gives one cell, if it does not fail. -/
theorem Evaluated.IsScalar.map {f : Cell → Except Fault Cell} (ha : a.IsScalar)
    (hf : ∀ c, Within (fun _ => True) (f c)) : Within IsScalar (a.map f) := by
  cases a with
  | scalar c =>
    have hc := hf c
    show Within IsScalar ((f c).map .scalar)
    cases hres : f c with
    | ok d => trivial
    | error fault => rwa [hres] at hc
  | groups _ _ => exact ha.elim

/-- Two single cells are combined to one, if that does not fail. -/
theorem Evaluated.IsScalar.combine {f : Cell → Cell → Except Fault Cell} (ha : a.IsScalar)
    (hb : b.IsScalar) (hf : ∀ c d, Within (fun _ => True) (f c d)) :
    Within IsScalar (a.combine f b) := by
  cases b with
  | scalar d =>
    cases a with
    | scalar c => exact IsScalar.map (a := .scalar c) trivial fun c => hf c d
    | groups _ _ => exact ha.elim
  | groups _ _ => exact hb.elim

end

/-- A cell has no negative only because of what it is. -/
theorem within_negateCell (c : Cell) : Within (fun _ => True) (negateCell c) := by
  unfold negateCell
  split
  · trivial
  · split
    · trivial
    · exact .misuse _

/-- An arithmetical operation fails by its operands or its result. -/
theorem Arithmetic.within_onCells (op : Arithmetic) (a b : Cell) :
    Within (fun _ => True) (op.onCells a b) := by
  have hnumbers (x y : Float) : Within (fun _ => True) (op.onNumbers x y) := by
    unfold onNumbers
    split
    · exact .divisionByZero
    · split
      · trivial
      · exact .misuse _
  unfold onCells
  split
  · trivial
  · split
    · exact hnumbers _ _
    · split
      · trivial
      · exact .misuse _

namespace Expr

/-- An operator fails only with a fault of operations on cells. -/
theorem within_applyOperator (op : Operator) (a b : Cell) :
    Within (fun _ => True) (applyOperator op a b) := by
  cases op with
  | arithmetic o => exact o.within_onCells a b
  | comparison c | and | or => trivial

section
variable {σ : Type} {v : View σ}

mutual

/-- Where names stand for cells, a tree without aggregations has a cell for its value. -/
theorem eval_gives (hv : ∀ name, Gives Evaluated.IsScalar (v.column name)) :
    ∀ e : Expr, e.calls = [] → Gives Evaluated.IsScalar (e.eval v)
  | literal c, _ => Gives.pure trivial
  | column name, _ => hv name
  | list items, h => by
    rw [eval]
    exact (evalItems_gives hv items h).bind fun _ _ => Gives.pure trivial
  | negate e, h => by
    rw [eval]
    exact (eval_gives hv e h).bind fun a ha => Gives.liftExcept (ha.map within_negateCell)
  | not e, h => by
    rw [eval]
    exact (eval_gives hv e h).bind fun a ha => Gives.liftExcept (ha.map fun _ => trivial)
  | aggregate a, h => nomatch h
  | binary op l r, h => by
    obtain ⟨hl, hr⟩ := List.append_eq_nil_iff.1 h
    have hl : Gives Evaluated.IsScalar (l.eval v) := eval_gives hv l hl
    have hr : Gives Evaluated.IsScalar (r.eval v) := eval_gives hv r hr
    have hboth (hand : op ≠ .and) (hor : op ≠ .or) :
        Gives Evaluated.IsScalar (eval v (binary op l r)) := by
      rw [eval_operator v hand hor]
      cases absenceTest? op l r with
      | some wanted =>
        refine Gives.bind (P := Evaluated.IsScalar) ?_ fun a ha =>
          Gives.liftExcept (ha.map fun _ => trivial)
        split
        · exact hr
        · exact hl
      | none =>
        exact hl.bind fun a ha => hr.bind fun b hb =>
          Gives.liftExcept (ha.combine hb (within_applyOperator op))
    cases op with
    | and =>
      rw [eval]
      refine hl.bind fun a _ => ?_
      split
      · exact hr.bind fun b _ => Gives.pure trivial
      · exact Gives.pure trivial
    | or =>
      rw [eval]
      refine hl.bind fun a _ => ?_
      split
      · exact Gives.pure trivial
      · exact hr.bind fun b _ => Gives.pure trivial
    | arithmetic o => exact hboth nofun nofun
    | comparison c => exact hboth nofun nofun

/-- `eval_gives` over the items of a list. -/
theorem evalItems_gives (hv : ∀ name, Gives Evaluated.IsScalar (v.column name)) :
    ∀ es : List Expr, callsItems es = [] → Gives (fun _ => True) (evalItems v es)
  | [], _ => Gives.pure trivial
  | e :: rest, h => by
    obtain ⟨he, hrest⟩ := List.append_eq_nil_iff.1 h
    rw [evalItems]
    refine (eval_gives hv e he).bind fun a ha => ?_
    have hcell : Gives (fun _ => True) (itemCell a : Run σ Cell) := by
      cases a with
      | scalar c => exact Gives.pure trivial
      | groups _ _ => exact ha.elim
    exact hcell.bind fun c _ => (evalItems_gives hv rest hrest).bind fun cs _ => Gives.pure trivial

end

end

/-! ## Tables behind such trees -/

section
variable {e : Expr} {row : Row} {bound : Option Cell}

/-- Over a row alone a tree without aggregations has a cell for its value, or an operation on cells
has failed. -/
theorem evalRow_within (h : e.calls = []) : Within Evaluated.IsScalar (e.evalRow row bound) := by
  refine eval_gives (fun name => ?_) e h ()
  unfold View.column
  split
  · exact Gives.pure trivial
  · split
    · exact Gives.pure trivial
    · exact Gives.pure trivial

/-- A view of a row in which no name stands for an aggregation shows a tree without aggregations
the row alone. -/
theorem eval_view_eq {v : View Memo} (h : e.calls = []) (hrow : v.row = row)
    (hbound : v.bound = bound) (hlabels : v.labelled = fun _ => none) (m : Memo) :
    (e.eval v).run m = (e.evalRow row bound, m) := by
  have hstep : InStep (fun s (_ : Unit) => s = m) (e.eval v) (e.eval (rowView row bound)) := by
    refine eval_inStep e [] (fun name _ => ?_) fun a ha => ?_
    · refine View.column_inStep hrow hbound hlabels fun a ha => ?_
      rw [hlabels] at ha
      cases ha
    · rw [h] at ha
      cases ha
  obtain ⟨hres, hmemo⟩ := hstep m () rfl
  exact Prod.ext hres hmemo

end

end Expr

/-- Without labels no name stands for an aggregation. -/
theorem Scope.labelled_view {s : Scope} (h : ∀ a ∈ s.aggregations, a.label = none) (row : Row)
    (bound : Option Cell) : (s.view row bound).labelled = fun _ => none := by
  funext name
  refine List.find?_eq_none.2 fun a ha => ?_
  rw [h a ha]
  exact Bool.false_ne_true

/-- A formula of the row dialect sees its row alone. There is no aggregation in it; on every row,
and whatever is bound to the name `value`, it gives a cell, or fails by a division by zero or by a
cell used for what it is not; and it gives the same behind a table without labelled aggregations,
where it leaves the memo as it is. -/
theorem compile_row_sandboxed {source : String} {f : Formula} (h : compile .row source = .ok f) :
    f.expr.calls = [] ∧ ∀ row bound,
      ((∃ c, f.expr.evalRow row bound = .ok (.scalar c)) ∨
        f.expr.evalRow row bound = .error .divisionByZero ∨
        ∃ m, f.expr.evalRow row bound = .error (.misuse m)) ∧
      ∀ scope : Option Scope, (∀ s ∈ scope, ∀ a ∈ s.aggregations, a.label = none) →
        ∀ m, (f.evaluate row bound scope).run m = (f.expr.evalRow row bound, m) := by
  have hcalls : f.expr.calls = [] := by
    unfold compile at h
    cases hparse : parse .row source with
    | error fault => rw [hparse] at h; cases h
    | ok e =>
      rw [hparse] at h
      cases h
      exact calls_eq_nil_of_parse hparse
  refine ⟨hcalls, fun row bound => ⟨?_, fun scope hscope m => ?_⟩⟩
  · have hwithin : Within Evaluated.IsScalar (f.expr.evalRow row bound) :=
      Expr.evalRow_within hcalls
    cases hres : f.expr.evalRow row bound with
    | ok value =>
      rw [hres] at hwithin
      cases value with
      | scalar c => exact .inl ⟨c, rfl⟩
      | groups _ _ => exact hwithin.elim
    | error fault =>
      rw [hres] at hwithin
      cases hwithin with
      | divisionByZero => exact .inr (.inl rfl)
      | misuse m => exact .inr (.inr ⟨m, rfl⟩)
  · cases scope with
    | none => exact Expr.eval_view_eq hcalls rfl rfl rfl m
    | some s =>
      exact Expr.eval_view_eq hcalls rfl rfl (Scope.labelled_view (hscope s rfl) row bound) m

/-- The rows behind a formula, and a configured number of them without a label. -/
def stock : Scope :=
  ⟨"stock", [.ofList [("qty", .number 3)]], [{ function := ⟨false, .count⟩, column := "*" }], true⟩

/-- A formula that divides the bound cell by a column sees the row alone, also in front of
`stock`. -/
theorem compile_share_sandboxed :
    ∃ f, compile .row "return value / row[\"qty\"] > 2;" = .ok f ∧ f.expr.calls = [] ∧
      ∀ m, (f.evaluate (.ofList [("qty", .number 0)]) (some (.number 1)) (some stock)).run m =
        (f.expr.evalRow (.ofList [("qty", .number 0)]) (some (.number 1)), m) := by
  cases h : compile .row "return value / row[\"qty\"] > 2;" with
  | ok f =>
    obtain ⟨hcalls, hrow⟩ := compile_row_sandboxed h
    refine ⟨f, rfl, hcalls, (hrow _ _).2 (some stock) ?_⟩
    simp [stock]
  | error fault =>
    have hok : (compile .row "return value / row[\"qty\"] > 2;").isOk = true := by decide +kernel
    rw [h] at hok
    cases hok

end RowAudit.Formula
