import RowAudit.Proofs.Aggregation.Overflow
import RowAudit.Proofs.Formula.GroupedOperands
import RowAudit.Proofs.Formula.Yields

/-!
# Formulas out of the range of numbers

The operators of formulas check the numbers that they come to: one that is not finite is a fault.
Literals are not checked when they are read, nor are aggregations when they are computed. So a
number that is not finite gets into the value of a formula over finite cells from a literal or an
aggregation that is not the operand of an operator, and only from there (`Formula.evaluate_keeps`).
-/

namespace RowAudit.Formula

/-! ## Runs that keep an invariant -/

/-- From a state with an invariant a computation comes to such a state again, and its result, if it
has one, has a property. -/
def Keeps {σ α : Type} (I : σ → Prop) (P : α → Prop) (x : Run σ α) : Prop :=
  ∀ m, I m → I (x.run m).2 ∧ ∀ a, (x.run m).1 = .ok a → P a

namespace Keeps

variable {σ α β : Type} {I : σ → Prop} {P : α → Prop} {Q : β → Prop}

/-- Returning a value with a property keeps the invariant. -/
theorem pure {a : α} (h : P a) : Keeps I P (Pure.pure a : Run σ α) := by
  refine fun m hm => ⟨hm, ?_⟩
  rintro _ ⟨⟩
  exact h

/-- Failing keeps the invariant. -/
theorem throw (fault : Fault) : Keeps I P (MonadExcept.throw fault : Run σ α) :=
  fun _ hm => ⟨hm, nofun⟩

/-- The result of a computation has every weaker property as well. -/
theorem mono {R : α → Prop} {x : Run σ α} (hx : Keeps I P x) (h : ∀ a, P a → R a) : Keeps I R x :=
  fun m hm => ⟨(hx m hm).1, fun a ha => h a ((hx m hm).2 a ha)⟩

/-- Computations in sequence keep what both of them keep. -/
theorem bind {x : Run σ α} {f : α → Run σ β} (hx : Keeps I P x) (hf : ∀ a, P a → Keeps I Q (f a)) :
    Keeps I Q (x >>= f) := by
  intro m hm
  obtain ⟨hstate, hresult⟩ := hx m hm
  rw [run_bind_eq]
  cases hres : (x.run m).1 with
  | ok a => exact hf a (hresult a hres) _ hstate
  | error fault => exact ⟨hstate, nofun⟩

/-- A step that does not touch the state keeps the invariant. -/
theorem liftExcept {x : Except Fault α} (h : ∀ a, x = .ok a → P a) :
    Keeps I P (liftM x : Run σ α) := by
  cases x with
  | ok a => exact pure (h a rfl)
  | error fault => exact throw fault

end Keeps

/-! ## Finite values -/

/-- Whether all numbers in a value are finite. -/
def Evaluated.isFinite : Evaluated → Bool
  | scalar c => c.isFinite
  | groups values _ => Cell.itemsFinite values

section
variable {a b v : Evaluated}

/-- A map over cells succeeds if it does on each cell. -/
theorem Evaluated.mapCells_eq_ok_iff {f : Cell → Except Fault Cell} {cs ds : List Cell} :
    mapCells f cs = .ok ds ↔ ds.map .ok = cs.map f := by
  have hzip (cs : List Cell) : mapCells f cs = zipCells (fun c _ => f c) cs cs := by
    induction cs with
    | nil => rfl
    | cons c cs ih => rw [mapCells, zipCells, ih]
  rw [hzip, zipCells_eq_ok_iff, List.zipWith_self]

/-- Cells that all come from steps with finite results are finite. -/
theorem itemsFinite_of_map_ok {ds : List Cell} {xs : List (Except Fault Cell)} (h : ds.map .ok = xs)
    (hxs : ∀ d, .ok d ∈ xs → d.isFinite = true) : Cell.itemsFinite ds = true := by
  rw [Cell.itemsFinite_eq, List.all_eq_true]
  exact fun d hd => hxs d (h ▸ List.mem_map_of_mem hd)

/-- An operation that gives finite cells does so for all groups. -/
theorem Evaluated.isFinite_of_map {f : Cell → Except Fault Cell}
    (hf : ∀ c d, f c = .ok d → d.isFinite = true) (h : a.map f = .ok v) : v.isFinite = true := by
  cases a with
  | scalar c =>
    obtain ⟨d, hd, rfl⟩ := exists_of_map_eq_ok h
    exact hf c d hd
  | groups cs handling =>
    obtain ⟨ds, hds, rfl⟩ := exists_of_map_eq_ok h
    refine itemsFinite_of_map_ok (mapCells_eq_ok_iff.1 hds) fun d hd => ?_
    obtain ⟨c, -, hc⟩ := List.mem_map.1 hd
    exact hf c d hc

/-- A value combined by steps with finite results is finite. -/
theorem Evaluated.isFinite_of_combine {f : Cell → Cell → Except Fault Cell}
    (hf : ∀ c d e, f c d = .ok e → e.isFinite = true) (h : a.combine f b = .ok v) :
    v.isFinite = true := by
  cases a with
  | scalar c =>
    have hmap : b.map (f c) = .ok v := by cases b <;> exact h
    exact isFinite_of_map (hf c) hmap
  | groups cs handling =>
    cases b with
    | scalar d => exact isFinite_of_map (a := .groups cs handling) (fun c => hf c d) h
    | groups ds _ =>
      rw [combine] at h
      split at h
      · obtain ⟨es, hes, rfl⟩ := exists_of_map_eq_ok h
        refine itemsFinite_of_map_ok (zipCells_eq_ok_iff.1 hes) fun e he => ?_
        rw [← List.map_uncurry_zip_eq_zipWith] at he
        obtain ⟨⟨c, d⟩, -, hcd⟩ := List.mem_map.1 he
        exact hf c d e hcd
      · cases h

end

/-- A negated cell is finite, since its negation is checked. -/
theorem isFinite_of_negateCell {c d : Cell} (h : negateCell c = .ok d) : d.isFinite = true := by
  unfold negateCell at h
  split at h
  · cases h; rfl
  · split at h
    · next x hx =>
      cases h
      exact Number.isFinite_neg (Cell.isFinite_of_number? hx)
    · cases h

/-- The operators check the numbers that they come to. -/
theorem isFinite_of_applyOperator {op : Operator} {c d e : Cell}
    (h : Expr.applyOperator op c d = .ok e) : e.isFinite = true := by
  cases op with
  | and | or | comparison => cases h; rfl
  | arithmetic op =>
    change op.onCells c d = .ok e at h
    unfold Arithmetic.onCells at h
    split at h
    · cases h; rfl
    · split at h
      · unfold Arithmetic.onNumbers at h
        split at h
        · cases h
        · split at h
          · next hfinite => cases h; exact hfinite
          · cases h
      · split at h <;> cases h
        rfl

/-! ## Sources of numbers out of the range -/

namespace Expr

mutual

/-- The literals, columns and aggregations of a tree that are no operands. -/
def exposed : Expr → List Expr
  | literal c => [literal c]
  | column name => [column name]
  | aggregate a => [aggregate a]
  | list items => exposedItems items
  | negate _ => []
  | not _ => []
  | binary _ _ _ => []

/-- `exposed` over the items of a list. -/
def exposedItems : List Expr → List Expr
  | [] => []
  | e :: rest => exposed e ++ exposedItems rest

end

end Expr

/-- A value that is not finite has a source, and, if values are direct, one with a source is not
finite. -/
structure Traced (direct source : Prop) (finite : Bool) : Prop where
  has_source : finite = false → source
  not_finite : direct → source → finite = false

namespace Traced

variable {direct S T : Prop} {a b : Bool}

/-- What is finite and has no source is traced. -/
theorem of_finite (ha : a = true) (hS : ¬ S) : Traced direct S a :=
  ⟨fun h => absurd ha (Bool.eq_false_iff.1 h), fun _ h => absurd h hS⟩

/-- Two values together are traced to the sources of both. -/
theorem and (ha : Traced direct S a) (hb : Traced direct T b) : Traced direct (S ∨ T) (a && b) := by
  constructor
  · intro h
    exact ((Bool.and_eq_false_iff).1 h).imp ha.has_source hb.has_source
  · intro hdirect h
    exact (Bool.and_eq_false_iff).2 (h.imp (ha.not_finite hdirect) (hb.not_finite hdirect))

/-- What is traced is traced to an equivalent source. -/
theorem congr (h : S ↔ T) (ha : Traced direct S a) : Traced direct T a :=
  ⟨fun hfinite => h.1 (ha.has_source hfinite), fun hdirect hT => ha.not_finite hdirect (h.2 hT)⟩

end Traced

namespace Expr

/-- What holds of a tree holds of a member of the list that has this tree alone. -/
theorem exists_mem_singleton {S : Expr → Prop} {e : Expr} : S e ↔ ∃ leaf ∈ [e], S leaf := by simp

/-- What is not finite in the literals, the names and the aggregations of a view is traced to its
sources. -/
structure TracesLeaves {σ : Type} (v : View σ) (I : σ → Prop) (direct : Prop) (S : Expr → Prop) :
    Prop where
  literal : ∀ c, Traced direct (S (literal c)) c.isFinite
  column : ∀ name,
    Keeps I (fun value => Traced direct (S (column name)) value.isFinite) (v.column name)
  call : ∀ a, Keeps I (fun value => Traced direct (S (aggregate a)) value.isFinite) (v.call a)

section
variable {σ : Type} {v : View σ} {I : σ → Prop} {direct : Prop} {S : Expr → Prop}

mutual

/-- What is not finite in the value of a tree comes from what is exposed in it. -/
theorem eval_keeps (hv : TracesLeaves v I direct S) : ∀ e : Expr,
    Keeps I (fun value => Traced direct (∃ leaf ∈ e.exposed, S leaf) value.isFinite) (e.eval v)
  | literal c => Keeps.pure ((hv.literal c).congr exists_mem_singleton)
  | column name => (hv.column name).mono fun _ h => h.congr exists_mem_singleton
  | aggregate a => (hv.call a).mono fun _ h => h.congr exists_mem_singleton
  | list items => by
    rw [eval]
    exact (evalItems_keeps hv items).bind fun cs hcs => Keeps.pure hcs
  | negate e => by
    rw [eval]
    refine (eval_keeps hv e).bind fun a _ => Keeps.liftExcept fun value h => ?_
    exact .of_finite (Evaluated.isFinite_of_map (fun c d => isFinite_of_negateCell) h) nofun
  | not e => by
    rw [eval]
    refine (eval_keeps hv e).bind fun a _ => Keeps.liftExcept fun value h => ?_
    exact .of_finite (Evaluated.isFinite_of_map (by rintro c d ⟨⟩; rfl) h) nofun
  | binary op l r => by
    have hverdict {b : Bool} : Traced direct (∃ leaf ∈ (binary op l r).exposed, S leaf)
        (Evaluated.scalar (.bool b)).isFinite := .of_finite rfl nofun
    have hboth (hand : op ≠ .and) (hor : op ≠ .or) : Keeps I (fun value =>
        Traced direct (∃ leaf ∈ (binary op l r).exposed, S leaf) value.isFinite)
        (eval v (binary op l r)) := by
      rw [eval_operator v hand hor]
      cases absenceTest? op l r with
      | some wanted =>
        refine Keeps.bind (P := fun _ => True) ?_ fun a _ => Keeps.liftExcept fun value h => ?_
        · split
          · exact (eval_keeps hv r).mono fun _ _ => trivial
          · exact (eval_keeps hv l).mono fun _ _ => trivial
        · exact .of_finite (Evaluated.isFinite_of_map (by rintro c d ⟨⟩; rfl) h) nofun
      | none =>
        refine (eval_keeps hv l).bind fun a _ => (eval_keeps hv r).bind fun b _ =>
          Keeps.liftExcept fun value h => ?_
        exact .of_finite
          (Evaluated.isFinite_of_combine (fun c d e => isFinite_of_applyOperator) h) nofun
    cases op with
    | and =>
      rw [eval]
      refine (eval_keeps hv l).bind fun a _ => ?_
      split
      · exact (eval_keeps hv r).bind fun b _ => Keeps.pure hverdict
      · exact Keeps.pure hverdict
    | or =>
      rw [eval]
      refine (eval_keeps hv l).bind fun a _ => ?_
      split
      · exact Keeps.pure hverdict
      · exact (eval_keeps hv r).bind fun b _ => Keeps.pure hverdict
    | arithmetic o => exact hboth nofun nofun
    | comparison c => exact hboth nofun nofun

/-- `eval_keeps` over the items of a list. -/
theorem evalItems_keeps (hv : TracesLeaves v I direct S) : ∀ es : List Expr,
    Keeps I (fun cs => Traced direct (∃ leaf ∈ exposedItems es, S leaf) (Cell.itemsFinite cs))
      (evalItems v es)
  | [] => Keeps.pure (.of_finite rfl nofun)
  | e :: rest => by
    have happend : (∃ leaf ∈ e.exposed, S leaf) ∨ (∃ leaf ∈ exposedItems rest, S leaf) ↔
        ∃ leaf ∈ exposedItems (e :: rest), S leaf := by
      simp [exposedItems, or_and_right, exists_or]
    rw [evalItems]
    refine (eval_keeps hv e).bind fun a ha => ?_
    cases a with
    | scalar c =>
      exact (evalItems_keeps hv rest).bind fun cs hcs => Keeps.pure ((ha.and hcs).congr happend)
    | groups values handling => exact Keeps.throw _

end

end

end Expr

/-! ## Answers of a scope -/

namespace Scope

variable {s : Scope} {a b : Aggregation}

/-- The aggregations whose value may be the answer for a given one: the one that is computed for it,
or, if values are remembered, every one with the same call site. -/
def Answers (s : Scope) (a b : Aggregation) : Prop :=
  b.callSite = a.callSite ∧ (s.memoize = false → b = s.configured a)

/-- The additions of an aggregation whose value may be the answer leave the range. -/
def Overflows (s : Scope) (a : Aggregation) : Prop := ∃ b, s.Answers a b ∧ b.Overflows s.rows

/-- The value of an aggregation is not finite exactly if one of its cells is not. -/
theorem isFinite_evaluated_iff {handling : Aggregation.Handling} {r : Aggregation.Result} :
    (evaluated handling r).isFinite = false ↔ ∃ c ∈ r.cells, c.isFinite = false := by
  cases r with
  | scalar c => simp [evaluated, Evaluated.isFinite, Aggregation.Result.cells]
  | grouped groups =>
    simp [evaluated, Evaluated.isFinite, Aggregation.Result.cells, Cell.itemsFinite_eq]

/-- An answer is not finite only if the additions behind it leave the range, and it is not finite if
they do and it is computed. -/
theorem traced_of_answer {m : Memo} {r : Aggregation.Result} (hrows : FiniteRows s.rows)
    (hm : s.Remembers s.HasValue m) (hanswer : ((s.answer a).run m).1 = .ok r)
    (handling : Aggregation.Handling) :
    Traced (s.memoize = false) (s.Overflows a) (evaluated handling r).isFinite := by
  have hover {b : Aggregation} (hb : b.compute s.rows = .ok r)
      (hfinite : (evaluated handling r).isFinite = false) : b.Overflows s.rows :=
    (Aggregation.compute_isFinite_iff b hrows).1 ⟨r, hb, isFinite_evaluated_iff.1 hfinite⟩
  obtain hcompute | ⟨hmemoize, -⟩ := s.answer_cases a m
  · rw [hanswer] at hcompute
    constructor
    · exact fun hfinite =>
        ⟨s.configured a, ⟨s.callSite_configured a, fun _ => rfl⟩, hover hcompute.symm hfinite⟩
    · rintro hdirect ⟨b, ⟨-, hb⟩, hoverflows⟩
      rw [hb hdirect] at hoverflows
      obtain ⟨r', hr', hcells⟩ := (Aggregation.compute_isFinite_iff _ hrows).2 hoverflows
      cases hcompute.trans hr'
      exact isFinite_evaluated_iff.2 hcells
  · -- What is remembered has been computed for an aggregation with this call site.
    obtain ⟨c, hsite, hc⟩ := (hm.answer s.respects_hasValue a).2 r hanswer
    have hremembers : ¬ s.memoize = false := by rw [hmemoize]; nofun
    exact ⟨fun hfinite => ⟨c, ⟨hsite, fun hdirect => absurd hdirect hremembers⟩, hover hc hfinite⟩,
      fun hdirect => absurd hdirect hremembers⟩

/-- A call keeps the memo faithful, and its value is traced to the additions that it depends on. -/
theorem call_keeps (hrows : FiniteRows s.rows) (a : Aggregation) :
    Keeps (s.Remembers s.HasValue)
      (fun value => Traced (s.memoize = false) (s.Overflows a) value.isFinite) (s.call a) := by
  intro m hm
  rw [run_call]
  refine ⟨(hm.answer s.respects_hasValue a).1, fun value h => ?_⟩
  obtain ⟨r, hanswer, rfl⟩ := exists_of_map_eq_ok h
  exact traced_of_answer hrows hm hanswer _

/-- Additions that leave the range are not reported. -/
theorem run_call_of_overflows (hrows : FiniteRows s.rows) (hdirect : s.memoize = false)
    (h : s.Overflows a) (m : Memo) :
    ∃ value, ((s.call a).run m).1 = .ok value ∧ value.isFinite = false := by
  obtain ⟨b, ⟨-, hb⟩, hoverflows⟩ := h
  rw [hb hdirect] at hoverflows
  obtain ⟨r, hr, hcells⟩ := (Aggregation.compute_isFinite_iff _ hrows).2 hoverflows
  refine ⟨evaluated (s.configured a).handling r, ?_, isFinite_evaluated_iff.2 hcells⟩
  obtain hcompute | ⟨hmemoize, -⟩ := s.answer_cases a m
  · rw [run_call, hcompute, hr]
    rfl
  · cases hmemoize.symm.trans hdirect

end Scope

/-! ## Formulas -/

/-- A name stands for an aggregation. -/
def View.Denotes {σ : Type} (v : View σ) (name : String) (a : Aggregation) : Prop :=
  boundTo name v.bound = none ∧ v.row.has name = false ∧ v.labelled name = some a

/-- Numbers out of the range may come from a literal that is not finite, and from an aggregation,
called or named by its label, whose additions leave the range. -/
inductive OverflowSource (row : Row) (bound : Option Cell) (scope : Option Scope) : Expr → Prop
  | literal {c : Cell} (h : c.isFinite = false) : OverflowSource row bound scope (.literal c)
  | aggregate {s : Scope} {a : Aggregation} (hs : s ∈ scope) (h : s.Overflows a) :
    OverflowSource row bound scope (.aggregate a)
  | label {s : Scope} {name : String} {a : Aggregation} (hs : s ∈ scope)
    (hname : (s.view row bound).Denotes name a) (h : s.Overflows a) :
    OverflowSource row bound scope (.column name)

/-- What a formula sees is finite. -/
structure FiniteInput (row : Row) (bound : Option Cell) (scope : Option Scope) : Prop where
  row : row.isFinite = true
  bound : ∀ c ∈ bound, c.isFinite = true
  rows : ∀ s ∈ scope, FiniteRows s.rows

section
variable {row : Row} {bound : Option Cell} {scope : Option Scope}

/-- The cell of a name that stands for no aggregation is finite. -/
theorem View.column_keeps {σ : Type} {I : σ → Prop} {v : View σ} (hrow : v.row.isFinite = true)
    (hbound : ∀ c ∈ v.bound, c.isFinite = true) {name : String} (h : ∀ a, ¬ v.Denotes name a) :
    Keeps I (fun value => value.isFinite = true) (v.column name) := by
  have hunlabelled :
      boundTo name v.bound ≠ none ∨ v.row.has name = true ∨ v.labelled name = none := by
    by_contra! hlabelled
    obtain ⟨a, ha⟩ := Option.ne_none_iff_exists'.1 hlabelled.2.2
    exact h a ⟨hlabelled.1, Bool.eq_false_iff.2 hlabelled.2.1, ha⟩
  rw [v.column_of_unlabelled name hunlabelled]
  refine Keeps.pure ?_
  unfold boundTo
  split
  · cases hb : v.bound with
    | none => exact Row.isFinite_get hrow name
    | some c => exact hbound c hb
  · exact Row.isFinite_get hrow name

/-- A name that stands for an aggregation has the value of its call. -/
theorem View.column_of_denotes {σ : Type} {v : View σ} {name : String} {a : Aggregation}
    (h : v.Denotes name a) : v.column name = v.call a := by
  obtain ⟨hbound, hrow, hlabel⟩ := h
  have hunbound : (if name = "value" then v.bound else none) = none := hbound
  simp only [View.column, hunbound, hrow, hlabel, Bool.false_eq_true, if_false]

/-- A view with finite cells whose aggregations are traced is traced. -/
theorem tracesLeaves {σ : Type} {v : View σ} {I : σ → Prop} {direct : Prop}
    (hrow : v.row.isFinite = true) (hbound : ∀ c ∈ v.bound, c.isFinite = true) {S : Expr → Prop}
    (hliteral : ∀ c, S (.literal c) ↔ c.isFinite = false)
    (hcolumn : ∀ name, S (.column name) ↔ ∃ a, v.Denotes name a ∧ S (.aggregate a))
    (hcall : ∀ a,
      Keeps I (fun value => Traced direct (S (.aggregate a)) value.isFinite) (v.call a)) :
    Expr.TracesLeaves v I direct S where
  literal c := ⟨(hliteral c).2, fun _ => (hliteral c).1⟩
  column name := by
    by_cases h : ∃ a, v.Denotes name a
    · obtain ⟨a, ha⟩ := h
      have hS : S (.aggregate a) ↔ S (.column name) := by
        refine ⟨fun h => (hcolumn name).2 ⟨a, ha, h⟩, fun h => ?_⟩
        obtain ⟨b, hb, h⟩ := (hcolumn name).1 h
        exact Option.some.inj (ha.2.2.symm.trans hb.2.2) ▸ h
      rw [View.column_of_denotes ha]
      exact (hcall a).mono fun _ h => h.congr hS
    · have hS : ¬ S (.column name) := fun hS => h (((hcolumn name).1 hS).imp fun _ ha => ha.1)
      exact (View.column_keeps hrow hbound fun a ha => h ⟨a, ha⟩).mono fun _ hfinite =>
        .of_finite hfinite hS
  call := hcall

/-- A literal is a source exactly if it is not finite. -/
theorem overflowSource_literal_iff {c : Cell} :
    OverflowSource row bound scope (.literal c) ↔ c.isFinite = false :=
  ⟨fun | .literal h => h, .literal⟩

/-- Over finite cells a formula has a value that is not finite only if a literal or an aggregation
is exposed in it that gives such a value; and then it has one, if no values are remembered. -/
theorem evaluate_keeps (f : Formula) (h : FiniteInput row bound scope) :
    Keeps (fun m => ∀ s ∈ scope, s.Remembers s.HasValue m)
      (fun value => Traced (∀ s ∈ scope, s.memoize = false)
        (∃ leaf ∈ f.expr.exposed, OverflowSource row bound scope leaf) value.isFinite)
      (f.evaluate row bound scope) := by
  refine Expr.eval_keeps ?_ f.expr
  cases scope with
  | none =>
    have hlabel (name : String) : OverflowSource row bound none (.column name) ↔
        ∃ a, (bareView row bound).Denotes name a ∧
          OverflowSource row bound none (.aggregate a) := by
      constructor
      · rintro (_ | _ | ⟨⟨⟩, -, -⟩)
      · rintro ⟨a, -, _ | ⟨⟨⟩, -⟩⟩
    exact tracesLeaves (v := bareView row bound) h.row h.bound (fun c => overflowSource_literal_iff)
      hlabel fun a => Keeps.throw _
  | some s =>
    simp only [Option.mem_some_iff, forall_eq']
    have haggregate (a : Aggregation) :
        s.Overflows a ↔ OverflowSource row bound (some s) (.aggregate a) :=
      ⟨.aggregate rfl, fun | .aggregate rfl h => h⟩
    have hlabel (name : String) : OverflowSource row bound (some s) (.column name) ↔
        ∃ a, (s.view row bound).Denotes name a ∧
          OverflowSource row bound (some s) (.aggregate a) := by
      constructor
      · rintro (_ | _ | ⟨⟨⟩, hname, hover⟩)
        exact ⟨_, hname, (haggregate _).1 hover⟩
      · rintro ⟨a, hname, hover⟩
        exact .label rfl hname ((haggregate a).2 hover)
    exact tracesLeaves (v := s.view row bound) h.row h.bound
      (fun c => overflowSource_literal_iff) hlabel
      fun a => (s.call_keeps (h.rows s rfl) a).mono fun _ h => h.congr (haggregate a)

/-- A formula that is such a literal or aggregation has a value, and no fault. -/
theorem evaluate_of_overflowSource (f : Formula) (h : FiniteInput row bound scope)
    (hdirect : ∀ s ∈ scope, s.memoize = false) (hsource : OverflowSource row bound scope f.expr)
    (m : Memo) :
    ∃ value, ((f.evaluate row bound scope).run m).1 = .ok value ∧ value.isFinite = false := by
  obtain ⟨source, dialect, e⟩ := f
  change OverflowSource row bound scope e at hsource
  cases hsource with
  | literal hc => exact ⟨_, rfl, hc⟩
  | @aggregate s a hs hover =>
    cases hs
    exact s.run_call_of_overflows (h.rows s rfl) (hdirect s rfl) hover m
  | @label s name a hs hname hover =>
    cases hs
    show ∃ value, (((s.view row bound).column name).run m).1 = .ok value ∧ _
    rw [View.column_of_denotes hname]
    exact s.run_call_of_overflows (h.rows s rfl) (hdirect s rfl) hover m

end

end RowAudit.Formula
