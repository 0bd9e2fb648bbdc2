import RowAudit.Check.Columns
import RowAudit.Proofs.Formula.Overflow

/-!
# Calculations out of the range of numbers

A calculation over columns refuses to divide by a zero and checks nothing else, so its result can be
out of the range of numbers, and is compared with the target all the same
(`CalculationCheck.judge_eq`). With formulas, whose operators do check, this gives all the ways in
which a number out of the range gets into a verdict (`overflow_traced`).
-/

namespace RowAudit

namespace Calculation

/-- An operation on doubles, also where it is refused. -/
def onFloats (c : Calculation) (x y : Float) : Float :=
  match c with
  | add => x + y
  | subtract => x - y
  | multiply => x * y
  | divide => x / y

/-- A calculation is refused: it divides by a zero. -/
def Refuses (c : Calculation) (ys : List Float) : Prop :=
  c = .divide ∧ ∃ y ∈ ys, Number.isZero y = true

variable {c : Calculation} {x y : Float} {ys : List Float}

/-- An operation does not lead back into the range of numbers. -/
theorem not_isFinite_onFloats (hx : Number.isFinite x = false) (hy : Number.isFinite y = true) :
    Number.isFinite (c.onFloats x y) = false := by
  cases c with
  | add => exact Number.not_isFinite_add hx hy
  | subtract => exact Number.not_isFinite_sub hx hy
  | multiply => exact Number.not_isFinite_mul hx hy
  | divide => exact Number.not_isFinite_div hx hy

/-- An operation is refused if it divides by zero, and otherwise that on doubles. -/
theorem apply_eq : c.apply x y =
    if c = .divide ∧ Number.isZero y = true then .error .divisionByZero
    else .ok (c.onFloats x y) := by
  cases c <;> simp [apply, onFloats]

/-- A calculation that divides by a zero is refused as a whole. -/
theorem chain_of_refuses (h : c.Refuses ys) (x : Float) :
    c.chain x ys = .error .divisionByZero := by
  obtain ⟨rfl, hzero⟩ := h
  induction ys generalizing x with
  | nil => simp at hzero
  | cons y ys ih =>
    rw [chain, apply_eq]
    by_cases hy : Number.isZero y = true
    · rw [if_pos ⟨rfl, hy⟩]
    · rw [if_neg fun h => hy h.2]
      exact ih _ (by simpa [hy] using hzero)

/-- A calculation that is not refused is a fold over its numbers. -/
theorem chain_of_not_refuses (h : ¬ c.Refuses ys) (x : Float) :
    c.chain x ys = .ok (ys.foldl c.onFloats x) := by
  induction ys generalizing x with
  | nil => rfl
  | cons y ys ih =>
    have hy : ¬ (c = .divide ∧ Number.isZero y = true) := fun hy =>
      h ⟨hy.1, y, List.mem_cons_self, hy.2⟩
    have hys : ¬ c.Refuses ys := fun hys => h ⟨hys.1, hys.2.imp fun _ => .imp_left (.tail y)⟩
    rw [chain, apply_eq, if_neg hy]
    exact ih hys _

end Calculation

namespace CalculationCheck

/-- The number that a check compares with its target, given those of its columns. -/
def result (check : CalculationCheck) (xs : List Float) : Float :=
  xs.tail.foldl check.operation.onFloats (xs.headD 0.0)

/-- An operand is finite. -/
theorem isFinite_of_operand {row : Row} {column : String} {x : Float}
    (h : operand row column = .ok x) : Number.isFinite x = true := by
  unfold operand at h
  dsimp only at h
  split at h
  · cases h
  · split at h
    · next y hy =>
      cases h
      exact Cell.isFinite_of_number? hy
    · cases h

/-- All operands are finite. -/
theorem isFinite_of_operandsOf {row : Row} {columns : List String} {xs : List Float}
    (h : operandsOf row columns = .ok xs) : ∀ x ∈ xs, Number.isFinite x = true := by
  induction columns generalizing xs with
  | nil =>
    cases h
    exact List.forall_mem_nil _
  | cons column columns ih =>
    rw [operandsOf] at h
    obtain ⟨x, hx, h⟩ := exists_of_bind_eq_ok h
    obtain ⟨rest, hrest, h⟩ := exists_of_bind_eq_ok h
    cases h
    exact List.forall_mem_cons.2 ⟨isFinite_of_operand hx, ih hrest⟩

variable {check : CalculationCheck} {row : Row} {xs : List Float} {target : Float} {label : String}

/-- The numbers of a check are finite. -/
theorem isFinite_of_numbers (h : check.numbers row = .ok (xs, target, label)) :
    ∀ x ∈ xs, Number.isFinite x = true := by
  obtain ⟨ys, hys, h⟩ := exists_of_bind_eq_ok h
  obtain ⟨⟨t, l⟩, -, h⟩ := exists_of_bind_eq_ok h
  cases h
  exact isFinite_of_operandsOf hys

/-- The result of a calculation is out of the range if a step leaves it. -/
theorem isFinite_result_iff (h : check.numbers row = .ok (xs, target, label)) :
    Number.isFinite (check.result xs) = false ↔
      Number.LeavesRange check.operation.onFloats (xs.headD 0.0) xs.tail := by
  have hxs := isFinite_of_numbers h
  refine Number.isFinite_foldl_iff Calculation.not_isFinite_onFloats ?_ fun x hx =>
    hxs x (List.mem_of_mem_tail hx)
  cases xs with
  | nil => decide +kernel
  | cons x xs => exact hxs x List.mem_cons_self

/-- A check that has its numbers fails by a division by zero, or compares its result. -/
theorem judge_eq (h : check.numbers row = .ok (xs, target, label)) :
    (check.operation.Refuses xs.tail → check.judge row = .error (.evaluation .divisionByZero)) ∧
    (¬ check.operation.Refuses xs.tail → ∃ message, check.judge row =
      .ok (.check (accepts check.operator (check.result xs) target) message)) := by
  rw [judge, h]
  dsimp only
  constructor
  · intro hrefuses
    rw [Calculation.chain_of_refuses hrefuses]
  · intro hrefuses
    rw [Calculation.chain_of_not_refuses hrefuses]
    exact ⟨_, rfl⟩

end CalculationCheck

/-! ## Where overflows come from -/

open Formula (FiniteInput OverflowSource)

/-- The operators of formulas check their results; the additions of sums and averages, the
operations of calculations and the literals of formulas are not checked. So over finite cells all
numbers in the value of a formula are finite if it exposes no literal that is not finite and no
aggregation whose additions leave the range, and only then, unless values are remembered; and a
formula that is such a literal or aggregation has a value and reports nothing. The number that a
calculation compares with its target is finite exactly if no step of it leaves the range. -/
theorem overflow_traced {row : Row} {bound : Option Cell} {scope : Option Formula.Scope}
    (hinput : FiniteInput row bound scope) :
    (∀ (f : Formula) (m : Memo), (∀ s ∈ scope, s.Remembers s.HasValue m) →
      (∀ s ∈ scope, s.Remembers s.HasValue ((f.evaluate row bound scope).run m).2) ∧
      ∀ value, ((f.evaluate row bound scope).run m).1 = .ok value →
        ((∀ leaf ∈ f.expr.exposed, ¬ OverflowSource row bound scope leaf) → value.isFinite = true) ∧
        ((∀ s ∈ scope, s.memoize = false) → value.isFinite = true →
          ∀ leaf ∈ f.expr.exposed, ¬ OverflowSource row bound scope leaf)) ∧
    (∀ (f : Formula) (m : Memo), (∀ s ∈ scope, s.memoize = false) →
      OverflowSource row bound scope f.expr →
      ∃ value, ((f.evaluate row bound scope).run m).1 = .ok value ∧ value.isFinite = false) ∧
    ∀ (check : CalculationCheck) (xs : List Float) (target : Float) (label : String),
      check.numbers row = .ok (xs, target, label) →
      (check.operation.Refuses xs.tail → check.judge row = .error (.evaluation .divisionByZero)) ∧
      (¬ check.operation.Refuses xs.tail →
        (∃ message, check.judge row = .ok (.check
          (CalculationCheck.accepts check.operator (check.result xs) target) message)) ∧
        (Number.isFinite (check.result xs) = true ↔
          ¬ Number.LeavesRange check.operation.onFloats (xs.headD 0.0) xs.tail)) := by
  refine ⟨fun f m hm => ?_, fun f m hdirect hsource => ?_, fun check xs target label h => ?_⟩
  · obtain ⟨hmemo, hvalue⟩ := Formula.evaluate_keeps f hinput m hm
    refine ⟨hmemo, fun value h => ?_⟩
    obtain ⟨hsource, hshows⟩ := hvalue value h
    constructor
    · intro hnone
      refine Bool.eq_true_of_not_eq_false fun hfinite => ?_
      obtain ⟨leaf, hleaf, hover⟩ := hsource hfinite
      exact hnone leaf hleaf hover
    · intro hdirect hfinite leaf hleaf hover
      exact Bool.eq_false_iff.1 (hshows hdirect ⟨leaf, hleaf, hover⟩) hfinite
  · exact f.evaluate_of_overflowSource hinput hdirect hsource m
  · obtain ⟨hrefuses, hcompares⟩ := CalculationCheck.judge_eq h
    refine ⟨hrefuses, fun hnot => ⟨hcompares hnot, ?_⟩⟩
    rw [← CalculationCheck.isFinite_result_iff h, Bool.not_eq_false]

/-- A row with one number. -/
def single (x : Float) : Row := .ofList [("v", .number x)]

/-- Two such rows. -/
def twice (x : Float) : Formula.Scope where
  name := "t"
  rows := [single x, single x]
  aggregations := []
  memoize := false

/-- The sum of the column. -/
def sumOfColumn : Aggregation where
  function := ⟨false, .sum⟩
  column := "v"

/-- The square of the column, which must be greater than zero. -/
def squareCheck : CalculationCheck := ⟨.multiply, ["v", "v"], .greater, .value 0.0⟩

section
variable {x : Float} (hx : Number.isFinite x = true)
include hx

/-- Two rows with a finite number are finite. -/
theorem finiteInput_twice : FiniteInput (single x) none (some (twice x)) := by
  have hrow : (single x).isFinite = true := (Bool.and_true _).trans hx
  refine ⟨hrow, nofun, ?_⟩
  rintro s ⟨⟩
  exact ⟨by simp [twice, hrow], by norm_num [twice]⟩

/-- The column of two rows with one number has the number twice. -/
theorem numbers_twice : Aggregation.numbers "v" (twice x).rows = [x, x] := by
  have hpresent : Aggregation.present "v" (twice x).rows = [.number x, .number x] := rfl
  have hnumber : (Cell.number x).number? = some x := if_pos hx
  simp [Aggregation.numbers, hpresent, hnumber]

/-- The sum of two rows with one number is a source if the second addition leaves the range. -/
theorem overflowSource_twice (hstart : Number.isFinite (-0.0 + x) = true)
    (hsum : Number.isFinite (-0.0 + x + x) = false) :
    OverflowSource (single x) none (some (twice x)) (.aggregate sumOfColumn) := by
  refine .aggregate rfl ⟨sumOfColumn, ⟨rfl, fun _ => rfl⟩, (twice x).rows, ⟨_, rfl, rfl⟩,
    (twice x).rows, List.mem_singleton_self _, -0.0, rfl, ?_⟩
  show Number.LeavesRange _ _ (Aggregation.numbers "v" (twice x).rows)
  rw [numbers_twice hx]
  exact ⟨[x], x, [], rfl, hstart, hsum⟩

/-- The square is made of the number twice. -/
theorem numbers_squareCheck :
    squareCheck.numbers (single x) = .ok ([x, x], 0.0, Number.text 0.0) := by
  have hoperand : CalculationCheck.operand (single x) "v" = .ok x := by
    have hget : (single x).get "v" = .number x := rfl
    have hnumber : (Cell.number x).number? = some x := if_pos hx
    rw [CalculationCheck.operand, hget, hnumber]
    rfl
  have hoperands : CalculationCheck.operandsOf (single x) ["v", "v"] = .ok [x, x] := by
    simp only [CalculationCheck.operandsOf, hoperand]
    rfl
  rw [CalculationCheck.numbers, squareCheck, hoperands]
  rfl

end

/-- The sum of a column is out of the range and not reported, and so is its square, which is
compared with zero. -/
theorem overflow_traced_twice :
    (FiniteInput (single 1e308) none (some (twice 1e308)) ∧
      (∀ s ∈ some (twice 1e308), s.Remembers s.HasValue .empty) ∧
      (∀ s ∈ some (twice 1e308), s.memoize = false) ∧
      OverflowSource (single 1e308) none (some (twice 1e308)) (.aggregate sumOfColumn) ∧
      ∃ label, squareCheck.numbers (single 1e308) = .ok ([1e308, 1e308], 0.0, label) ∧
        ¬ squareCheck.operation.Refuses [1e308]) ∧
    (∃ value, ((Formula.evaluate ⟨"SUM(\"v\")", .table, .aggregate sumOfColumn⟩ (single 1e308) none
        (some (twice 1e308))).run .empty).1 = .ok value ∧ value.isFinite = false) ∧
    (∃ message, squareCheck.judge (single 1e308) = .ok (.check
      (CalculationCheck.accepts .greater (squareCheck.result [1e308, 1e308]) 0.0) message)) ∧
    ¬ Number.isFinite (squareCheck.result [1e308, 1e308]) = true := by
  have hx : Number.isFinite 1e308 = true := by decide +kernel
  have hinput := finiteInput_twice hx
  have hmemo : ∀ s ∈ some (twice 1e308), s.Remembers s.HasValue .empty :=
    fun s _ => s.remembers_empty s.HasValue
  have hdirect : ∀ s ∈ some (twice 1e308), s.memoize = false := by
    rintro s ⟨⟩
    rfl
  have hsource := overflowSource_twice hx (by decide +kernel) (by decide +kernel)
  have hnumbers := numbers_squareCheck hx
  have hrefuses : ¬ squareCheck.operation.Refuses [1e308] := nofun
  obtain ⟨-, hunreported, hchecks⟩ := overflow_traced hinput
  obtain ⟨-, hcompares⟩ := hchecks _ _ _ _ hnumbers
  obtain ⟨hjudge, hfinite⟩ := hcompares hrefuses
  exact ⟨⟨hinput, hmemo, hdirect, hsource, _, hnumbers, hrefuses⟩,
    hunreported ⟨_, .table, .aggregate sumOfColumn⟩ .empty hdirect hsource, hjudge,
    fun h => hfinite.1 h ⟨[], 1e308, [], rfl, hx, by decide +kernel⟩⟩

/-- A sum of two finite numbers is read and has a value that is not finite. -/
theorem sum_not_finite : Number.isFinite 1e308 = true ∧
    ∃ f value, Formula.compile .table "SUM(\"v\")" = .ok f ∧
      ((f.evaluate (single 1e308) none (some (twice 1e308))).run .empty).1 = .ok value ∧
      value.isFinite = false := by
  refine ⟨by decide +kernel, ?_⟩
  have h : (Formula.compile .table "SUM(\"v\")").toOption.any (fun f =>
      ((f.evaluate (single 1e308) none (some (twice 1e308))).run .empty).1.toOption.any
        fun value => !value.isFinite) = true := by
    decide +kernel
  cases hcompile : Formula.compile .table "SUM(\"v\")" with
  | error fault => rw [hcompile] at h; cases h
  | ok f =>
    refine ⟨f, ?_⟩
    rw [hcompile, Except.toOption, Option.any_some] at h
    cases hvalue : ((f.evaluate (single 1e308) none (some (twice 1e308))).run .empty).1 with
    | error fault => rw [hvalue] at h; cases h
    | ok value =>
      rw [hvalue, Except.toOption, Option.any_some, Bool.not_eq_true'] at h
      exact ⟨value, rfl, rfl, h⟩

end RowAudit
