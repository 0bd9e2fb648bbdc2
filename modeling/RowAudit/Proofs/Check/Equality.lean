import RowAudit.Proofs.Cell.Transitivity
import RowAudit.Proofs.Check.Answers

/-!
# Equality by value and by column

A rule that asks for equality with a value compares moments by calendar day, whatever the context
asks for, while a comparison of two columns takes the precision of the context. So the two agree on
a pair of cells unless the context asks for times of day and the cells are moments of one day at
different times (`Cell.ApartInDay`); then the one takes them for equal and the other does not
(`Check.judge_equality`).
-/

namespace RowAudit

/-! ## Precisions -/

/-- Moments are equal by days if their dates are. -/
theorem Precision.truncate_day_eq_iff {m n : Moment} :
    Precision.day.truncate m = Precision.day.truncate n ↔ m.date = n.date :=
  ⟨congrArg Moment.date, congrArg Moment.startOfDay⟩

namespace Cell

/-- Two cells that are compared as moments, of one day but at different times. -/
def ApartInDay (a b : Cell) : Prop :=
  (a.number? = none ∨ b.number? = none) ∧
    ∃ m n, a.moment? = some m ∧ b.moment? = some n ∧ m.date = n.date ∧ m ≠ n

variable {a b : Cell}

/-- Two moments are apart in a day exactly if they have one date and differ. -/
theorem apartInDay_iff {m n : Moment} (hnumber : a.number? = none ∨ b.number? = none)
    (hm : a.moment? = some m) (hn : b.moment? = some n) :
    a.ApartInDay b ↔ m.date = n.date ∧ m ≠ n := by
  simp [ApartInDay, hnumber, hm, hn]

/-- A cell that is no moment is apart from nothing in a day. -/
theorem not_apartInDay_of_text (h : a.moment? = none ∨ b.moment? = none) : ¬ a.ApartInDay b := by
  rintro ⟨-, m, n, hm, hn, -⟩
  simp [hm, hn] at h

/-- Two numbers are not apart in a day. -/
theorem not_apartInDay_of_numbers {x y : Float} (hx : a.number? = some x)
    (hy : b.number? = some y) :
    ¬ a.ApartInDay b := by
  rintro ⟨hnumber, -⟩
  simp [hx, hy] at hnumber

/-- Only cells that are apart in one day are equal by day and not equal with the time of day. -/
theorem order?_day_eq_iff (ha : a.isAbsent = false) (hb : b.isAbsent = false) :
    (order? .day a b = some .eq ↔ order? .exact a b = some .eq) ↔ ¬ a.ApartInDay b := by
  rw [order?, order?, coerce_truncate .day]
  obtain ⟨x, y, rfl, rfl, h⟩ | ⟨x, y, hx, hy, h⟩ | ⟨hnumber, m, n, hm, hn, h⟩ | ⟨-, hmoment, h⟩ :=
    coerce_cases (p := .exact) ha hb
  · exact iff_of_true (by rw [h]; rfl) (not_apartInDay_of_text (.inl rfl))
  · exact iff_of_true (by rw [h]; rfl) (not_apartInDay_of_numbers hx hy)
  · have hexact (m : Moment) : Precision.exact.truncate m = m := rfl
    rw [h, apartInDay_iff hnumber hm hn]
    simp only [Option.map_some, Option.bind_some, Coerced.truncate, Coerced.order, Option.some_inj,
      hexact, Moment.order_eq_iff, Precision.truncate_day_eq_iff, not_and_not_right]
    exact ⟨Iff.mp, fun hday => ⟨hday, congrArg Moment.date⟩⟩
  · exact iff_of_true (by rw [h]; rfl) (not_apartInDay_of_text hmoment)

end Cell

/-- The kinds of rules that ask whether a cell is equal to a value, or is not. -/
inductive RuleKind.AsksEquality : RuleKind → Comparison → Prop
  | equals : AsksEquality .equals .equal
  | notEquals : AsksEquality .notEquals .notEqual

namespace Comparison

variable {kind : RuleKind} {op : Comparison} {a b : Cell}

/-- At both precisions the answer is the same if equality is. -/
theorem holdsAt_eq_holdsAt_iff (hop : kind.AsksEquality op) (p q : Precision)
    (ha : a.isAbsent = false) (hb : b.isAbsent = false) :
    op.holdsAt p a b = op.holdsAt q a b ↔
      (Cell.order? p a b = some .eq ↔ Cell.order? q a b = some .eq) := by
  obtain ⟨o, ho⟩ := Option.isSome_iff_exists.1 (Cell.order?_isSome (p := p) ha hb)
  obtain ⟨o', ho'⟩ := Option.isSome_iff_exists.1 (Cell.order?_isSome (p := q) ha hb)
  rw [holdsAt_eq, holdsAt_eq, ho, ho']
  cases hop <;> cases o <;> cases o' <;> decide

/-- Cells that are apart in one day are taken for equal by day. -/
theorem holds_iff_of_apartInDay (hop : kind.AsksEquality op) (ha : a.isAbsent = false)
    (hb : b.isAbsent = false) (h : a.ApartInDay b) : op.holds a b = true ↔ op = equal := by
  have hday : Cell.order? .day a b = some .eq := by
    by_contra hday
    exact (Cell.order?_day_eq_iff ha hb).1
      (iff_of_false hday fun hexact => hday (Cell.order?_day_eq hexact)) h
  rw [holds, holdsAt_eq, hday]
  cases hop <;> decide

end Comparison

/-! ## Checks -/

namespace Check

section
variable {column : String} {ctx : Context} {row : Row}

/-- A comparison with a value answers as it holds by days. -/
theorem answers_valueLimit (op : Comparison) (w : Cell) (hv : (row.get column).isAbsent = false) :
    (valueLimit ⟨op, w, false⟩).Answers column ctx row (op.holds (row.get column) w) := by
  have h : (valueLimit ⟨op, w, false⟩).Answers column ctx row _ :=
    answers_of_judgeCell hv (fun _ => rfl) rfl
  rwa [ValueLimit.judge, Bool.false_and, if_neg Bool.false_ne_true, Outcome.isValid_check] at h

/-- A comparison of columns answers as it holds in the precision of the context. -/
theorem answers_columnComparison (op : Comparison) {other : String} (allowAbsent timeAware : Bool)
    (hv : (row.get column).isAbsent = false) (hw : (row.get other).isAbsent = false) :
    (columnComparison ⟨other, op, allowAbsent, timeAware⟩).Answers column ctx row
      (op.holdsAt (ctx.precision timeAware) (row.get column) (row.get other)) := by
  have h : (columnComparison ⟨other, op, allowAbsent, timeAware⟩).Answers column ctx row _ :=
    answers_of_judgeCell hv (fun _ => rfl) rfl
  rwa [ColumnComparison.judge, hw, if_neg Bool.false_ne_true, Outcome.isValid_check] at h

end

variable {kind : RuleKind} {op : Comparison} {row : Row} {column other : String}

/-- A rule for equality is planned as the comparison with its value, which must not be null. -/
theorem plan_equality (hop : kind.AsksEquality op) {d : Draft} (hkind : d.kind = kind)
    {check : Check} :
    d.plan = .ok check ↔ ∃ w, d.decode ValueLimit.readValue = .ok w ∧ w.isNull = false ∧
      check = .valueLimit ⟨op, w, false⟩ := by
  have hplan : d.plan = (ValueLimit.plan d op false).map .valueLimit := by
    rw [Draft.plan, hkind]
    cases hop <;> rfl
  rw [hplan, ValueLimit.plan]
  cases d.decode ValueLimit.readValue with
  | error problem => exact ⟨nofun, nofun⟩
  | ok w =>
    show Except.map _ (if w.isNull = true then d.fault _ else .ok _) = _ ↔ _
    simp only [Except.ok.injEq, exists_eq_left']
    cases w.isNull with
    | true => exact ⟨nofun, fun h => nomatch h.1⟩
    | false => exact ⟨fun h => ⟨rfl, (Except.ok.inj h).symm⟩, fun h => congrArg Except.ok h.2.symm⟩

/-- A rule that asks for equality with a value, or against it, is planned as a check with that
value. On present cells the check agrees with the comparison with a column that holds the value,
unless the context asks for times of day and the cells are moments of one day at different times:
these are still equal to each other as values, and not as columns. -/
theorem judge_equality (hop : kind.AsksEquality op) (hv : (row.get column).isAbsent = false)
    (hw : (row.get other).isAbsent = false) :
    (∀ (d : Draft) (check : Check), d.kind = kind → (d.plan = .ok check ↔
      ∃ w, d.decode ValueLimit.readValue = .ok w ∧ w.isNull = false ∧
        check = .valueLimit ⟨op, w, false⟩)) ∧
    ∀ (ctx : Context) (allowAbsent : Bool), ∃ byValue byColumn,
      (valueLimit ⟨op, row.get other, false⟩).Answers column ctx row byValue ∧
      (columnComparison ⟨other, op, allowAbsent, false⟩).Answers column ctx row byColumn ∧
      (byValue = byColumn ↔
        ¬ (ctx.timeAware = true ∧ (row.get column).ApartInDay (row.get other))) ∧
      ((row.get column).ApartInDay (row.get other) → (byValue = true ↔ op = .equal)) := by
  refine ⟨fun d check hkind => plan_equality hop hkind, fun ctx allowAbsent => ?_⟩
  refine ⟨_, _, answers_valueLimit op _ hv, answers_columnComparison op allowAbsent false hv hw, ?_,
    Comparison.holds_iff_of_apartInDay hop hv hw⟩
  rw [Comparison.holds, Context.precision, Bool.false_or]
  cases ctx.timeAware with
  | false => exact iff_of_true rfl fun h => nomatch h.1
  | true =>
    rw [and_iff_right rfl, ← Cell.order?_day_eq_iff hv hw]
    exact Comparison.holdsAt_eq_holdsAt_iff hop .day .exact hv hw

/-- A delivery in the morning that was due in the evening of the day. -/
def morningDelivery : Row :=
  .ofList [("at", .text "2024-03-01T08:00:00"), ("due", .text "2024-03-01T20:00:00")]

/-- A context that asks for times of day, or does not. -/
def deliveries (timeAware : Bool) : Context where
  rule := "on time"
  table := ⟨"deliveries", [morningDelivery]⟩
  datasets := .ofList [("deliveries", [morningDelivery])]
  lists := []
  timeAware := timeAware
  memoize := false
  now := .startOfDay ⟨2024, 3, 2, by decide, by decide⟩

/-- Both times of the delivery are present. -/
theorem present_morningDelivery :
    (morningDelivery.get "at").isAbsent = false ∧ (morningDelivery.get "due").isAbsent = false := by
  decide +kernel

/-- The delivery was due on the day on which it came, at another time. -/
theorem apartInDay_morningDelivery :
    (morningDelivery.get "at").ApartInDay (morningDelivery.get "due") := by
  let day : Date := ⟨2024, 3, 1, by decide, by decide⟩
  let morning : Moment := ⟨day, 8, 0, 0, 0, by decide, by decide, by decide, .inl (by decide)⟩
  let evening : Moment := ⟨day, 20, 0, 0, 0, by decide, by decide, by decide, .inl (by decide)⟩
  exact ⟨.inl (by decide +kernel), morning, evening, by decide +kernel, by decide +kernel,
    rfl, by decide⟩

/-- As a value the morning is never different from the evening, and as a column it is with times of
day. -/
theorem judge_equality_morningDelivery :
    (RuleKind.AsksEquality .notEquals .notEqual ∧ (morningDelivery.get "at").isAbsent = false ∧
      (morningDelivery.get "due").isAbsent = false) ∧
    ∀ timeAware, ∃ byValue byColumn,
      (valueLimit ⟨.notEqual, morningDelivery.get "due", false⟩).Answers "at" (deliveries timeAware)
        morningDelivery byValue ∧
      (columnComparison ⟨"due", .notEqual, false, false⟩).Answers "at" (deliveries timeAware)
        morningDelivery byColumn ∧
      (byValue = byColumn ↔ timeAware = false) ∧ byValue = false := by
  obtain ⟨hv, hw⟩ := present_morningDelivery
  have hapart := apartInDay_morningDelivery
  refine ⟨⟨.notEquals, hv, hw⟩, fun timeAware => ?_⟩
  obtain ⟨-, hjudge⟩ := judge_equality .notEquals hv hw
  obtain ⟨byValue, byColumn, hbyValue, hbyColumn, hagree, hequal⟩ :=
    hjudge (deliveries timeAware) false
  refine ⟨byValue, byColumn, hbyValue, hbyColumn, ?_, ?_⟩
  · rw [hagree, and_iff_left hapart, Bool.not_eq_true]
    rfl
  · rw [← Bool.not_eq_true, hequal hapart]
    nofun

/-- With times of day the morning is equal to the evening as a value, and not as a column. -/
theorem morning_equals_evening :
    (deliveries true).timeAware = true ∧
    morningDelivery.get "at" = .text "2024-03-01T08:00:00" ∧
    morningDelivery.get "due" = .text "2024-03-01T20:00:00" ∧
    (valueLimit ⟨.equal, .text "2024-03-01T20:00:00", false⟩).Answers "at" (deliveries true)
      morningDelivery true ∧
    (columnComparison ⟨"due", .equal, false, false⟩).Answers "at" (deliveries true)
      morningDelivery false := by
  obtain ⟨hv, hw⟩ := present_morningDelivery
  have hday :
      Comparison.equal.holds (morningDelivery.get "at") (.text "2024-03-01T20:00:00") = true := by
    decide +kernel
  have hexact :
      Comparison.equal.holdsAt .exact (morningDelivery.get "at") (morningDelivery.get "due") =
      false := by
    decide +kernel
  exact ⟨rfl, rfl, rfl, hday ▸ answers_valueLimit .equal _ hv,
    hexact ▸ answers_columnComparison .equal false false hv hw⟩

end Check

end RowAudit
