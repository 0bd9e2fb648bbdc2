import RowAudit.Proofs.Basic
import RowAudit.Proofs.Cell.Order
import RowAudit.Proofs.Check.Answers

/-!
# Intervals and their bounds

A check that a cell lies in an interval passes exactly if the checks with its bounds do. For numbers
these are comparisons with the bounds that are set, of which a planned interval has one or two
(`NumberInterval.bounds`); a cell that is no number fails all of them. For dates they are a check on
each side, which always passes if there is no limit on its side (`DateInterval.bound`). On cells
that are dates the sides complement each other, one taking the limit itself and the other not
(`Check.judge_intervals`).
-/

namespace RowAudit

/-! ## Numbers -/

namespace Cell

variable {a b c : Cell}

/-- A cell with a reading that null and the empty text do not have is present. -/
theorem isAbsent_of_reading {α : Type} {reading : Cell → Option α} {x : α}
    (hnull : reading null = none) (hempty : reading (text "") = none) (h : reading c = some x) :
    c.isAbsent = false := by
  refine Bool.eq_false_iff.2 fun habsent => ?_
  cases c with
  | null =>
    rw [hnull] at h
    cases h
  | text s =>
    obtain rfl : s = "" := eq_of_beq habsent
    rw [hempty] at h
    cases h
  | bool _ | number _ | moment _ | list _ | record _ => cases habsent

/-- A cell that is read as a number is present. -/
theorem isAbsent_of_number? {x : Float} (h : c.number? = some x) : c.isAbsent = false :=
  isAbsent_of_reading rfl (by decide +kernel) h

/-- A cell that is read as a moment is present. -/
theorem isAbsent_of_moment? {m : Moment} (h : c.moment? = some m) : c.isAbsent = false :=
  isAbsent_of_reading rfl (by decide +kernel) h

/-- Cells that are read as numbers are in the order of the numbers. -/
theorem order?_of_numbers {p : Precision} {x y : Float} (hx : a.number? = some x)
    (hy : b.number? = some y) : order? p a b = Number.order x y := by
  have hbools (u v : Bool) : a = .bool u → b ≠ .bool v := by
    rintro rfl
    cases hx
  rw [order?, coerce_of_present (isAbsent_of_number? hx) (isAbsent_of_number? hy) hbools, hx, hy]
  rfl

end Cell

/-- A comparison with a number asks only for the number of a cell. -/
theorem Comparison.holds_number {op : Comparison} {value limit : Cell} {x y : Float}
    (hx : value.number? = some x) (hy : limit.number? = some y) :
    op.holds (.number x) limit = op.holds value limit := by
  have hnumber : (Cell.number x).number? = some x := if_pos (Cell.isFinite_of_number? hx)
  rw [holds, holds, holdsAt_eq, holdsAt_eq, Cell.order?_of_numbers hnumber hy,
    Cell.order?_of_numbers hx hy]

namespace ValueLimit

variable {op : Comparison} {limit value : Cell}

/-- A cell that is no number fails a comparison of numbers. -/
theorem isValid_judge_of_none (hvalue : value.number? = none) (column : String) :
    (judge ⟨op, limit, true⟩ column value).isValid = false := by
  rw [judge, hvalue]
  rfl

/-- A number passes a comparison with a number if it holds. -/
theorem isValid_judge_of_number {x : Float} (hx : value.number? = some x)
    (hlimit : ∃ y, limit.number? = some y) (column : String) :
    (judge ⟨op, limit, true⟩ column value).isValid = op.holds (.number x) limit := by
  obtain ⟨y, hy⟩ := hlimit
  rw [judge, hx, Comparison.holds_number hx hy]
  exact Outcome.isValid_check _ _

end ValueLimit

namespace NumberInterval

/-- The comparison with the lower bound as a check. -/
def lowerLimit (check : NumberInterval) : ValueLimit := ⟨check.lower, check.min, true⟩

/-- The comparison with the upper bound as a check. -/
def upperLimit (check : NumberInterval) : ValueLimit := ⟨check.upper, check.max, true⟩

/-- A bound is set, and the bounds that are set are numbers. -/
structure Bounded (check : NumberInterval) : Prop where
  set : check.min.isAbsent = false ∨ check.max.isAbsent = false
  min : check.min.isAbsent = false → ∃ y, check.min.number? = some y
  max : check.max.isAbsent = false → ∃ y, check.max.number? = some y

/-- A bound that is set and has been checked is a number. -/
theorem exists_number_of_requireNumber {d : Draft} {name : String} {bound : Cell}
    (h : requireNumber d name bound = .ok ()) (hbound : bound.isAbsent = false) :
    ∃ y, bound.number? = some y := by
  rw [requireNumber, hbound, Bool.not_false, Bool.true_and] at h
  cases hnumber : bound.number? with
  | none =>
    rw [hnumber] at h
    cases h
  | some y => exact ⟨y, rfl⟩

variable {check : NumberInterval}

/-- A planned interval has a bound, and its bounds are numbers. -/
theorem bounded_of_plan {d : Draft} (h : plan d = .ok check) : check.Bounded := by
  obtain ⟨read, -, h⟩ := exists_of_bind_eq_ok h
  split at h
  · cases h
  · next hset =>
    obtain ⟨⟨⟩, hmin, h⟩ := exists_of_bind_eq_ok h
    obtain ⟨⟨⟩, hmax, h⟩ := exists_of_bind_eq_ok h
    cases h
    refine ⟨?_, exists_number_of_requireNumber hmin, exists_number_of_requireNumber hmax⟩
    rwa [Bool.not_eq_true, Bool.and_eq_false_iff] at hset

/-- A cell lies in an interval if it satisfies the comparisons with the bounds that are set. -/
theorem isValid_judge (h : check.Bounded) (column : String) (value : Cell) :
    (check.judge column value).isValid =
      ((check.min.isAbsent || (check.lowerLimit.judge column value).isValid) &&
        (check.max.isAbsent || (check.upperLimit.judge column value).isValid)) := by
  rw [judge, lowerLimit, upperLimit]
  cases hx : value.number? with
  | none =>
    rw [ValueLimit.isValid_judge_of_none hx, ValueLimit.isValid_judge_of_none hx, Bool.or_false,
      Bool.or_false]
    exact (Bool.and_eq_false_iff.2 h.set).symm
  | some x =>
    rw [Outcome.isValid_check]
    congr 1
    · cases hmin : check.min.isAbsent with
      | true => rfl
      | false => rw [ValueLimit.isValid_judge_of_number hx (h.min hmin)]
    · cases hmax : check.max.isAbsent with
      | true => rfl
      | false => rw [ValueLimit.isValid_judge_of_number hx (h.max hmax)]

end NumberInterval

/-! ## Dates -/

/-- A date is after a limit exactly if it is not before it, with the limit itself on one side. -/
theorem Side.holds_after (inclusive : Bool) (date limit : Moment) :
    Side.after.holds inclusive date limit = !Side.before.holds (!inclusive) date limit := by
  cases inclusive
  · simp [holds, bne]
  · rfl

namespace DateBound

variable {value : Cell}

/-- A date passes the check on one side if there is no limit, or if it stands on that side of it. -/
theorem isValid_judge (check : DateBound) (column : String) (value : Cell) (ctx : Context) :
    (check.judge column value ctx).isValid =
      if value.isAbsent then !check.required
      else check.limit.all fun limit => value.moment?.any fun date =>
        check.side.holds check.inclusive ((ctx.precision check.timeAware).truncate date)
          ((ctx.precision check.timeAware).truncate (limit.resolve ctx.now)) := by
  rw [judge]
  split
  · exact Outcome.isValid_check _ _
  · cases check.limit with
    | none => rfl
    | some limit =>
      cases value.moment? with
      | none => rfl
      | some date => exact Outcome.isValid_check _ _

end DateBound

namespace DateInterval

/-- The check on one side of an interval. -/
def bound (check : DateInterval) (side : Side) : DateBound where
  side := side
  limit := match side with
    | .after => check.start
    | .before => check.stop
  inclusive := check.inclusive
  required := check.required
  timeAware := check.timeAware

/-- A date passes the check of an interval if it passes those on both sides. -/
theorem isValid_judge (check : DateInterval) (column : String) (value : Cell) (ctx : Context) :
    (check.judge column value ctx).isValid =
      (((check.bound .after).judge column value ctx).isValid &&
        ((check.bound .before).judge column value ctx).isValid) := by
  obtain ⟨start, stop, inclusive, required, timeAware⟩ := check
  rw [DateBound.isValid_judge, DateBound.isValid_judge, judge]
  split
  · exact (Outcome.isValid_check _ _).trans (Bool.and_self _).symm
  · cases value.moment? with
    | none => cases start <;> cases stop <;> rfl
    | some date =>
      cases start with
      | none =>
        cases stop with
        | none => rfl
        | some e => exact Outcome.isValid_check _ _
      | some s =>
        cases stop with
        | none => exact Outcome.isValid_check _ _
        | some e => exact Outcome.isValid_check _ _

end DateInterval

/-! ## Checks -/

/-- The kinds of rules that ask for the order of a cell and a number. -/
inductive RuleKind.AsksOrder : RuleKind → Comparison → Prop
  | greaterThan : AsksOrder .greaterThan .greater
  | greaterThanEquals : AsksOrder .greaterThanEquals .atLeast
  | lessThan : AsksOrder .lessThan .less
  | lessThanEquals : AsksOrder .lessThanEquals .atMost

/-- The kind of rules that ask for a date on a side of a limit. -/
def Side.kind : Side → RuleKind
  | .before => .dateBefore
  | .after => .dateAfter

namespace Check

section
variable {column : String} {ctx : Context} {row : Row}

/-- A cell lies in an interval of numbers if it passes the comparisons with the bounds that are
set. -/
theorem answers_numberInterval_iff {interval : NumberInterval} (h : interval.Bounded) :
    (numberInterval interval).Answers column ctx row true ↔
      (interval.min.isAbsent = false →
        (valueLimit interval.lowerLimit).Answers column ctx row true) ∧
      (interval.max.isAbsent = false →
        (valueLimit interval.upperLimit).Answers column ctx row true) := by
  have hskips (limit : ValueLimit) :
      (valueLimit limit).skips column row = (numberInterval interval).skips column row := rfl
  rw [answers_iff (fun _ => rfl) rfl, answers_iff (fun _ => rfl) rfl,
    answers_iff (fun _ => rfl) rfl, hskips, hskips, interval.isValid_judge h]
  cases (numberInterval interval).skips column row with
  | true => simp only [Bool.true_or, implies_true, and_self]
  | false => cases interval.min.isAbsent <;> cases interval.max.isAbsent <;> simp

/-- A cell lies in an interval of dates if it passes the checks on both sides. -/
theorem answers_dateInterval_iff (interval : DateInterval) :
    (dateInterval interval).Answers column ctx row true ↔
      ∀ side, (dateBound (interval.bound side)).Answers column ctx row true := by
  have hbound (side : Side) : (dateBound (interval.bound side)).Answers column ctx row true ↔
      true = ((dateInterval interval).skips column row ||
        ((interval.bound side).judge column (row.get column) ctx).isValid) :=
    answers_iff (fun _ => rfl) rfl
  simp only [hbound]
  rw [answers_iff (fun _ => rfl) rfl, interval.isValid_judge, Bool.or_and_distrib_left]
  constructor
  · intro h side
    obtain ⟨hafter, hbefore⟩ := Bool.and_eq_true_iff.1 h.symm
    cases side with
    | before => exact hbefore.symm
    | after => exact hafter.symm
  · intro h
    exact (Bool.and_eq_true_iff.2 ⟨(h .after).symm, (h .before).symm⟩).symm

/-- The limit of a date belongs to one of the two sides, and every date lies on one of them. -/
theorem answers_dateBound_iff {limit : DateLimit} {inclusive required required' timeAware : Bool}
    {m : Moment} (hm : (row.get column).moment? = some m) :
    (dateBound ⟨.after, some limit, inclusive, required, timeAware⟩).Answers column ctx row true ↔
      (dateBound ⟨.before, some limit, !inclusive, required', timeAware⟩).Answers column ctx row
        false := by
  have hv := Cell.isAbsent_of_moment? hm
  rw [answers_iff (fun _ => rfl) rfl, answers_iff (fun _ => rfl) rfl, skips_of_present hv,
    skips_of_present hv, DateBound.isValid_judge, DateBound.isValid_judge, hv, hm]
  simp only [Bool.false_eq_true, if_false, Option.all_some, Option.any_some, Side.holds_after]
  simp

/-- A cell that is no date fails the check with a limit. -/
theorem answers_dateBound_of_not_date {bound : DateBound} {limit : DateLimit}
    (hlimit : bound.limit = some limit) (hv : (row.get column).isAbsent = false)
    (hm : (row.get column).moment? = none) :
    (dateBound bound).Answers column ctx row false := by
  rw [answers_iff (fun _ => rfl) rfl, skips_of_present hv, DateBound.isValid_judge, hv, hm, hlimit]
  rfl

end

/-! ## Planning -/

section
variable {d : Draft} {check : Check}

/-- What has been decoded has been read from the parameters. -/
theorem decode_eq_ok {α : Type} {r : Reader α} {a : α} (h : d.decode r = .ok a) :
    r (.ofJson (.object d.parameters)) = .ok a := by
  unfold Draft.decode at h
  split at h
  · next ha =>
    cases h
    exact ha
  · cases h

/-- A rule for a range is planned as an interval of numbers with a bound. -/
theorem plan_range (hkind : d.kind = .range) (h : d.plan = .ok check) :
    ∃ interval, check = .numberInterval interval ∧ interval.Bounded := by
  rw [Draft.plan, hkind] at h
  obtain ⟨interval, hplan, rfl⟩ := exists_of_map_eq_ok h
  exact ⟨interval, rfl, NumberInterval.bounded_of_plan hplan⟩

/-- A rule for an order is planned as the comparison with its limit. -/
theorem plan_order {op : Comparison} {limit : Cell} (hop : d.kind.AsksOrder op)
    (hread : d.decode ValueLimit.readValue = .ok limit) (hlimit : ∃ y, limit.number? = some y) :
    d.plan = .ok (.valueLimit ⟨op, limit, true⟩) := by
  obtain ⟨y, hy⟩ := hlimit
  have hnull : limit.isNull = false := by
    cases limit with
    | null => cases hy
    | bool _ | number _ | text _ | moment _ | list _ | record _ => rfl
  have hplan : ValueLimit.plan d op true = .ok ⟨op, limit, true⟩ := by
    rw [ValueLimit.plan, hread]
    show (if limit.isNull = true then _
      else if (true && limit.number?.isNone) = true then _ else _) = _
    rw [hnull, hy]
    rfl
  have hmap : d.plan = (ValueLimit.plan d op true).map .valueLimit := by
    rw [Draft.plan]
    cases hkind : d.kind <;> rw [hkind] at hop <;> cases hop <;> rfl
  rw [hmap, hplan]
  rfl

/-- A rule for dates in between is planned as an interval of dates. -/
theorem plan_dateBetween (hkind : d.kind = .dateBetween) (h : d.plan = .ok check) :
    ∃ interval, check = .dateInterval interval := by
  rw [Draft.plan, hkind] at h
  obtain ⟨interval, -, rfl⟩ := exists_of_map_eq_ok h
  exact ⟨interval, rfl⟩

/-- A rule for dates on one side is planned as the check on that side. -/
theorem plan_side {side : Side} (hkind : d.kind = side.kind) (h : d.plan = .ok check) :
    ∃ bound, check = .dateBound bound ∧ bound.side = side := by
  have hmap : d.plan = (DateBound.plan d side).map .dateBound := by
    rw [Draft.plan, hkind]
    cases side <;> rfl
  rw [hmap] at h
  obtain ⟨bound, hplan, rfl⟩ := exists_of_map_eq_ok h
  refine ⟨bound, rfl, ?_⟩
  obtain ⟨⟨text, ofLimit⟩, hread, hplan⟩ := exists_of_bind_eq_ok hplan
  obtain ⟨limit, -, hplan⟩ := exists_of_bind_eq_ok hplan
  have hside : (ofLimit limit).side = side := by
    obtain ⟨record, -, hread⟩ := exists_of_bind_eq_ok (decode_eq_ok hread)
    obtain ⟨compareDate, -, hread⟩ := exists_of_bind_eq_ok hread
    obtain ⟨inclusive, -, hread⟩ := exists_of_bind_eq_ok hread
    obtain ⟨required, -, hread⟩ := exists_of_bind_eq_ok hread
    obtain ⟨timeAware, -, hread⟩ := exists_of_bind_eq_ok hread
    cases hread
    rfl
  dsimp only at hplan
  split at hplan
  · cases hplan
  · cases hplan
    exact hside

end

/-- An interval is the conjunction of its bounds. A planned interval of numbers has a bound and only
numbers for bounds, each of which makes a check of its own, and a cell lies in the interval exactly
if it passes these checks. A cell lies in an interval of dates exactly if it passes the checks with
its two sides. The two sides of a limit complement each other on dates, and other present cells lie
on none. -/
theorem judge_intervals (column : String) (ctx : Context) (row : Row) :
    (∀ d : Draft,
      (∀ check, d.plan = .ok check →
        (d.kind = .range → ∃ interval, check = .numberInterval interval ∧ interval.Bounded) ∧
        (d.kind = .dateBetween → ∃ interval, check = .dateInterval interval) ∧
        ∀ side : Side, d.kind = side.kind → ∃ bound, check = .dateBound bound ∧ bound.side = side) ∧
      ∀ op, d.kind.AsksOrder op → ∀ limit, d.decode ValueLimit.readValue = .ok limit →
        (∃ y, limit.number? = some y) → d.plan = .ok (.valueLimit ⟨op, limit, true⟩)) ∧
    (∀ interval : NumberInterval, interval.Bounded →
      ((numberInterval interval).Answers column ctx row true ↔
        (interval.min.isAbsent = false →
          (valueLimit interval.lowerLimit).Answers column ctx row true) ∧
        (interval.max.isAbsent = false →
          (valueLimit interval.upperLimit).Answers column ctx row true))) ∧
    (∀ interval : DateInterval, (dateInterval interval).Answers column ctx row true ↔
      ∀ side, (dateBound (interval.bound side)).Answers column ctx row true) ∧
    ∀ (limit : DateLimit) (inclusive required required' timeAware : Bool),
      ((row.get column).moment?.isSome = true →
        ((dateBound ⟨.after, some limit, inclusive, required, timeAware⟩).Answers
            column ctx row true ↔
          (dateBound ⟨.before, some limit, !inclusive, required', timeAware⟩).Answers column ctx row
            false)) ∧
      ((row.get column).isAbsent = false → (row.get column).moment? = none → ∀ side,
        (dateBound ⟨side, some limit, inclusive, required, timeAware⟩).Answers
          column ctx row false) := by
  refine ⟨fun d => ⟨fun check h => ?_, ?_⟩, ?_, answers_dateInterval_iff, ?_⟩
  · exact ⟨fun hkind => plan_range hkind h, fun hkind => plan_dateBetween hkind h,
      fun side hkind => plan_side hkind h⟩
  · exact fun op hop limit hread hlimit => plan_order hop hread hlimit
  · exact fun interval h => answers_numberInterval_iff h
  · refine fun limit inclusive required required' timeAware => ⟨fun hdate => ?_, ?_⟩
    · obtain ⟨m, hm⟩ := Option.isSome_iff_exists.1 hdate
      exact answers_dateBound_iff hm
    · exact fun hv hm side => answers_dateBound_of_not_date rfl hv hm

/-- A parcel of ten kilograms that was sent on a day, and is to arrive soon. -/
def parcel : Row :=
  .ofList [("arrival", .text "soon"), ("sent", .text "2020-03-01"), ("weight", .text "10")]

/-- A context with that parcel. -/
def parcels : Context := .ofTable "light" ⟨"parcels", [parcel]⟩

/-- Less than ten kilograms. -/
def light : NumberInterval := ⟨.null, .text "10", false⟩

/-- A rule of a kind that asks for it. -/
def lightRule (kind : RuleKind) : Draft where
  rule := "light"
  kind := kind
  column := "weight"
  secondaryColumns := []
  parameters := .ofList [("inclusive", .bool false), ("max", .text "10"), ("value", .text "10")]
  tableConditions := []

/-- A day before which the parcel was sent, or not. -/
def leapDay : Moment := .startOfDay ⟨2020, 2, 29, by decide, by decide⟩

/-- The parcel is light exactly if it weighs less than ten kilograms. It was sent after a day
exactly if it was not sent on it or before, and it does not arrive on any side of the day. -/
theorem judge_intervals_parcel :
    ((lightRule .range).plan = .ok (.numberInterval light) ∧ light.Bounded ∧
      (lightRule .lessThan).kind.AsksOrder .less ∧
      (lightRule .lessThan).decode ValueLimit.readValue = .ok (.text "10") ∧
      (parcel.get "sent").moment?.isSome = true ∧ (parcel.get "arrival").isAbsent = false ∧
      (parcel.get "arrival").moment? = none) ∧
    (lightRule .lessThan).plan = .ok (.valueLimit light.upperLimit) ∧
    ((numberInterval light).Answers "weight" parcels parcel true ↔
      (valueLimit light.upperLimit).Answers "weight" parcels parcel true) ∧
    ((dateBound ⟨.after, some (.fixed leapDay), false, true, true⟩).Answers
        "sent" parcels parcel true ↔
      (dateBound ⟨.before, some (.fixed leapDay), true, true, true⟩).Answers "sent" parcels parcel
        false) ∧
    ∀ side, (dateBound ⟨side, some (.fixed leapDay), true, true, true⟩).Answers
      "arrival" parcels parcel false := by
  have hplan : (lightRule .range).plan = .ok (.numberInterval light) := by rfl
  have hread : (lightRule .lessThan).decode ValueLimit.readValue = .ok (.text "10") := by rfl
  have hsent : (parcel.get "sent").moment?.isSome = true := by decide +kernel
  have harrival : (parcel.get "arrival").isAbsent = false := by decide +kernel
  have hsoon : (parcel.get "arrival").moment? = none := by decide +kernel
  obtain ⟨hdrafts, hnumbers, -, -⟩ := judge_intervals "weight" parcels parcel
  have hset : light.max.isAbsent = false := by decide +kernel
  obtain ⟨_, ⟨⟩, hbounded⟩ := ((hdrafts (lightRule .range)).1 _ hplan).1 rfl
  have hlimit := (hdrafts (lightRule .lessThan)).2 .less .lessThan _ hread (hbounded.max hset)
  obtain ⟨-, -, -, hdates⟩ := judge_intervals "sent" parcels parcel
  obtain ⟨-, -, -, hothers⟩ := judge_intervals "arrival" parcels parcel
  refine ⟨⟨hplan, hbounded, .lessThan, hread, hsent, harrival, hsoon⟩, hlimit, ?_, ?_, ?_⟩
  · rw [hnumbers light hbounded]
    exact ⟨fun h => h.2 hset, fun h => ⟨by simp [light, Cell.isAbsent], fun _ => h⟩⟩
  · exact (hdates (.fixed leapDay) false true true true).1 hsent
  · exact (hothers (.fixed leapDay) true true true true).2 harrival hsoon

end Check

end RowAudit
