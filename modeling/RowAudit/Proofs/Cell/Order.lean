import RowAudit.Proofs.Cell.Keys

/-!
# The order of cells

Two present cells stand in exactly one order (`Cell.order?_isSome`), and the order is turned round
when the cells change places (`Cell.order?_swap`). Numbers without a place in the order of numbers
never get that far: a cell is read as a number only if the number is finite. From this the six
comparisons are related to each other, and to those at the other precision
(`Comparison.holdsAt_coherent`).
-/

namespace RowAudit

/-! ## Numbers -/

namespace Number

open Float.Model Float.Model.UnpackedFloat

/-- Compared the other way round, unpacked numbers give the opposite result. -/
theorem compare_swap (u v : UnpackedFloat) :
    v.compare u = (u.compare v).map Ordering.swap := by
  cases u with
  | notANumber => cases v <;> simp [UnpackedFloat.compare]
  | infinity s =>
    cases v with
    | notANumber => cases s <;> rfl
    | infinity t => cases s <;> cases t <;> rfl
    | zero | finite => cases s <;> rfl
  | zero s =>
    cases v with
    | notANumber | zero => rfl
    | infinity t | finite t => cases t <;> rfl
  | finite s m e =>
    cases v with
    | notANumber => cases s <;> rfl
    | infinity t => cases s <;> cases t <;> rfl
    | zero => cases s <;> rfl
    | finite t n f =>
      cases s <;> cases t <;>
        simp [UnpackedFloat.compare, Ordering.swap_then, ← Int.compare_swap f e,
          ← Nat.compare_swap n m]

variable {x y : Float}

/-- The order of numbers is the comparison of their values. -/
theorem order_eq_compare (x y : Float) :
    order x y = x.toModel.unpack.compare y.toModel.unpack := by
  have hgt : y < x ↔ x.toModel.unpack.compare y.toModel.unpack = some .gt := by
    rw [lt_iff_compare, compare_swap]
    simp [Ordering.swap_eq_lt]
  unfold order
  simp only [lt_iff_compare (x := x), beq_iff_compare, hgt]
  cases x.toModel.unpack.compare y.toModel.unpack with
  | none => simp
  | some o => cases o <;> simp

/-- The order of two numbers the other way round is the opposite one. -/
theorem order_swap (x y : Float) : order y x = (order x y).map Ordering.swap := by
  rw [order_eq_compare, order_eq_compare, compare_swap]

/-- Two finite numbers have an order. -/
theorem order_isSome (hx : isFinite x = true) (hy : isFinite y = true) :
    (order x y).isSome = true := by
  rw [order_eq_compare]
  rcases unpack_of_isFinite hx with ⟨s, h⟩ | ⟨s, m, e, hm, h⟩ <;>
    rcases unpack_of_isFinite hy with ⟨t, h'⟩ | ⟨t, n, f, hn, h'⟩ <;>
    cases s <;> cases t <;> simp [h, h', UnpackedFloat.compare]

/-- A finite number is equal to itself. -/
theorem order_self (hx : isFinite x = true) : order x x = some .eq :=
  (order_eq_some_eq_iff hx hx).2 (.inl rfl)

end Number

/-! ## Moments -/

/-- The order of two dates the other way round is the opposite one. -/
theorem Date.order_swap (a b : Date) : b.order a = (a.order b).swap := by
  simp only [order, Ordering.swap_then, Int.compare_swap, Nat.compare_swap]

/-- The order of two moments the other way round is the opposite one. -/
theorem Moment.order_swap (m n : Moment) : n.order m = (m.order n).swap := by
  simp only [order, Ordering.swap_then, Nat.compare_swap, Date.order_swap m.date]

/-- The days of two moments stand in the order of the moments as far as days go. -/
theorem Moment.order_eq_then (m n : Moment) : ∃ o, m.order n =
    ((Precision.day.truncate m).order (Precision.day.truncate n)).then o := by
  refine ⟨(compare m.secondOfDay n.secondOfDay).then (compare m.nano n.nano), ?_⟩
  simp [Precision.truncate, order, startOfDay, secondOfDay]

/-! ## Readings of two cells -/

/-- The order of two truth values the other way round is the opposite one. -/
theorem boolOrder_swap (x y : Bool) : boolOrder y x = (boolOrder x y).swap := by
  cases x <;> cases y <;> rfl

namespace Coerced

/-- The two cells in the other order. -/
def swap : Coerced → Coerced
  | bools x y => bools y x
  | numbers x y => numbers y x
  | moments m n => moments n m
  | texts s t => texts t s

/-- Two cells as far as a precision goes. -/
def truncate (p : Precision) : Coerced → Coerced
  | moments m n => moments (p.truncate m) (p.truncate n)
  | c => c

/-- What is compared has the opposite order the other way round. -/
theorem order_swap (c : Coerced) : c.swap.order = c.order.map Ordering.swap := by
  cases c with
  | bools x y => simp [swap, order, boolOrder_swap x y]
  | numbers x y => simp [swap, order, Number.order_swap x y]
  | moments m n => simp [swap, order, Moment.order_swap m n]
  | texts s t =>
    simp only [swap, order, Option.map_some, Option.some_inj]
    exact Std.OrientedOrd.eq_swap

/-- What is equal is equal by days. -/
theorem order_day_eq {c : Coerced} (h : c.order = some .eq) :
    (c.truncate .day).order = some .eq := by
  cases c with
  | bools | numbers | texts => exact h
  | moments m n =>
    obtain ⟨o, ho⟩ := m.order_eq_then n
    simp only [order, ho, Option.some_inj, Ordering.then_eq_eq] at h
    simp [truncate, order, h.1]

/-- What is less by days is less. -/
theorem order_of_day_lt {c : Coerced} (h : (c.truncate .day).order = some .lt) :
    c.order = some .lt := by
  cases c with
  | bools | numbers | texts => exact h
  | moments m n =>
    obtain ⟨o, ho⟩ := m.order_eq_then n
    simp only [truncate, order, Option.some_inj] at h
    simp [order, ho, h]

end Coerced

section
variable {p : Precision} {a b : Cell}

/-- An absent cell is not compared. -/
theorem coerce_of_absent (h : a.isAbsent = true ∨ b.isAbsent = true) : coerce p a b = none := by
  simp [coerce, h]

/-- Cells that are not both truth values are compared as numbers, moments or texts. -/
theorem coerce_of_present (ha : a.isAbsent = false) (hb : b.isAbsent = false)
    (hbools : ∀ x y, a = .bool x → b ≠ .bool y) :
    coerce p a b =
      match a.number?, b.number? with
      | some x, some y => some (.numbers x y)
      | _, _ =>
        match a.moment?, b.moment? with
        | some m, some n => some (.moments (p.truncate m) (p.truncate n))
        | _, _ => some (.texts a.display b.display) := by
  rw [coerce.eq_def, ha, hb, Bool.or_self, if_neg Bool.false_ne_true]
  split
  · exact absurd rfl (hbools _ _ rfl)
  · rfl

/-- The reading of two cells does not depend on which of them comes first. -/
theorem coerce_swap (p : Precision) (a b : Cell) :
    coerce p b a = (coerce p a b).map Coerced.swap := by
  by_cases habsent : a.isAbsent = true ∨ b.isAbsent = true
  · simp [coerce_of_absent habsent, coerce_of_absent habsent.symm]
  · simp only [not_or, Bool.not_eq_true] at habsent
    by_cases hbools : ∃ x y, a = .bool x ∧ b = .bool y
    · obtain ⟨x, y, rfl, rfl⟩ := hbools
      rfl
    · have hab : ∀ x y, a = .bool x → b ≠ .bool y := fun x y hx hy => hbools ⟨x, y, hx, hy⟩
      rw [coerce_of_present habsent.1 habsent.2 hab,
        coerce_of_present habsent.2 habsent.1 fun x y hx hy => hab y x hy hx]
      cases a.number? <;> cases b.number? <;> cases a.moment? <;> cases b.moment? <;> rfl

/-- The precision has no part in the choice of a reading. -/
theorem coerce_truncate (p : Precision) (a b : Cell) :
    coerce p a b = (coerce .exact a b).map (Coerced.truncate p) := by
  by_cases habsent : a.isAbsent = true ∨ b.isAbsent = true
  · simp [coerce_of_absent habsent]
  · simp only [not_or, Bool.not_eq_true] at habsent
    by_cases hbools : ∃ x y, a = .bool x ∧ b = .bool y
    · obtain ⟨x, y, rfl, rfl⟩ := hbools
      rfl
    · have hab : ∀ x y, a = .bool x → b ≠ .bool y := fun x y hx hy => hbools ⟨x, y, hx, hy⟩
      rw [coerce_of_present habsent.1 habsent.2 hab, coerce_of_present habsent.1 habsent.2 hab]
      cases a.number? <;> cases b.number? <;> cases a.moment? <;> cases b.moment? <;> rfl

end

/-! ## The order of two cells -/

namespace Cell

/-- The order of two cells, if they have one. -/
def order? (p : Precision) (a b : Cell) : Option Ordering := (coerce p a b).bind Coerced.order

variable {p : Precision} {a b : Cell}

/-- An absent cell has no order to another one. -/
theorem order?_of_absent (h : a.isAbsent = true ∨ b.isAbsent = true) : order? p a b = none := by
  rw [order?, coerce_of_absent h, Option.bind_none]

/-- Two present cells have an order. -/
theorem order?_isSome (ha : a.isAbsent = false) (hb : b.isAbsent = false) :
    (order? p a b).isSome = true := by
  rw [order?]
  obtain ⟨x, y, -, -, h⟩ | ⟨x, y, hx, hy, h⟩ | ⟨-, m, n, -, -, h⟩ | ⟨-, -, h⟩ :=
    coerce_cases (p := p) ha hb
  · rw [h]; rfl
  · rw [h]
    exact Number.order_isSome (isFinite_of_number? hx) (isFinite_of_number? hy)
  · rw [h]; rfl
  · rw [h]; rfl

/-- A present cell is equal to itself. -/
theorem order?_self (ha : a.isAbsent = false) : order? p a a = some .eq := by
  rw [order?]
  obtain ⟨x, y, hx, hy, h⟩ | ⟨x, y, hx, hy, h⟩ | ⟨-, m, n, hm, hn, h⟩ | ⟨-, -, h⟩ :=
    coerce_cases (p := p) ha ha
  · obtain rfl : x = y := by simpa [hx] using hy
    cases x <;> simp [h, Coerced.order, boolOrder]
  · obtain rfl : x = y := by simpa [hx] using hy
    simp [h, Coerced.order, Number.order_self (isFinite_of_number? hx)]
  · obtain rfl : m = n := by simpa [hm] using hn
    simp [h, Coerced.order, Moment.order_self]
  · simp [h, Coerced.order]

/-- The order of two cells the other way round is the opposite one. -/
theorem order?_swap (p : Precision) (a b : Cell) :
    order? p b a = (order? p a b).map Ordering.swap := by
  rw [order?, order?, coerce_swap]
  cases coerce p a b with
  | none => rfl
  | some c => exact c.order_swap

/-- Equal cells are equal by days. -/
theorem order?_day_eq (h : order? .exact a b = some .eq) : order? .day a b = some .eq := by
  rw [order?] at h ⊢
  rw [coerce_truncate]
  obtain ⟨c, hc, hcorder⟩ := Option.bind_eq_some_iff.1 h
  rw [hc]
  exact Coerced.order_day_eq hcorder

/-- A cell that is less by days is less. -/
theorem order?_of_day_lt (h : order? .day a b = some .lt) : order? .exact a b = some .lt := by
  rw [order?] at h ⊢
  rw [coerce_truncate] at h
  cases hc : coerce .exact a b with
  | none => simp [hc] at h
  | some c =>
    rw [hc] at h
    exact Coerced.order_of_day_lt h

end Cell

/-! ## Comparisons -/

namespace Comparison

/-- The comparison of the cells in the other order. -/
def converse : Comparison → Comparison
  | equal => equal
  | notEqual => notEqual
  | greater => less
  | atLeast => atMost
  | less => greater
  | atMost => atLeast

/-- How the comparisons of two cells are related. -/
structure Coherent (p : Precision) (a b : Cell) : Prop where
  exactlyOne : ∃! c, c ∈ [less, equal, greater] ∧ c.holdsAt p a b = true
  notEqual : notEqual.holdsAt p a b = !equal.holdsAt p a b
  atLeast : atLeast.holdsAt p a b = !less.holdsAt p a b
  atMost : atMost.holdsAt p a b = !greater.holdsAt p a b

/-- A comparison allows an order if its converse allows the opposite one. -/
theorem allows_swap (c : Comparison) (o : Ordering) : c.converse.allows o.swap = c.allows o := by
  cases c <;> cases o <;> rfl

variable {p : Precision} {a b : Cell}

/-- A comparison holds if it allows the order of the cells. -/
theorem holdsAt_eq (c : Comparison) (p : Precision) (a b : Cell) :
    c.holdsAt p a b = (Cell.order? p a b).any c.allows := by
  rw [holdsAt, Cell.order?]
  cases (coerce p a b).bind Coerced.order <;> rfl

/-- A cell is less than another one if their order says so. -/
theorem less_holdsAt_iff : less.holdsAt p a b = true ↔ Cell.order? p a b = some .lt := by
  rw [holdsAt_eq]
  cases Cell.order? p a b with
  | none => simp
  | some o => cases o <;> simp [allows]

/-- A comparison holds if its converse holds the other way round. -/
theorem holdsAt_converse (c : Comparison) (p : Precision) (a b : Cell) :
    c.converse.holdsAt p b a = c.holdsAt p a b := by
  rw [holdsAt_eq, holdsAt_eq, Cell.order?_swap]
  cases Cell.order? p a b with
  | none => rfl
  | some o => exact allows_swap c o

/-- Cells that have an order are compared by it. -/
theorem coherent_of_order? {o : Ordering} (h : Cell.order? p a b = some o) : Coherent p a b := by
  have hholds (c : Comparison) : c.holdsAt p a b = c.allows o := by rw [holdsAt_eq, h]; rfl
  constructor
  · simp only [hholds]
    cases o with
    | lt => exact ⟨less, by decide, fun c => by cases c <;> decide⟩
    | eq => exact ⟨equal, by decide, fun c => by cases c <;> decide⟩
    | gt => exact ⟨greater, by decide, fun c => by cases c <;> decide⟩
  all_goals simp only [hholds]; cases o <;> rfl

/-- Comparisons of present cells are decided by one order of the cells, of which there is always
exactly one, and every cell is equal to itself. An absent cell satisfies none. What is equal with
the time of day is of one day, and what is on an earlier day is earlier. -/
theorem holdsAt_coherent (p : Precision) (a b : Cell) :
    (a.isAbsent = true ∨ b.isAbsent = true → ∀ c : Comparison, c.holdsAt p a b = false) ∧
    (a.isAbsent = false → equal.holdsAt p a a = true) ∧
    (a.isAbsent = false → b.isAbsent = false → Coherent p a b) ∧
    (∀ c : Comparison, c.converse.holdsAt p b a = c.holdsAt p a b) ∧
    (equal.holdsAt .exact a b = true → equal.holdsAt .day a b = true) ∧
    (less.holdsAt .day a b = true → less.holdsAt .exact a b = true) := by
  refine ⟨fun h c => ?_, fun ha => ?_, fun ha hb => ?_, fun c => holdsAt_converse c p a b, ?_, ?_⟩
  · rw [holdsAt_eq, Cell.order?_of_absent h]
    rfl
  · exact holdsAt_equal_iff.2 (Cell.order?_self ha)
  · obtain ⟨o, ho⟩ := Option.isSome_iff_exists.1 (Cell.order?_isSome (p := p) ha hb)
    exact coherent_of_order? ho
  · intro h
    exact holdsAt_equal_iff.2 (Cell.order?_day_eq (holdsAt_equal_iff.1 h))
  · intro h
    exact less_holdsAt_iff.2 (Cell.order?_of_day_lt (less_holdsAt_iff.1 h))

/-- A leap second as a text, the start of the next day as a text of another shape, and null. -/
theorem holdsAt_coherent_leapSecond :
    let leap := Cell.text "2016-12-31T23:59:60.5"
    let next := Cell.text "2017/01/01"
    (Cell.null.isAbsent = true ∧ leap.isAbsent = false ∧ next.isAbsent = false ∧
      equal.holdsAt .exact leap leap = true ∧ less.holdsAt .day leap next = true) ∧
    notEqual.holdsAt .day .null leap = false ∧ Coherent .exact leap next ∧
    greater.holdsAt .exact next leap = less.holdsAt .exact leap next ∧
    equal.holdsAt .day leap leap = true ∧ less.holdsAt .exact leap next = true := by
  intro leap next
  have hleap : leap.isAbsent = false := by decide +kernel
  have hnext : next.isAbsent = false := by decide +kernel
  have hearlier : less.holdsAt .day leap next = true := by decide +kernel
  obtain ⟨-, hself, hcoherent, hconverse, -, hless⟩ := holdsAt_coherent .exact leap next
  obtain ⟨-, -, -, -, hday, -⟩ := holdsAt_coherent .exact leap leap
  obtain ⟨hnull, -⟩ := holdsAt_coherent .day .null leap
  exact ⟨⟨rfl, hleap, hnext, hself hleap, hearlier⟩, hnull (.inl rfl) notEqual,
    hcoherent hleap hnext, hconverse less, hday (hself hleap), hless hearlier⟩

end Comparison

end RowAudit
