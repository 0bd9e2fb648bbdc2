import RowAudit.Proofs.Cell.Order

/-!
# Where the order of cells is transitive

Numbers, moments and texts are each ordered transitively, and of these orders the one of two cells
is chosen by what both of them can be read as. So three cells may be compared in two ways, and their
order need not be transitive: it is not exactly if one is a text that is no moment and stands, in
the order of texts, between two moments that are not in that order themselves (`Cell.Divides`,
`Cell.exists_detour_iff`). Numbers can always be read as numbers, so they are never divided.
-/

namespace RowAudit

/-- A transitive comparison is transitive for each of its results. -/
theorem trans_of_transCmp {α : Type} {cmp : α → α → Ordering} [Std.TransCmp cmp] {a b c : α}
    {o : Ordering} (hab : cmp a b = o) (hbc : cmp b c = o) : cmp a c = o := by
  cases o with
  | lt => exact Std.TransCmp.lt_trans hab hbc
  | eq => exact Std.TransCmp.eq_trans hab hbc
  | gt => exact Std.TransCmp.gt_trans hab hbc

/-! ## Moments -/

/-- Dates are equal in order only if they are equal. -/
theorem Date.order_eq_iff {a b : Date} : a.order b = .eq ↔ a = b := by
  rw [order, Ordering.then_eq_eq, Ordering.then_eq_eq, Std.compare_eq_iff_eq, Std.compare_eq_iff_eq,
    Std.compare_eq_iff_eq]
  constructor
  · rintro ⟨hyear, hmonth, hday⟩
    cases a
    cases b
    cases hyear
    cases hmonth
    cases hday
    rfl
  · rintro rfl
    exact ⟨rfl, rfl, rfl⟩

/-- Moments with one place in the order of time are the same. -/
theorem Moment.order_eq_iff {m n : Moment} : m.order n = .eq ↔ m = n := by
  refine ⟨fun h => ?_, fun h => h ▸ m.order_self⟩
  rw [order, Ordering.then_eq_eq, Ordering.then_eq_eq, Date.order_eq_iff, Std.compare_eq_iff_eq,
    Std.compare_eq_iff_eq] at h
  obtain ⟨hdate, hseconds, hnano⟩ := h
  obtain ⟨date, hour, minute, second, nano, hh, hm, hs, hn⟩ := m
  obtain ⟨date', hour', minute', second', nano', hh', hm', hs', hn'⟩ := n
  simp only [secondOfDay] at hseconds
  have hhour : hour = hour' := by omega
  have hminute : minute = minute' := by omega
  have hsecond : second = second' := by omega
  cases hdate
  cases hnano
  cases hhour
  cases hminute
  cases hsecond
  rfl

instance : Std.TransCmp Date.order :=
  inferInstanceAs (Std.TransCmp (compareLex (compareOn Date.year)
    (compareLex (compareOn Date.month) (compareOn Date.day))))

instance : Std.TransCmp Moment.order :=
  let _ : Ord Date := ⟨Date.order⟩
  have : Std.TransOrd Date := inferInstanceAs (Std.TransCmp Date.order)
  inferInstanceAs (Std.TransCmp (compareLex (compareOn Moment.date)
    (compareLex (compareOn Moment.secondOfDay) (compareOn Moment.nano))))

/-! ## Numbers -/

namespace Number

open Float.Model Float.Model.UnpackedFloat

/-- Sign, exponent and mantissa of a number, the last two turned round if it is negative. -/
def rank : UnpackedFloat → ℤ × ℤ × ℤ
  | finite .positive m e _ => (1, e, m)
  | finite .negative m e _ => (-1, -e, -m)
  | _ => (0, 0, 0)

/-- Signs before exponents before mantissas. -/
def rankOrder : ℤ × ℤ × ℤ → ℤ × ℤ × ℤ → Ordering :=
  compareLex (compareOn (·.1)) (compareLex (compareOn (·.2.1)) (compareOn (·.2.2)))

instance : Std.TransCmp rankOrder :=
  inferInstanceAs (Std.TransCmp (compareLex (compareOn _) (compareLex (compareOn _) (compareOn _))))

/-- Natural numbers are compared as integers. -/
theorem compare_natCast (m n : ℕ) : compare (m : ℤ) (n : ℤ) = compare m n := by
  simp [compare, compareOfLessAndEq]

/-- Integers with the other signs are compared the other way round. -/
theorem compare_neg (a b : ℤ) : compare (-a) (-b) = (compare a b).swap := by
  rw [Int.compare_swap]
  simp [compare, compareOfLessAndEq, eq_comm]

/-- Finite numbers stand in the order of their ranks. -/
theorem order_eq_rankOrder {x y : Float} (hx : isFinite x = true) (hy : isFinite y = true) :
    order x y = some (rankOrder (rank x.toModel.unpack) (rank y.toModel.unpack)) := by
  rw [order_eq_compare]
  obtain ⟨s, hx⟩ | ⟨s, m, e, hm, hx⟩ := unpack_of_isFinite hx <;>
    obtain ⟨t, hy⟩ | ⟨t, n, f, hn, hy⟩ := unpack_of_isFinite hy <;> rw [hx, hy]
  · rfl
  · cases t <;> rfl
  · cases s <;> rfl
  · cases s <;> cases t
    case positive.negative | negative.positive => rfl
    all_goals
      simp [UnpackedFloat.compare, rank, rankOrder, compareLex, compareOn, compare_natCast,
        compare_neg, Ordering.swap_then]

/-- Finite numbers are ordered transitively. -/
theorem order_trans {x y z : Float} {o : Ordering} (hx : isFinite x = true) (hy : isFinite y = true)
    (hz : isFinite z = true) (hxy : order x y = some o) (hyz : order y z = some o) :
    order x z = some o := by
  rw [order_eq_rankOrder hx hy, Option.some_inj] at hxy
  rw [order_eq_rankOrder hy hz, Option.some_inj] at hyz
  rw [order_eq_rankOrder hx hz, Option.some_inj]
  exact trans_of_transCmp hxy hyz

end Number

/-! ## Cells that are no numbers -/

namespace Cell

variable {a b c x p q : Cell} {o : Ordering}

/-- The order of two cells that are no numbers: that of their moments, or that of their texts if one
of them is no moment. -/
def plainOrder (a b : Cell) : Ordering :=
  match a.moment?, b.moment? with
  | some m, some n => m.order n
  | _, _ => compare a.display b.display

/-- Two moments are ordered as moments. -/
theorem plainOrder_of_moments {m n : Moment} (ha : a.moment? = some m) (hb : b.moment? = some n) :
    plainOrder a b = m.order n := by
  rw [plainOrder, ha, hb]

/-- Cells of which one is no moment are ordered as texts. -/
theorem plainOrder_of_text (h : a.moment? = none ∨ b.moment? = none) :
    plainOrder a b = compare a.display b.display := by
  rw [plainOrder]
  split
  · next hm hn =>
    rw [hm, hn] at h
    exact h.elim nofun nofun
  · rfl

/-- Present cells that are no numbers have their plain order. -/
theorem order?_of_plain (ha : a.isAbsent = false) (hb : b.isAbsent = false)
    (hna : a.number? = none) (hnb : b.number? = none) :
    order? .exact a b = some (plainOrder a b) := by
  rw [order?]
  obtain ⟨x, y, rfl, rfl, h⟩ | ⟨x, y, hx, -, -⟩ | ⟨-, m, n, hm, hn, h⟩ | ⟨-, hmoment, h⟩ :=
    coerce_cases (p := .exact) ha hb
  · rw [h]
    cases x <;> cases y <;> decide +kernel
  · rw [hna] at hx
    cases hx
  · rw [h, plainOrder_of_moments hm hn]
    rfl
  · rw [h, plainOrder_of_text hmoment]
    rfl

/-- Cells of which one is no moment are less as their texts are. -/
theorem plainOrder_lt_iff (h : a.moment? = none ∨ b.moment? = none) :
    plainOrder a b = .lt ↔ a.display < b.display := by
  rw [plainOrder_of_text h, compare_lt_iff_lt]

/-- The plain order the other way round is the opposite one. -/
theorem plainOrder_swap (a b : Cell) : plainOrder b a = (plainOrder a b).swap := by
  by_cases h : a.moment? = none ∨ b.moment? = none
  · rw [plainOrder_of_text h, plainOrder_of_text h.symm]
    exact Std.OrientedOrd.eq_swap
  · simp only [not_or, ← ne_eq, Option.ne_none_iff_exists'] at h
    obtain ⟨⟨m, hm⟩, n, hn⟩ := h
    rw [plainOrder_of_moments hm hn, plainOrder_of_moments hn hm, Moment.order_swap]

/-- A way from one cell over a second one to a third one that is not the direct way. -/
def Detour (o : Ordering) (a b c : Cell) : Prop :=
  plainOrder a b = o ∧ plainOrder b c = o ∧ plainOrder a c ≠ o

instance : Decidable (Detour o a b c) := inferInstanceAs (Decidable (_ ∧ _ ∧ _))

/-- A text that is no moment stands between two moments, in the order of texts, that are in the
other order, or are one moment. -/
def Divides (x p q : Cell) : Prop :=
  x.moment? = none ∧ ∃ m n, p.moment? = some m ∧ q.moment? = some n ∧
    (p.display ≤ x.display ∧ x.display ≤ q.display ∧ p.display ≠ q.display ∧ n.order m = .lt ∨
      p.display < x.display ∧ x.display < q.display ∧ m = n)

/-- A detour is one in the other direction as well, with the opposite order. -/
theorem detour_swap : Detour o.swap a b c ↔ Detour o c b a := by
  have hswap (a b : Cell) : plainOrder a b = o.swap ↔ plainOrder b a = o := by
    rw [plainOrder_swap a b]
    cases plainOrder a b <;> cases o <;> decide
  rw [Detour, Detour, hswap a b, hswap b c, ne_eq, hswap a c]
  exact ⟨fun ⟨hab, hbc, hac⟩ => ⟨hbc, hab, hac⟩, fun ⟨hbc, hab, hac⟩ => ⟨hab, hbc, hac⟩⟩

/-- Of the three cells of a detour exactly one is a text, and it divides the other two. -/
theorem Detour.divides (h : Detour .lt a b c) : Divides a c b ∨ Divides b a c ∨ Divides c b a := by
  obtain ⟨hab, hbc, hac⟩ := h
  cases ha : a.moment? with
  | none =>
    rw [plainOrder_lt_iff (.inl ha)] at hab
    rw [ne_eq, plainOrder_lt_iff (.inl ha), not_lt] at hac
    by_cases htext : b.moment? = none ∨ c.moment? = none
    · rw [plainOrder_lt_iff htext] at hbc
      exact absurd (hab.trans hbc) (not_lt.2 hac)
    · simp only [not_or, ← ne_eq, Option.ne_none_iff_exists'] at htext
      obtain ⟨⟨m, hb⟩, n, hc⟩ := htext
      rw [plainOrder_of_moments hb hc] at hbc
      exact .inl ⟨ha, n, m, hc, hb, .inl ⟨hac, hab.le, (hac.trans_lt hab).ne, hbc⟩⟩
  | some k =>
    cases hb : b.moment? with
    | none =>
      rw [plainOrder_lt_iff (.inr hb)] at hab
      rw [plainOrder_lt_iff (.inl hb)] at hbc
      cases hc : c.moment? with
      | none =>
        rw [ne_eq, plainOrder_lt_iff (.inr hc)] at hac
        exact absurd (hab.trans hbc) hac
      | some n =>
        rw [plainOrder_of_moments ha hc] at hac
        refine .inr (.inl ⟨hb, k, n, ha, hc, ?_⟩)
        cases hmoments : n.order k with
        | lt => exact .inl ⟨hab.le, hbc.le, (hab.trans hbc).ne, rfl⟩
        | eq => exact .inr ⟨hab, hbc, (Moment.order_eq_iff.1 hmoments).symm⟩
        | gt =>
          rw [Moment.order_swap n k, hmoments] at hac
          exact absurd rfl hac
    | some m =>
      rw [plainOrder_of_moments ha hb] at hab
      cases hc : c.moment? with
      | none =>
        rw [plainOrder_lt_iff (.inr hc)] at hbc
        rw [ne_eq, plainOrder_lt_iff (.inr hc), not_lt] at hac
        exact .inr (.inr ⟨hc, m, k, hb, ha, .inl ⟨hbc.le, hac, (hbc.trans_le hac).ne, hab⟩⟩)
      | some n =>
        rw [plainOrder_of_moments hb hc] at hbc
        rw [plainOrder_of_moments ha hc] at hac
        exact absurd (trans_of_transCmp hab hbc) hac

/-- A text that divides two moments makes a detour of the three. -/
theorem Divides.detour (h : Divides x p q) :
    Detour .lt q p x ∨ Detour .lt x q p ∨ Detour .lt p x q := by
  obtain ⟨hx, m, n, hp, hq, hplaces⟩ := h
  have hleft (b : Cell) : plainOrder x b = .lt ↔ x.display < b.display :=
    plainOrder_lt_iff (.inl hx)
  have hright (a : Cell) : plainOrder a x = .lt ↔ a.display < x.display :=
    plainOrder_lt_iff (.inr hx)
  simp only [Detour, hleft, hright, ne_eq, not_lt]
  obtain ⟨hpx, hxq, hne, hmoments⟩ | ⟨hpx, hxq, rfl⟩ := hplaces
  · have hqp : plainOrder q p = .lt := by rw [plainOrder_of_moments hq hp, hmoments]
    obtain hlt | heq := hpx.lt_or_eq
    · exact .inl ⟨hqp, hlt, hxq⟩
    · exact .inr (.inl ⟨lt_of_le_of_ne hxq (heq ▸ hne), hqp, hpx⟩)
  · refine .inr (.inr ⟨hpx, hxq, ?_⟩)
    rw [plainOrder_of_moments hp hq, m.order_self]
    nofun

/-- One of some cells divides two of them. -/
def Divided (cells : List Cell) : Prop := ∃ x ∈ cells, ∃ p ∈ cells, ∃ q ∈ cells, x.Divides p q

/-- The order of cells that are no numbers is transitive unless they are divided. -/
theorem exists_detour_iff {cells : List Cell} (ho : o ≠ .eq) :
    (∃ a ∈ cells, ∃ b ∈ cells, ∃ c ∈ cells, Detour o a b c) ↔ Divided cells := by
  have hless : (∃ a ∈ cells, ∃ b ∈ cells, ∃ c ∈ cells, Detour .lt a b c) ↔ Divided cells := by
    constructor
    · rintro ⟨a, ha, b, hb, c, hc, h⟩
      obtain h | h | h := h.divides
      · exact ⟨a, ha, c, hc, b, hb, h⟩
      · exact ⟨b, hb, a, ha, c, hc, h⟩
      · exact ⟨c, hc, b, hb, a, ha, h⟩
    · rintro ⟨x, hx, p, hp, q, hq, h⟩
      obtain h | h | h := h.detour
      · exact ⟨q, hq, p, hp, x, hx, h⟩
      · exact ⟨x, hx, q, hq, p, hp, h⟩
      · exact ⟨p, hp, x, hx, q, hq, h⟩
  cases o with
  | lt => exact hless
  | eq => exact absurd rfl ho
  | gt =>
    rw [← hless]
    constructor
    · rintro ⟨a, ha, b, hb, c, hc, h⟩
      exact ⟨c, hc, b, hb, a, ha, (detour_swap (o := .lt)).1 h⟩
    · rintro ⟨a, ha, b, hb, c, hc, h⟩
      exact ⟨c, hc, b, hb, a, ha, (detour_swap (o := .lt)).2 h⟩

end Cell

end RowAudit
