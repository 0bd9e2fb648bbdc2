import RowAudit.Proofs.Number.Rounding

/-!
# The shortest decimal is rounded to its number

A hit on a grid lies in the interval that was asked for, and there is a hit on a grid that is finer
than the interval (`Interval.search_isSome`). The last of the nineteen grids is fine enough for
every double, so that the search never fails and its decimal is rounded to the number
(`shortest_roundsTo`).
-/

namespace RowAudit.Number

/-- The value of a decimal. -/
def Decimal.value (d : Decimal) : ℚ := d.digits * 10 ^ d.exponent

namespace Interval

variable {i : Interval} {x : ℚ} {tie : Tie} {unit : ℕ} {exponent : ℤ}

/-- The test of whether a point lies in an interval says so. -/
theorem has_iff {n : ℕ} : i.has n = true ↔ i.Holds n := by
  unfold has Holds
  split <;> simp

/-- A point lies in a scaled interval if the scaled point lies in the interval. -/
theorem scale_holds {k : ℕ} (hk : 0 < k) : (i.scale k).Holds x ↔ i.Holds (x / k) := by
  have hk : (0 : ℚ) < k := by exact_mod_cast hk
  unfold Holds scale
  dsimp only
  rw [Nat.cast_mul, Nat.cast_mul, le_div_iff₀ hk, div_le_iff₀ hk, lt_div_iff₀ hk, div_lt_iff₀ hk]

/-- A hit is a multiple of the step in the interval. -/
theorem has_of_hit? {step c : ℕ} (h : i.hit? tie step = some c) : i.has (c * step) = true := by
  unfold hit? at h
  dsimp only at h
  split at h
  · next hdown hup =>
    split at h
    · cases h; exact hdown
    · split at h
      · cases h; exact hup
      · split at h
        · cases h; exact hup
        · split at h <;> cases h <;> assumption
  · next hdown _ => cases h; exact hdown
  · next _ hup => cases h; exact hup
  · cases h

/-- There is a hit if the step fits between the middle and the upper end. -/
theorem hit?_isSome {step : ℕ} (hstep : 0 < step) (hlow : i.low ≤ i.middle)
    (hhigh : i.middle + step < i.high) : (i.hit? tie step).isSome = true := by
  have hdiv := Nat.div_add_mod i.middle step
  have hmod := Nat.mod_lt i.middle hstep
  have hup : i.has ((i.middle / step + 1) * step) = true := by
    have : (i.middle / step + 1) * step = step * (i.middle / step) + step := by ring
    rw [has]
    split <;> simp only [Bool.and_eq_true, decide_eq_true_eq] <;> omega
  unfold hit?
  dsimp only
  rw [hup]
  split
  · split
    · rfl
    · split
      · rfl
      · split <;> rfl
  · next h => cases h
  · rfl
  · next h => cases h

/-- The hit on the grid `10 ^ exponent`. -/
def hitAt? (i : Interval) (unit : ℕ) (tie : Tie) (exponent : ℤ) : Option ℕ :=
  if 0 ≤ exponent then i.hit? tie (Nat.pow 10 exponent.toNat * unit)
  else (i.scale (Nat.pow 10 (-exponent).toNat)).hit? tie unit

/-- A search looks at one grid, and then at the finer ones. -/
theorem search_succ {grids : ℕ} : i.search unit tie exponent (grids + 1) =
    match i.hitAt? unit tie exponent with
    | some c => some ⟨c, exponent⟩
    | none => i.search unit tie (exponent - 1) grids := rfl

/-- A hit lies in the interval. -/
theorem holds_of_hitAt? {c : ℕ} (h : i.hitAt? unit tie exponent = some c) :
    i.Holds (Decimal.value ⟨c, exponent⟩ * unit) := by
  unfold hitAt? at h
  split at h
  · next hexponent =>
    have hholds := has_iff.1 (has_of_hit? h)
    rw [Nat.cast_mul, Nat.cast_mul, cast_pow_toNat 10 hexponent, ← mul_assoc] at hholds
    exact hholds
  · next hexponent =>
    have hpos : 0 < Nat.pow 10 (-exponent).toNat := Nat.pow_pos (by decide)
    have hholds := (scale_holds hpos).1 (has_iff.1 (has_of_hit? h))
    rw [Nat.cast_mul, cast_pow_toNat 10 (by omega), zpow_neg, div_inv_eq_mul, mul_right_comm]
      at hholds
    exact hholds

/-- A grid that is finer than the interval has a hit. -/
theorem hitAt?_isSome (hunit : 0 < unit) (hlow : i.low ≤ i.middle)
    (hhigh : i.middle + 10 ^ exponent * unit < (i.high : ℚ)) :
    (i.hitAt? unit tie exponent).isSome = true := by
  unfold hitAt?
  split
  · next hexponent =>
    have hpos : 0 < Nat.pow 10 exponent.toNat := Nat.pow_pos (by decide)
    refine hit?_isSome (Nat.mul_pos hpos hunit) hlow ?_
    have hcast : ((i.middle + Nat.pow 10 exponent.toNat * unit : ℕ) : ℚ) < i.high := by
      rw [Nat.cast_add, Nat.cast_mul, cast_pow_toNat 10 hexponent]
      exact hhigh
    exact_mod_cast hcast
  · next hexponent =>
    have hpos : 0 < Nat.pow 10 (-exponent).toNat := Nat.pow_pos (by decide)
    have hpower : (10 : ℚ) ^ exponent * Nat.pow 10 (-exponent).toNat = 1 := by
      rw [cast_pow_toNat 10 (by omega), Nat.cast_ofNat, ← zpow_add₀ (by norm_num), add_neg_cancel,
        zpow_zero]
    refine hit?_isSome hunit (Nat.mul_le_mul_right _ hlow) ?_
    have hcast : ((i.middle * Nat.pow 10 (-exponent).toNat + unit : ℕ) : ℚ) <
        (i.high * Nat.pow 10 (-exponent).toNat : ℕ) := by
      have hpos : (0 : ℚ) < Nat.pow 10 (-exponent).toNat := by exact_mod_cast hpos
      rw [Nat.cast_add, Nat.cast_mul, Nat.cast_mul]
      calc (i.middle * Nat.pow 10 (-exponent).toNat + unit : ℚ)
          = i.middle * Nat.pow 10 (-exponent).toNat +
              10 ^ exponent * Nat.pow 10 (-exponent).toNat * unit := by rw [hpower, one_mul]
        _ = (i.middle + 10 ^ exponent * unit) * Nat.pow 10 (-exponent).toNat := by ring
        _ < i.high * Nat.pow 10 (-exponent).toNat := by gcongr
    exact_mod_cast hcast

/-- What a search finds lies in the interval. -/
theorem holds_of_search {d : Decimal} {grids : ℕ} (h : i.search unit tie exponent grids = some d) :
    i.Holds (d.value * unit) := by
  induction grids generalizing exponent with
  | zero => cases h
  | succ grids ih =>
    rw [search_succ] at h
    split at h
    · next hc => cases h; exact holds_of_hitAt? hc
    · exact ih h

/-- The search succeeds if the last grid is fine enough. -/
theorem search_isSome (hunit : 0 < unit) (hlow : i.low ≤ i.middle) (grids : ℕ)
    (hhigh : i.middle + 10 ^ (exponent - grids) * unit < (i.high : ℚ)) :
    (i.search unit tie exponent (grids + 1)).isSome = true := by
  induction grids generalizing exponent with
  | zero =>
    rw [Nat.cast_zero, sub_zero] at hhigh
    obtain ⟨c, hc⟩ := Option.isSome_iff_exists.1 (hitAt?_isSome hunit hlow hhigh)
    rw [search_succ, hc]
    rfl
  | succ grids ih =>
    rw [search_succ]
    split
    · rfl
    · refine ih ?_
      convert hhigh using 4
      push_cast
      omega

end Interval

/-! ## Doubles -/

/-- Zeros at the end can be stripped without changing the value. -/
theorem strip_value (d : Decimal) (fuel : ℕ) : (d.strip fuel).value = d.value := by
  induction fuel generalizing d with
  | zero => rfl
  | succ fuel ih =>
    unfold Decimal.strip
    split
    · next h =>
      have hdigits : (d.digits : ℚ) = (d.digits / 10 : ℕ) * 10 := by
        exact_mod_cast (Nat.div_mul_cancel (Nat.dvd_of_mod_eq_zero h.2)).symm
      rw [ih, Decimal.value, Decimal.value, hdigits, zpow_add_one₀ (by norm_num)]
      ring
    · rfl

section
variable {x : Float}

/-- The interval of a number is that of its mantissa and its exponent. -/
theorem interval_eq (x : Float) : interval x = nearby (exact x).mantissa (exact x).exponent := by
  have hfraction := fractionBits_lt x
  have hpow : Nat.pow 2 52 = 2 ^ 52 := rfl
  have hbelow : (fractionBits x == 0 && exponentBits x > 1) = true ↔
      (exact x).mantissa = 2 ^ 52 ∧ -1074 < (exact x).exponent := by
    rw [exact]
    split <;> simp only [Bool.and_eq_true, beq_iff_eq, decide_eq_true_eq] at * <;> omega
  rw [interval, nearby]
  congr 2
  exact if_congr hbelow rfl rfl

/-- Nineteen grids below its first digit the grid is finer than the interval of a number. The first
digit is estimated from the bits of the number, for all the numbers of bits that there are. -/
theorem ten_pow_lt : ∀ k : ℕ, k < 2098 →
    let top : ℤ := (k : ℤ) - 1074
    let last : ℤ := Int.fdiv (top * 30103) 100000 - 17
    10 ^ last.toNat * 2 ^ (53 - top).toNat < 10 ^ (-last).toNat * 2 ^ (top - 53).toNat := by
  decide +kernel

/-- The last grid is finer than the interval. -/
theorem ten_zpow_lt (hx : isFinite x = true) (hz : isZero x = false) :
    (10 : ℚ) ^ (leadingExponent x - 18) < 2 * 2 ^ ((exact x).exponent - 2) := by
  have hc := canonical_exact hx hz
  have hlog : (exact x).mantissa.log2 ≤ 52 := Nat.lt_succ_iff.1 ((Nat.log2_lt hc.pos.ne').2 hc.lt)
  have hle := hc.le_exponent
  have hge := hc.exponent_le
  have hgrid := ten_pow_lt ((exact x).mantissa.log2 + (exact x).exponent + 1074).toNat (by omega)
  have htop : (((exact x).mantissa.log2 + (exact x).exponent + 1074).toNat : ℤ) - 1074 =
      (exact x).mantissa.log2 + (exact x).exponent := by omega
  rw [htop] at hgrid
  dsimp only at hgrid
  have hlast : leadingExponent x - 18 =
      Int.fdiv (((exact x).mantissa.log2 + (exact x).exponent) * 30103) 100000 - 17 := by
    rw [leadingExponent]
    omega
  rw [hlast]
  generalize Int.fdiv (((exact x).mantissa.log2 + (exact x).exponent) * 30103) 100000 - 17 =
    last at hgrid
  generalize htop : ((exact x).mantissa.log2 + (exact x).exponent : ℤ) = top at hgrid
  have hsplit (b : ℕ) (hb : 0 < b) (k : ℤ) : (b : ℚ) ^ k * b ^ (-k).toNat = b ^ k.toNat := by
    have hb : (b : ℚ) ≠ 0 := by exact_mod_cast hb.ne'
    rw [← zpow_natCast, ← zpow_natCast, ← zpow_add₀ hb]
    congr 1
    omega
  have hgrid :
      (10 : ℚ) ^ last.toNat * 2 ^ (53 - top).toNat < 10 ^ (-last).toNat * 2 ^ (top - 53).toNat := by
    exact_mod_cast hgrid
  have hneg : 53 - top = -(top - 53) := by ring
  have hten := hsplit 10 (by decide) last
  have htwo := hsplit 2 (by decide) (top - 53)
  push_cast at hten htwo
  rw [← hten, ← htwo, hneg] at hgrid
  have hlt : (10 : ℚ) ^ last < 2 ^ (top - 53) := by
    have hpos : (0 : ℚ) < 10 ^ (-last).toNat * 2 ^ (-(top - 53)).toNat := by positivity
    refine lt_of_mul_lt_mul_right ?_ hpos.le
    linarith
  calc (10 : ℚ) ^ last < 2 ^ (top - 53) := hlt
    _ ≤ 2 ^ (1 + ((exact x).exponent - 2)) := zpow_le_zpow_right₀ one_le_two (by omega)
    _ = 2 * 2 ^ ((exact x).exponent - 2) := by rw [zpow_add₀ two_ne_zero, zpow_one]

/-- The search for the shortest decimal of a number finds one in its interval. -/
theorem exists_search {i : Interval} {q exponent : ℤ} {tie : Tie} (hlow : i.low ≤ i.middle)
    (hhigh : i.high = i.middle + 2) (hfine : (10 : ℚ) ^ (exponent - 18) < 2 * 2 ^ q) :
    ∃ d : Decimal, (if 0 ≤ q then (i.scale (Nat.pow 2 q.toNat)).search 1 tie exponent 19
        else i.search (Nat.pow 2 (-q).toNat) tie exponent 19) = some d ∧
      i.Holds (d.value / 2 ^ q) := by
  split
  · next hq =>
    have hpos : 0 < Nat.pow 2 q.toNat := Nat.pow_pos (by decide)
    have hfits : ((i.scale (Nat.pow 2 q.toNat)).middle : ℚ) + 10 ^ (exponent - (18 : ℕ)) * (1 : ℕ) <
        (i.scale (Nat.pow 2 q.toNat)).high := by
      rw [Interval.scale]
      dsimp only
      rw [hhigh, Nat.cast_mul, Nat.cast_mul, cast_pow_toNat 2 hq]
      push_cast
      linarith
    obtain ⟨d, hd⟩ := Option.isSome_iff_exists.1
      (Interval.search_isSome one_pos (Nat.mul_le_mul_right _ hlow) 18 hfits)
    have hholds := (Interval.scale_holds hpos).1 (Interval.holds_of_search hd)
    rw [Nat.cast_one, mul_one, cast_pow_toNat 2 hq] at hholds
    exact ⟨d, hd, hholds⟩
  · next hq =>
    have hpos : 0 < Nat.pow 2 (-q).toNat := Nat.pow_pos (by decide)
    have hunit : ((Nat.pow 2 (-q).toNat : ℕ) : ℚ) = (2 ^ q)⁻¹ := by
      rw [cast_pow_toNat 2 (by omega), zpow_neg]
      rfl
    have hfits :
        (i.middle : ℚ) + 10 ^ (exponent - (18 : ℕ)) * (Nat.pow 2 (-q).toNat : ℕ) < i.high := by
      have : (10 : ℚ) ^ (exponent - 18) * (2 ^ q)⁻¹ < 2 := by
        rwa [← div_eq_mul_inv, div_lt_iff₀ (by positivity)]
      rw [hunit, hhigh]
      push_cast
      linarith
    obtain ⟨d, hd⟩ := Option.isSome_iff_exists.1
      (Interval.search_isSome hpos hlow 18 hfits)
    have hholds := Interval.holds_of_search hd
    rw [hunit, ← div_eq_mul_inv] at hholds
    exact ⟨d, hd, hholds⟩

/-- The shortest decimal of a number is rounded to it. -/
theorem shortest_roundsTo (hx : isFinite x = true) (hz : isZero x = false) (tie : Tie) :
    RoundsTo (exact x).mantissa (exact x).exponent (shortest tie x).value := by
  obtain ⟨d, hd, hholds⟩ := exists_search (i := interval x) (Nat.sub_le _ _) rfl
    (ten_zpow_lt hx hz)
  have hshortest : shortest tie x = d.strip 20 := by
    rw [shortest, hd]
  rw [RoundsTo, ← interval_eq, hshortest, strip_value]
  exact hholds

end

end RowAudit.Number
