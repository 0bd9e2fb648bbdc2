import RowAudit.Number.Shortest
import RowAudit.Proofs.Number.Bits

/-!
# Rounding

A double is the result of rounding exactly the values in its interval (`RoundsTo`). Rounding is done
on a mantissa with two more bits, which stand for a value (`Stands`): bits are dropped, the mantissa
is rounded, and if that makes it a bit longer one more bit is dropped (`roundWithAccuracy_eq`).
-/

namespace RowAudit.Number

open Float.Model Float.Model.UnpackedFloat

/-- A power with a natural exponent. -/
theorem cast_pow_toNat (b : ℕ) {k : ℤ} (hk : 0 ≤ k) :
    ((Nat.pow b k.toNat : ℕ) : ℚ) = (b : ℚ) ^ k := by
  have hcast : ((Nat.pow b k.toNat : ℕ) : ℚ) = (b : ℚ) ^ k.toNat := Nat.cast_pow b k.toNat
  rw [hcast, ← zpow_natCast, Int.toNat_of_nonneg hk]

/-- The value that a mantissa with two more bits stands for: its integral part is the mantissa, and
the bits say how the rest compares with zero and with a half. -/
def Stands : ExtendedMantissa → ℚ → Prop
  | ⟨m, false, false⟩, x => x = m
  | ⟨m, false, true⟩, x => (m : ℚ) < x ∧ x < m + 1 / 2
  | ⟨m, true, false⟩, x => x = m + 1 / 2
  | ⟨m, true, true⟩, x => (m : ℚ) + 1 / 2 < x ∧ x < m + 1

namespace Stands

variable {em : ExtendedMantissa} {x : ℚ}

/-- The mantissa is the integral part. -/
theorem bounds (h : Stands em x) : (em.mantissa : ℚ) ≤ x ∧ x < em.mantissa + 1 := by
  obtain ⟨m, _ | _, _ | _⟩ := em <;> simp only [Stands] at h <;> constructor <;> dsimp only <;>
    linarith

/-- Dropping a bit halves the value. -/
theorem shiftRightOne (h : Stands em x) : Stands em.shiftRightOne (x / 2) := by
  have hdiv : (em.mantissa : ℚ) = 2 * (em.mantissa / 2 : ℕ) + (em.mantissa % 2 : ℕ) := by
    exact_mod_cast (Nat.div_add_mod em.mantissa 2).symm
  obtain ⟨m, round, sticky⟩ := em
  rcases Nat.mod_two_eq_zero_or_one m with hmod | hmod <;> rw [hmod] at hdiv <;>
    cases round <;> cases sticky <;> simp only [Stands] at h <;>
    simp only [ExtendedMantissa.shiftRightOne, hmod] <;> push_cast at hdiv <;>
    first
      | show _ = _; linarith
      | constructor <;> linarith

/-- Dropping bits divides the value by a power of two. -/
theorem shiftRight (h : Stands em x) (n : ℕ) : Stands (em >>> n) (x / 2 ^ n) := by
  induction n with
  | zero =>
    rw [pow_zero, div_one]
    exact h
  | succ n ih =>
    rw [pow_succ, ← div_div]
    exact ih.shiftRightOne

/-- Of the integers next to the value the nearer one is taken, or the even one. -/
theorem roundedMantissa_eq (h : Stands em x) {n : ℕ} (hlow : (n : ℚ) - 1 / 2 ≤ x)
    (hhigh : x ≤ n + 1 / 2) (heven : x = n - 1 / 2 ∨ x = n + 1 / 2 → n % 2 = 0) :
    em.roundedMantissa = n := by
  -- Integers that are less than one apart are compared as such.
  have hcast {a b : ℕ} (h : (a : ℚ) < b + 1) : a ≤ b := Nat.lt_succ_iff.1 (by exact_mod_cast h)
  obtain ⟨m, _ | _, _ | _⟩ := em <;> simp only [Stands] at h
  · have hmn : m ≤ n := hcast (by linarith)
    have hnm : n ≤ m := hcast (by linarith)
    exact le_antisymm hmn hnm
  · have hmn : m ≤ n := hcast (by linarith)
    have hnm : n ≤ m := hcast (by linarith)
    exact le_antisymm hmn hnm
  · have hmn : m ≤ n := hcast (by linarith)
    have hnm : n ≤ m + 1 := hcast (by push_cast; linarith)
    show m + m % 2 = n
    rcases Nat.eq_or_lt_of_le hmn with rfl | hlt
    · have := heven (.inr h)
      omega
    · obtain rfl : n = m + 1 := by omega
      have := heven (.inl (by rw [h]; push_cast; linarith))
      omega
  · have hmn : m + 1 ≤ n := hcast (by push_cast; linarith)
    have hnm : n ≤ m + 1 := hcast (by push_cast; linarith)
    exact le_antisymm hmn hnm

end Stands

/-! ## Accuracies -/

section
variable {m num den : ℕ} {accuracy : Accuracy}

/-- A mantissa is kept beside the bits for its accuracy. -/
theorem mantissa_ofMantissaAndAccuracy :
    (ExtendedMantissa.ofMantissaAndAccuracy m accuracy).mantissa = m := by
  rcases accuracy with _ | (_ | _ | _) <;> rfl

/-- An exact mantissa stands for itself. -/
theorem stands_exact {x : ℚ} (h : x = m) : Stands (.ofMantissaAndAccuracy m .exact) x := h

/-- The accuracy of a fraction says where it lies. -/
theorem stands_fraction (h : num < den) :
    Stands (.ofMantissaAndAccuracy m (accuracyOfFraction num den)) (m + num / den) := by
  have hden : (0 : ℚ) < den := by exact_mod_cast Nat.zero_lt_of_lt h
  unfold accuracyOfFraction
  split
  · next hzero =>
    show (m : ℚ) + num / den = m
    rw [hzero, Nat.cast_zero, zero_div, add_zero]
  · next hzero =>
    have hpos : 0 < (num : ℚ) / den := div_pos (by exact_mod_cast Nat.pos_of_ne_zero hzero) hden
    have hlt : (num : ℚ) / den < 1 := (div_lt_one hden).2 (by exact_mod_cast h)
    cases hcmp : compare (2 * num) den with
    | lt =>
      have hhalf : (num : ℚ) / den < 1 / 2 := by
        rw [div_lt_div_iff₀ hden two_pos]
        have := compare_lt_iff_lt.1 hcmp
        exact_mod_cast (by omega : num * 2 < 1 * den)
      exact ⟨by linarith, by linarith⟩
    | eq =>
      have hhalf : (num : ℚ) / den = 1 / 2 := by
        rw [div_eq_div_iff hden.ne' two_ne_zero]
        have := compare_eq_iff_eq.1 hcmp
        exact_mod_cast (by omega : num * 2 = 1 * den)
      show (m : ℚ) + num / den = m + 1 / 2
      rw [hhalf]
    | gt =>
      have hhalf : 1 / 2 < (num : ℚ) / den := by
        rw [div_lt_div_iff₀ two_pos hden]
        have := compare_gt_iff_gt.1 hcmp
        exact_mod_cast (by omega : 1 * den < num * 2)
      exact ⟨by linarith, by linarith⟩

end

/-! ## Rounding -/

/-- A point lies in an interval. -/
def Interval.Holds (i : Interval) (x : ℚ) : Prop :=
  if i.closed then (i.low : ℚ) ≤ x ∧ x ≤ i.high else (i.low : ℚ) < x ∧ x < i.high

/-- The interval of a positive double in units of `2 ^ (e - 2)`. -/
def nearby (m : ℕ) (e : ℤ) : Interval :=
  ⟨4 * m - (if m = 2 ^ 52 ∧ -1074 < e then 1 else 2), 4 * m, 4 * m + 2, m % 2 == 0⟩

/-- A value that is rounded to a double lies in its interval. -/
def RoundsTo (m : ℕ) (e : ℤ) (r : ℚ) : Prop := (nearby m e).Holds (r / 2 ^ (e - 2))

section
variable {m : ℕ} {e : ℤ} {r : ℚ}

/-- A point of an interval lies between its ends, and is one of them only if it is closed. -/
theorem Interval.Holds.bounds {i : Interval} {x : ℚ} (h : i.Holds x) :
    (i.low : ℚ) ≤ x ∧ x ≤ i.high ∧ (x = i.low ∨ x = i.high → i.closed = true) := by
  unfold Interval.Holds at h
  split at h
  · next hclosed => exact ⟨h.1, h.2, fun _ => hclosed⟩
  · exact ⟨h.1.le, h.2.le, fun heq => by rcases heq with heq | heq <;> linarith [h.1, h.2]⟩

/-- A value that is rounded to a double is at most half a unit away from it, and half a unit only if
the mantissa is even. Below a power of two it is at most a quarter of a unit. -/
theorem RoundsTo.bounds (hc : Canonical m e) (h : RoundsTo m e r) :
    (m : ℚ) - 1 / 2 ≤ r / 2 ^ e ∧ r / 2 ^ e ≤ m + 1 / 2 ∧
      (r / 2 ^ e = m - 1 / 2 ∨ r / 2 ^ e = m + 1 / 2 → m % 2 = 0) ∧
      (m = 2 ^ 52 ∧ -1074 < e → (m : ℚ) - 1 / 4 ≤ r / 2 ^ e) := by
  have hquarters : r / 2 ^ (e - 2) = 4 * (r / 2 ^ e) := by
    rw [zpow_sub₀ two_ne_zero, div_div_eq_mul_div, mul_div_right_comm, mul_comm]
    norm_num
  rw [RoundsTo, hquarters] at h
  obtain ⟨hlow, hhigh, hends⟩ := h.bounds
  have hpos := hc.pos
  have hhigh_eq : ((nearby m e).high : ℚ) = 4 * m + 2 := by
    rw [nearby]
    push_cast
    rfl
  have heven : (nearby m e).closed = true → m % 2 = 0 := by
    rw [nearby, beq_iff_eq]
    exact id
  rw [hhigh_eq] at hhigh hends
  by_cases hbelow : m = 2 ^ 52 ∧ -1074 < e
  · have hlow_eq : ((nearby m e).low : ℚ) = 4 * m - 1 := by
      rw [nearby, if_pos hbelow, Nat.cast_sub (by omega)]
      push_cast
      rfl
    rw [hlow_eq] at hlow
    refine ⟨by linarith, by linarith, fun _ => ?_, fun _ => by linarith⟩
    rw [hbelow.1]
    rfl
  · have hlow_eq : ((nearby m e).low : ℚ) = 4 * m - 2 := by
      rw [nearby, if_neg hbelow, Nat.cast_sub (by omega)]
      push_cast
      rfl
    rw [hlow_eq] at hlow hends
    refine ⟨by linarith, by linarith, fun htie => heven (hends ?_), fun h => absurd h hbelow⟩
    rcases htie with htie | htie
    · exact .inl (by linarith)
    · exact .inr (by linarith)

end

/-- The exponent of the doubles with a number of bits before the point. -/
theorem targetExponent_eq (t : ℤ) : Format.binary64.targetExponent t = max (t - 53) (-1074) := by
  have hmin : Format.binary64.minExponent = -1074 := by decide
  rw [Format.targetExponent, hmin]
  rfl

/-- The exponent to which a value is rounded that stands in units of `2 ^ e`. -/
theorem targetExponent_totalExponent (m : ℕ) (e : ℤ) :
    Format.binary64.targetExponent (totalExponent m e) = max (m.log2 + e - 52) (-1074) := by
  rw [targetExponent_eq, totalExponent]
  omega

/-- A mantissa that fits is not shifted. -/
theorem shiftToTargetExponent_of_lt {m : ℕ} {e : ℤ} (hm : m < 2 ^ 53) (he : -1074 ≤ e) :
    shiftToTargetExponent Format.binary64 m e .exact = (⟨m, false, false⟩, e) := by
  have hlog : m.log2 ≤ 52 := by
    rcases Nat.eq_zero_or_pos m with rfl | hpos
    · decide
    · exact Nat.lt_succ_iff.1 ((Nat.log2_lt hpos.ne').2 hm)
  have htarget : (Format.binary64.targetExponent (totalExponent m e) - e).toNat = 0 := by
    rw [targetExponent_totalExponent]
    omega
  rw [shiftToTargetExponent, shiftToExponent, htarget, Nat.cast_zero, add_zero]
  rfl

/-- A mantissa that is one bit too long is shifted by one. -/
theorem shiftToTargetExponent_two_pow {e : ℤ} (he : -1074 ≤ e) :
    shiftToTargetExponent Format.binary64 (2 ^ 53) e .exact = (⟨2 ^ 52, false, false⟩, e + 1) := by
  have htarget : (Format.binary64.targetExponent (totalExponent (2 ^ 53) e) - e).toNat = 1 := by
    rw [targetExponent_totalExponent, Nat.log2_two_pow]
    omega
  rw [shiftToTargetExponent, shiftToExponent, htarget, Nat.cast_one]
  rfl

section
variable {m M : ℕ} {e E : ℤ} {r : ℚ}

/-- A value in units of `2 ^ E` is as large as its integral part says. -/
theorem lt_two_zpow_log2 (h : r / 2 ^ E < M + 1) : r < 2 ^ (M.log2 + 1 + E) := by
  have hM : (M : ℚ) + 1 ≤ 2 ^ (M.log2 + 1 : ℕ) := by exact_mod_cast Nat.lt_log2_self
  rw [div_lt_iff₀ (by positivity)] at h
  calc r < (M + 1) * 2 ^ E := h
    _ ≤ 2 ^ (M.log2 + 1 : ℕ) * 2 ^ E := by gcongr
    _ = 2 ^ (M.log2 + 1 + E) := by
      rw [← zpow_natCast, ← zpow_add₀ two_ne_zero]
      push_cast
      rfl

/-- A number is at least the power of two with the length of its mantissa. -/
theorem two_zpow_log2_le (h : (M : ℚ) ≤ r / 2 ^ E) (hM : M ≠ 0) : 2 ^ (M.log2 + E) ≤ r := by
  have hlog : (2 : ℚ) ^ M.log2 ≤ M := by exact_mod_cast Nat.log2_self_le hM
  rw [le_div_iff₀ (by positivity)] at h
  calc (2 : ℚ) ^ (M.log2 + E) = 2 ^ M.log2 * 2 ^ E := by
        rw [zpow_add₀ two_ne_zero, zpow_natCast]
    _ ≤ M * 2 ^ E := by gcongr
    _ ≤ r := h

/-- A value is brought to the exponent of the double that it is rounded to, or, right below a power
of two, to the one before it. -/
theorem target_cases (hc : Canonical m e) (hr : RoundsTo m e r) (hlow : (M : ℚ) ≤ r / 2 ^ E)
    (hhigh : r / 2 ^ E < M + 1) (hE : E ≤ -1074 ∨ 2 ^ (E + 52) ≤ r) :
    E ≤ max (M.log2 + E - 52) (-1074) ∧
      (max (M.log2 + E - 52) (-1074) = e ∨
        max (M.log2 + E - 52) (-1074) = e - 1 ∧ m = 2 ^ 52 ∧ -1074 < e ∧ r < 2 ^ (e + 52)) := by
  have htwo : (1 : ℚ) < 2 := one_lt_two
  obtain ⟨hbelow, habove, -, hquarter⟩ := hr.bounds hc
  have hcmp := lt_two_zpow_log2 hhigh
  have hmlt : (m : ℚ) + 1 ≤ 2 ^ 53 := by exact_mod_cast hc.lt
  have hle := hc.le_exponent
  -- The value has at most as many bits before the last one as the double.
  have hup : r < 2 ^ (e + 53) := by
    rw [zpow_add₀ two_ne_zero, ← div_lt_iff₀' (by positivity)]
    have : (2 : ℚ) ^ (53 : ℤ) = 2 ^ 53 := rfl
    linarith
  have hET : E ≤ max (M.log2 + E - 52) (-1074) := by
    rcases hE with hE | hE
    · omega
    · have := (zpow_lt_zpow_iff_right₀ htwo).1 (hE.trans_lt hcmp)
      omega
  have hTe : max (M.log2 + E - 52) (-1074) ≤ e := by
    have : M.log2 + E - 52 ≤ e := by
      by_cases hM : M = 0
      · subst hM
        rcases hE with hE | hE
        · simp; omega
        · have := (zpow_lt_zpow_iff_right₀ htwo).1 (hE.trans_lt hup)
          simp; omega
      · have := (zpow_lt_zpow_iff_right₀ htwo).1 ((two_zpow_log2_le hlow hM).trans_lt hup)
        omega
    omega
  refine ⟨hET, ?_⟩
  rcases hc.normal with hm | he
  swap
  · exact .inl (by omega)
  by_cases he : e = -1074
  · exact .inl (by omega)
  have hmle : (2 : ℚ) ^ 52 ≤ m := by exact_mod_cast hm
  -- And it has at least as many, or one less right below a power of two.
  have hdown : 2 ^ (e + 51) < r := by
    rw [zpow_add₀ two_ne_zero, ← lt_div_iff₀' (by positivity)]
    have : (2 : ℚ) ^ (51 : ℤ) = 2 ^ 51 := rfl
    linarith
  have hlog := (zpow_lt_zpow_iff_right₀ htwo).1 (hdown.trans hcmp)
  by_cases heq : max (M.log2 + E - 52) (-1074) = e
  · exact .inl heq
  · have hr' : r < 2 ^ (e + 52) := by
      refine hcmp.trans_le (zpow_le_zpow_right₀ htwo.le ?_)
      omega
    refine .inr ⟨by omega, ?_, by omega, hr'⟩
    by_contra hne
    have hmlt : (2 : ℚ) ^ 52 + 1 ≤ m := by exact_mod_cast (by omega : 2 ^ 52 + 1 ≤ m)
    rw [zpow_add₀ two_ne_zero, ← div_lt_iff₀' (by positivity)] at hr'
    have : (2 : ℚ) ^ (52 : ℤ) = 2 ^ 52 := rfl
    linarith

/-- A value given by its integral part and its accuracy is rounded to the double in whose interval
it lies. -/
theorem roundWithAccuracy_eq {accuracy : Accuracy} (hc : Canonical m e) (hr : RoundsTo m e r)
    (hs : Stands (.ofMantissaAndAccuracy M accuracy) (r / 2 ^ E))
    (hE : E ≤ -1074 ∨ 2 ^ (E + 52) ≤ r) (sign : Sign) :
    roundWithAccuracy Format.binary64 sign M E accuracy = .finite sign m e hc.pos := by
  have hbounds := hs.bounds
  rw [mantissa_ofMantissaAndAccuracy] at hbounds
  obtain ⟨hET, hT⟩ := target_cases hc hr hbounds.1 hbounds.2 hE
  obtain ⟨hlow, hhigh, heven, hquarter⟩ := hr.bounds hc
  have htarget := targetExponent_totalExponent M E
  generalize max (M.log2 + E - 52) (-1074) = T at hET hT htarget
  have hshift : shiftToTargetExponent Format.binary64 M E accuracy =
      (ExtendedMantissa.ofMantissaAndAccuracy M accuracy >>> (T - E).toNat, T) := by
    rw [shiftToTargetExponent, htarget, shiftToExponent]
    congr 1
    omega
  have hstands := hs.shiftRight (T - E).toNat
  have hvalue : r / 2 ^ E / 2 ^ (T - E).toNat = r / 2 ^ T := by
    rw [div_div, ← zpow_natCast, ← zpow_add₀ two_ne_zero]
    congr 2
    omega
  rw [hvalue] at hstands
  rw [roundWithAccuracy, hshift]
  dsimp only
  rcases hT with rfl | ⟨rfl, rfl, he, hlt⟩
  · rw [hstands.roundedMantissa_eq hlow hhigh heven,
      shiftToTargetExponent_of_lt hc.lt hc.le_exponent]
    exact dif_neg hc.pos.ne'
  · -- In finer units the value lies half a unit or less below a power of two, and is rounded up.
    have hfiner : r / 2 ^ (e - 1) = 2 * (r / 2 ^ e) := by
      rw [zpow_sub_one₀ two_ne_zero, ← div_eq_mul_inv, div_div_eq_mul_div, mul_div_right_comm,
        mul_comm]
    have hquarter := hquarter ⟨rfl, he⟩
    have hcarry : r / 2 ^ (e - 1) < 2 ^ 53 := by
      rw [div_lt_iff₀ (by positivity), ← zpow_natCast, ← zpow_add₀ two_ne_zero]
      refine hlt.trans_eq (congrArg _ ?_)
      omega
    have hrounded := hstands.roundedMantissa_eq (n := 2 ^ 53) (by push_cast at hquarter ⊢; linarith)
      (by push_cast; linarith) fun _ => by decide
    rw [hrounded, shiftToTargetExponent_two_pow (by omega)]
    dsimp only
    rw [dif_neg (by decide), sub_add_cancel]

end

end RowAudit.Number
