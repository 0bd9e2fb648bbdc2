import RowAudit.Number.Reader
import RowAudit.Proofs.Number.Rounding

/-!
# Decimals are read as the nearest number

A decimal `mantissa · 10 ^ exponent` in the interval of a double is read as this double
(`ofScientific_eq`). Reading goes one of two ways: small decimals are a product or a quotient of two
doubles that stand for a mantissa and a power of ten exactly, other ones are a product or a quotient
of integers. Either is rounded once.
-/

namespace RowAudit.Number

open Float.Model Float.Model.UnpackedFloat

section
variable {m : ℕ} {e : ℤ} {r : ℚ}

/-- The double with a mantissa and an exponent. -/
def ofCanonical (hc : Canonical m e) : Float := .ofModel (.pack (.finite .positive m e hc.pos))

/-! ## Products and quotients -/

section
variable {m₁ m₂ : ℕ} {e₁ e₂ : ℤ} {h₁ : 0 < m₁} {h₂ : 0 < m₂}

/-- A product with enough digits is rounded once. -/
theorem mul_eq (hc : Canonical m e) (hr : RoundsTo m e (m₁ * 2 ^ e₁ * (m₂ * 2 ^ e₂)))
    (hdigits : 2 ^ (e₁ + e₂ + 52) ≤ (m₁ * 2 ^ e₁ * (m₂ * 2 ^ e₂) : ℚ)) :
    UnpackedFloat.mul Format.binary64 (.finite .positive m₁ e₁ h₁) (.finite .positive m₂ e₂ h₂) =
      .finite .positive m e hc.pos := by
  have hvalue : (m₁ * 2 ^ e₁ * (m₂ * 2 ^ e₂) / 2 ^ (e₁ + e₂) : ℚ) = (m₁ * m₂ : ℕ) := by
    rw [zpow_add₀ two_ne_zero]
    field_simp
    push_cast
    rfl
  exact roundWithAccuracy_eq hc hr (stands_exact hvalue) (.inr hdigits) _

/-- The exponent with which a division goes on. -/
theorem exponent_divCore : (divCore Format.binary64 m₁ e₁ m₂ e₂).2.1 =
    min (e₁ - e₂) (max (totalExponent m₁ e₁ - totalExponent m₂ e₂ - 53) (-1074)) := by
  rw [divCore, targetExponent_eq]

/-- The integral part of a quotient, with its accuracy. -/
theorem stands_divCore (h₂ : 0 < m₂) :
    Stands (.ofMantissaAndAccuracy (divCore Format.binary64 m₁ e₁ m₂ e₂).1
        (divCore Format.binary64 m₁ e₁ m₂ e₂).2.2)
      (m₁ * 2 ^ e₁ / (m₂ * 2 ^ e₂) / 2 ^ (divCore Format.binary64 m₁ e₁ m₂ e₂).2.1) := by
  have hm₂ : (0 : ℚ) < m₂ := by exact_mod_cast h₂
  rw [divCore, targetExponent_eq]
  dsimp only
  generalize hT : min (e₁ - e₂) (max (totalExponent m₁ e₁ - totalExponent m₂ e₂ - 53) (-1074)) = T
  have hshift : ((m₁ <<< (e₁ - e₂ - T).toNat : ℕ) : ℚ) = m₁ * 2 ^ (e₁ - e₂ - T) := by
    have hk : ((e₁ - e₂ - T).toNat : ℤ) = e₁ - e₂ - T := Int.toNat_of_nonneg (by omega)
    rw [Nat.shiftLeft_eq, Nat.cast_mul, Nat.cast_pow, ← zpow_natCast, hk]
    rfl
  generalize m₁ <<< (e₁ - e₂ - T).toNat = n at hshift
  have hdivision : (n : ℚ) = m₂ * (n / m₂ : ℕ) + (n % m₂ : ℕ) := by
    exact_mod_cast (Nat.div_add_mod n m₂).symm
  have hvalue : (m₁ * 2 ^ e₁ / (m₂ * 2 ^ e₂) / 2 ^ T : ℚ) = (n / m₂ : ℕ) + (n % m₂ : ℕ) / m₂ :=
    calc (m₁ * 2 ^ e₁ / (m₂ * 2 ^ e₂) / 2 ^ T : ℚ) = m₁ * 2 ^ (e₁ - e₂ - T) / m₂ := by
          rw [zpow_sub₀ two_ne_zero, zpow_sub₀ two_ne_zero]
          field_simp
      _ = (m₂ * (n / m₂ : ℕ) + (n % m₂ : ℕ)) / m₂ := by rw [← hshift, ← hdivision]
      _ = (n / m₂ : ℕ) + (n % m₂ : ℕ) / m₂ := by field_simp
  exact hvalue ▸ stands_fraction (Nat.mod_lt n h₂)

/-- A quotient is rounded once. -/
theorem div_eq (hc : Canonical m e) (hr : RoundsTo m e (m₁ * 2 ^ e₁ / (m₂ * 2 ^ e₂))) :
    UnpackedFloat.div Format.binary64 (.finite .positive m₁ e₁ h₁) (.finite .positive m₂ e₂ h₂) =
      .finite .positive m e hc.pos := by
  refine roundWithAccuracy_eq hc hr (stands_divCore h₂) ?_ _
  rw [exponent_divCore]
  generalize hT : min (e₁ - e₂) (max (totalExponent m₁ e₁ - totalExponent m₂ e₂ - 53) (-1074)) = T
  by_cases hle : T ≤ -1074
  · exact .inl hle
  · have hT : T + 52 ≤ (m₁.log2 + e₁) - (m₂.log2 + 1 + e₂) := by
      rw [totalExponent, totalExponent] at hT
      omega
    have hlow : (2 : ℚ) ^ (m₁.log2 + e₁) ≤ m₁ * 2 ^ e₁ := by
      refine two_zpow_log2_le ?_ h₁.ne'
      rw [mul_div_cancel_right₀ _ (by positivity)]
    have hhigh : (m₂ * 2 ^ e₂ : ℚ) < 2 ^ (m₂.log2 + 1 + e₂) := by
      refine lt_two_zpow_log2 ?_
      rw [mul_div_cancel_right₀ _ (by positivity)]
      exact lt_add_one _
    right
    calc (2 : ℚ) ^ (T + 52) ≤ 2 ^ ((m₁.log2 + e₁) - (m₂.log2 + 1 + e₂)) :=
          zpow_le_zpow_right₀ one_le_two hT
      _ = 2 ^ (m₁.log2 + e₁) / 2 ^ (m₂.log2 + 1 + e₂) := zpow_sub₀ two_ne_zero _ _
      _ ≤ m₁ * 2 ^ e₁ / (m₂ * 2 ^ e₂) := div_le_div₀ (by positivity) hlow (by positivity) hhigh.le

end

/-! ## Decimals -/

/-- A value that is rounded to a double is neither too large nor too small for one. -/
theorem RoundsTo.range (hc : Canonical m e) (hr : RoundsTo m e r) :
    (2 : ℚ) ^ (-1075 : ℤ) ≤ r ∧ r < 2 ^ (1024 : ℤ) := by
  obtain ⟨hlow, hhigh, -, -⟩ := hr.bounds hc
  have hpos : (1 : ℚ) ≤ m := by exact_mod_cast hc.pos
  have hlt : (m : ℚ) + 1 ≤ 2 ^ 53 := by exact_mod_cast hc.lt
  have htwo : (0 : ℚ) < 2 ^ e := by positivity
  constructor
  · calc (2 : ℚ) ^ (-1075 : ℤ) ≤ 2 ^ (e - 1) :=
          zpow_le_zpow_right₀ one_le_two (by have := hc.le_exponent; omega)
      _ = 1 / 2 * 2 ^ e := by
        rw [zpow_sub_one₀ two_ne_zero]
        ring
      _ ≤ r := (le_div_iff₀ htwo).1 (by linarith)
  · calc r < 2 ^ 53 * 2 ^ e := (div_lt_iff₀ htwo).1 (by linarith)
      _ = 2 ^ (53 + e) := by
        rw [zpow_add₀ two_ne_zero]
        rfl
      _ ≤ 2 ^ (1024 : ℤ) := zpow_le_zpow_right₀ one_le_two (by have := hc.exponent_le; omega)

/-- A decimal with many digits, or with a large power of ten, is read as the nearest double. -/
theorem model_ofScientific_eq (hc : Canonical m e) {M : ℕ} {E : ℤ}
    (hr : RoundsTo m e (M * 10 ^ E)) :
    UnpackedFloat.ofScientific Format.binary64 M E = .finite .positive m e hc.pos := by
  obtain ⟨hlow, hhigh⟩ := hr.range hc
  have hM : M ≠ 0 := by
    rintro rfl
    rw [Nat.cast_zero, zero_mul] at hlow
    exact absurd hlow (not_le.2 (by positivity))
  have hM1 : (1 : ℚ) ≤ M := by exact_mod_cast Nat.one_le_iff_ne_zero.2 hM
  have hten (E : ℤ) : (10 : ℚ) ^ E = 5 ^ E * 2 ^ E := by
    rw [← mul_zpow]
    norm_num
  have hnot_large : ¬ E > 2 ^ Format.binary64.exponentBits := by
    intro h
    have hE : (2048 : ℤ) < E := h
    refine absurd hhigh (not_lt.2 ?_)
    calc (2 : ℚ) ^ (1024 : ℤ) ≤ 1 * (1 * 2 ^ E) := by
          rw [one_mul, one_mul]
          exact zpow_le_zpow_right₀ one_le_two (by omega)
      _ ≤ M * (5 ^ E * 2 ^ E) := by
        gcongr
        exact one_le_zpow₀ (by norm_num) (by omega)
      _ = M * 10 ^ E := by rw [hten]
  have hnot_small : ¬ E < -((2 ^ Format.binary64.exponentBits : Int) + M.log2) := by
    intro h
    have hE : E < -((2048 : ℤ) + M.log2) := h
    have hbits : (M : ℚ) < 2 ^ (M.log2 + 1 + 0 : ℤ) := by
      refine lt_two_zpow_log2 ?_
      rw [zpow_zero, div_one]
      exact lt_add_one _
    refine absurd hlow (not_le.2 ?_)
    calc (M * 10 ^ E : ℚ) = M * (5 ^ E * 2 ^ E) := by rw [hten]
      _ ≤ M * (1 * 2 ^ E) := by
        gcongr
        exact zpow_le_one_of_nonpos₀ (by norm_num) (by omega)
      _ < 2 ^ (M.log2 + 1 + 0 : ℤ) * 2 ^ E := by
        rw [one_mul]
        gcongr
      _ = 2 ^ (M.log2 + 1 + 0 + E) := (zpow_add₀ two_ne_zero _ _).symm
      _ ≤ 2 ^ (-1075 : ℤ) := zpow_le_zpow_right₀ one_le_two (by omega)
  rw [UnpackedFloat.ofScientific, dif_neg hM, if_neg hnot_large, if_neg hnot_small]
  split
  · next hE =>
    have hpower : ((10 ^ E.toNat : ℕ) : ℚ) = 10 ^ E := cast_pow_toNat 10 hE
    have hvalue : ((M <<< 53 : ℕ) * 2 ^ (-53 : ℤ) * ((10 ^ E.toNat : ℕ) * 2 ^ (0 : ℤ)) : ℚ) =
        M * 10 ^ E := by
      have hunit : ((2 ^ 53 : ℕ) : ℚ) * 2 ^ (-53 : ℤ) = 1 := by norm_num
      rw [hpower, Nat.shiftLeft_eq, Nat.cast_mul, mul_assoc (M : ℚ), hunit, mul_one, zpow_zero,
        mul_one]
    have hdigits : (2 : ℚ) ^ (-53 + 0 + 52 : ℤ) ≤
        (M <<< 53 : ℕ) * 2 ^ (-53 : ℤ) * ((10 ^ E.toNat : ℕ) * 2 ^ (0 : ℤ)) :=
      calc (2 : ℚ) ^ (-53 + 0 + 52 : ℤ) ≤ 1 * 1 := by norm_num
        _ ≤ M * 10 ^ E := by
          gcongr
          exact one_le_zpow₀ (by norm_num) hE
        _ = _ := hvalue.symm
    show UnpackedFloat.mul Format.binary64 (.finite .positive (M <<< 53) (-53) _)
      (.finite .positive (10 ^ E.toNat) 0 _) = _
    rw [← hvalue] at hr
    exact mul_eq hc hr hdigits
  · next hE =>
    have hpower : ((10 ^ (-E).toNat : ℕ) : ℚ) = (10 ^ E)⁻¹ :=
      (cast_pow_toNat 10 (by omega)).trans (zpow_neg 10 E)
    refine div_eq hc ?_
    rw [hpower, zpow_zero, mul_one, mul_one, div_inv_eq_mul]
    exact hr

/-! ## Small decimals -/

/-- A double is rounded to itself. -/
theorem roundsTo_self (hc : Canonical m e) : RoundsTo m e (m * 2 ^ e) := by
  have hquarters : (m * 2 ^ e / 2 ^ (e - 2) : ℚ) = (4 * m : ℕ) := by
    rw [zpow_sub₀ two_ne_zero]
    field_simp
    push_cast
    ring
  have hpos := hc.pos
  have hlow : (nearby m e).low < 4 * m := by
    show 4 * m - (if m = 2 ^ 52 ∧ -1074 < e then 1 else 2) < 4 * m
    split <;> omega
  have hhigh : 4 * m < (nearby m e).high := Nat.lt_add_of_pos_right two_pos
  rw [RoundsTo, hquarters, Interval.Holds]
  split
  · exact ⟨by exact_mod_cast hlow.le, by exact_mod_cast hhigh.le⟩
  · exact ⟨by exact_mod_cast hlow, by exact_mod_cast hhigh⟩

/-- A natural number with at most 53 bits is a double. -/
theorem exists_canonical {M : ℕ} (hM : 0 < M) (hlt : M < 2 ^ 53) :
    ∃ m e, Canonical m e ∧ (m * 2 ^ e : ℚ) = M ∧ 2 ^ 52 ≤ m := by
  have hlog : M.log2 ≤ 52 := Nat.lt_succ_iff.1 ((Nat.log2_lt hM.ne').2 hlt)
  have hlow : 2 ^ 52 ≤ M * 2 ^ (52 - M.log2) :=
    calc 2 ^ 52 = 2 ^ M.log2 * 2 ^ (52 - M.log2) := by rw [← pow_add, Nat.add_sub_cancel' hlog]
      _ ≤ M * 2 ^ (52 - M.log2) := Nat.mul_le_mul_right _ (Nat.log2_self_le hM.ne')
  have hhigh : M * 2 ^ (52 - M.log2) < 2 ^ 53 :=
    calc M * 2 ^ (52 - M.log2) < 2 ^ (M.log2 + 1) * 2 ^ (52 - M.log2) :=
          Nat.mul_lt_mul_of_pos_right Nat.lt_log2_self (by positivity)
      _ = 2 ^ 53 := by
        rw [← pow_add]
        congr 1
        omega
  refine ⟨M * 2 ^ (52 - M.log2), M.log2 - 52, ⟨by positivity, hhigh, .inl hlow, by omega, by omega⟩,
    ?_, hlow⟩
  have hexponent : ((52 - M.log2 : ℕ) : ℤ) = -(M.log2 - 52) := by omega
  rw [Nat.cast_mul, Nat.cast_pow, mul_assoc, ← zpow_natCast, hexponent, Nat.cast_two,
    ← zpow_add₀ two_ne_zero, neg_add_cancel, zpow_zero, mul_one]

/-- A natural number is converted by rounding. -/
theorem toFloat_eq_round {M : ℕ} (hpos : 0 < M) (hM : M < 2 ^ 64) : M.toUInt64.toFloat =
    .ofModel (.pack (UnpackedFloat.round Format.binary64 .positive M 0)) := by
  have htoNat : M.toUInt64.toNat = M := UInt64.toNat_ofNat_of_lt' hM
  show Float.ofModel
    (.pack (UnpackedFloat.normalize Format.binary64 (M.toUInt64.toNat : ℤ) 0 .positive)) = _
  have hcompare : compare (M : ℤ) 0 = .gt := compare_gt_iff_gt.2 (by omega)
  rw [htoNat, UnpackedFloat.normalize, hcompare]
  dsimp only
  rw [Int.toNat_natCast]

/-- A natural number that is a double is converted to it. -/
theorem toFloat_eq (hc : Canonical m e) {M : ℕ} (hM : M < 2 ^ 64) (h : (m * 2 ^ e : ℚ) = M) :
    M.toUInt64.toFloat = ofCanonical hc := by
  have hpos : (0 : ℚ) < M := h ▸ mul_pos (by exact_mod_cast hc.pos) (by positivity)
  have hpos : 0 < M := by exact_mod_cast hpos
  have hround :
      UnpackedFloat.round Format.binary64 .positive M 0 = .finite .positive m e hc.pos := by
    rw [UnpackedFloat.round, targetExponent_totalExponent, decreaseExponent]
    dsimp only
    generalize hk : (0 - max ((M.log2 : ℤ) + 0 - 52) (-1074)).toNat = k
    have hvalue : (m * 2 ^ e / 2 ^ (0 - k : ℤ) : ℚ) = (M <<< k : ℕ) := by
      rw [h, Nat.shiftLeft_eq, zero_sub, zpow_neg, div_inv_eq_mul, zpow_natCast]
      push_cast
      rfl
    refine roundWithAccuracy_eq hc (roundsTo_self hc) (stands_exact hvalue) (.inr ?_) _
    have hbits : (2 : ℚ) ^ (M.log2 + 0 : ℤ) ≤ M :=
      two_zpow_log2_le (by rw [zpow_zero, div_one]) hpos.ne'
    calc (2 : ℚ) ^ (0 - k + 52 : ℤ) ≤ 2 ^ (M.log2 + 0 : ℤ) :=
          zpow_le_zpow_right₀ one_le_two (by omega)
      _ ≤ m * 2 ^ e := h ▸ hbits
  rw [toFloat_eq_round hpos hM, hround]
  rfl

/-- Mantissa and exponent of a power of ten. -/
def powerOfTen (k : ℕ) : ℕ × ℤ :=
  (10 ^ k * 2 ^ 52 / 2 ^ (10 ^ k).log2, (10 ^ k).log2 - 52)

/-- The powers of ten that are doubles have these mantissas and exponents. -/
theorem powerOfTen_bits : ∀ k (_ : k < 23),
    2 ^ 52 ≤ (powerOfTen k).1 ∧ (powerOfTen k).1 < 2 ^ 53 ∧ -1074 ≤ (powerOfTen k).2 ∧
      (powerOfTen k).2 ≤ 971 ∧ (powerOfTen k).1 * 2 ^ (10 ^ k).log2 = 10 ^ k * 2 ^ 52 ∧
      Float.exactlyRepresentablePowersOfTen[k].toBits.toNat =
        storedExponent (powerOfTen k).1 (powerOfTen k).2 * 2 ^ 52 + (powerOfTen k).1 % 2 ^ 52 := by
  decide +kernel

/-- The first powers of ten are doubles. -/
theorem exists_powerOfTen {k : ℕ} (hk : k < 23) :
    ∃ m e, ∃ hc : Canonical m e, Float.exactlyRepresentablePowersOfTen[k] = ofCanonical hc ∧
      (m * 2 ^ e : ℚ) = 10 ^ k := by
  obtain ⟨hnormal, hlt, hlow, hhigh, hvalue, hbits⟩ := powerOfTen_bits k hk
  have hpos : 0 < (powerOfTen k).1 := lt_of_lt_of_le (by positivity) hnormal
  have hc : Canonical (powerOfTen k).1 (powerOfTen k).2 := ⟨hpos, hlt, .inl hnormal, hlow, hhigh⟩
  refine ⟨_, _, hc, eq_of_toNat_toBits ?_, ?_⟩
  · rw [toNat_toBits_pack hc, hbits, signBit, zero_mul, zero_add]
  · have hvalue : ((powerOfTen k).1 * 2 ^ (10 ^ k).log2 : ℚ) = 10 ^ k * 2 ^ 52 := by
      exact_mod_cast hvalue
    have hexponent : (powerOfTen k).2 = (10 ^ k).log2 - 52 := rfl
    rw [hexponent, zpow_sub₀ two_ne_zero, zpow_natCast, ← mul_div_assoc, hvalue]
    exact mul_div_cancel_right₀ _ (by positivity)

section
variable {m₁ m₂ : ℕ} {e₁ e₂ : ℤ} (hc₁ : Canonical m₁ e₁) (hc₂ : Canonical m₂ e₂)
  (hc : Canonical m e)

/-- A product is the double to which the exact product is rounded. -/
theorem ofCanonical_mul (hr : RoundsTo m e (m₁ * 2 ^ e₁ * (m₂ * 2 ^ e₂))) (hnormal : 2 ^ 52 ≤ m₁) :
    ofCanonical hc₁ * ofCanonical hc₂ = ofCanonical hc := by
  have hdigits : (2 : ℚ) ^ (e₁ + e₂ + 52) ≤ m₁ * 2 ^ e₁ * (m₂ * 2 ^ e₂) := by
    have hm₁ : (2 : ℚ) ^ 52 ≤ m₁ := by exact_mod_cast hnormal
    have hm₂ : (1 : ℚ) ≤ m₂ := by exact_mod_cast hc₂.pos
    calc (2 : ℚ) ^ (e₁ + e₂ + 52) = 2 ^ 52 * 2 ^ e₁ * (1 * 2 ^ e₂) := by
          rw [zpow_add₀ two_ne_zero, zpow_add₀ two_ne_zero]
          norm_cast
          ring
      _ ≤ m₁ * 2 ^ e₁ * (m₂ * 2 ^ e₂) := by gcongr
  show Float.ofModel (.pack (UnpackedFloat.mul Format.binary64 (Float.Model.pack _).unpack
    (Float.Model.pack _).unpack)) = _
  rw [unpack_pack hc₁, unpack_pack hc₂, mul_eq hc hr hdigits]
  rfl

/-- A quotient is the double to which the exact quotient is rounded. -/
theorem ofCanonical_div (hr : RoundsTo m e (m₁ * 2 ^ e₁ / (m₂ * 2 ^ e₂))) :
    ofCanonical hc₁ / ofCanonical hc₂ = ofCanonical hc := by
  show Float.ofModel (.pack (UnpackedFloat.div Format.binary64 (Float.Model.pack _).unpack
    (Float.Model.pack _).unpack)) = _
  rw [unpack_pack hc₁, unpack_pack hc₂, div_eq hc hr]
  rfl

end

/-- A decimal is read as the double in whose interval it lies. -/
theorem ofScientific_eq (hc : Canonical m e) {M : ℕ} {E : ℤ} (hr : RoundsTo m e (M * 10 ^ E)) :
    ofScientific M E = ofCanonical hc := by
  have hM : 0 < M := by
    rw [Nat.pos_iff_ne_zero]
    rintro rfl
    have := (hr.range hc).1
    rw [Nat.cast_zero, zero_mul] at this
    exact absurd this (not_le.2 (by positivity))
  rw [ofScientific, Float.ofScientific]
  split
  · next hsmall =>
    obtain ⟨hlt, hk⟩ := hsmall
    obtain ⟨m₁, e₁, hc₁, hvalue₁, hnormal⟩ := exists_canonical hM hlt
    obtain ⟨m₂, e₂, hc₂, hten, hvalue₂⟩ := exists_powerOfTen (Nat.lt_succ_of_le hk)
    have hfloat := toFloat_eq hc₁ (hlt.trans (by decide)) hvalue₁
    dsimp only
    split
    · next hE =>
      have hE : (E.natAbs : ℤ) = -E := Int.ofNat_natAbs_of_nonpos (of_decide_eq_true hE).le
      have hvalue : (m₁ * 2 ^ e₁ / (m₂ * 2 ^ e₂) : ℚ) = M * 10 ^ E := by
        rw [hvalue₁, hvalue₂, ← zpow_natCast, hE, zpow_neg, div_inv_eq_mul]
      exact (congrArg₂ (· / ·) hfloat hten).trans (ofCanonical_div hc₁ hc₂ hc (hvalue ▸ hr))
    · next hE =>
      have hE : (E.natAbs : ℤ) = E := Int.natAbs_of_nonneg (not_lt.1 fun h => hE (decide_eq_true h))
      have hvalue : (m₁ * 2 ^ e₁ * (m₂ * 2 ^ e₂) : ℚ) = M * 10 ^ E := by
        rw [hvalue₁, hvalue₂, ← zpow_natCast, hE]
      exact (congrArg₂ (· * ·) hfloat hten).trans
        (ofCanonical_mul hc₁ hc₂ hc (hvalue ▸ hr) hnormal)
  · have hE :
        (if decide (E < 0) = true then Int.negOfNat E.natAbs else Int.ofNat E.natAbs) = E := by
      split
      · next hE =>
        rw [Int.negOfNat_eq]
        exact neg_eq_iff_eq_neg.2 (Int.ofNat_natAbs_of_nonpos (of_decide_eq_true hE).le)
      · next hE =>
        exact Int.natAbs_of_nonneg (not_lt.1 fun h => hE (decide_eq_true h))
    dsimp only
    rw [hE, Float.Model.ofScientific, model_ofScientific_eq hc hr]
    rfl

end

end RowAudit.Number
