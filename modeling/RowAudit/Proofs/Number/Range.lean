import RowAudit.Proofs.Number.Nearest

/-!
# The range of numbers

A number is finite if it is unpacked as a zero or as a mantissa with an exponent (`isFinite_iff`),
and what is packed is finite if its exponent is not too large (`isFinite_pack_iff`). So what has
left the range does not come back: an operation on a number that is not finite and one that is does
not give a finite number (`not_isFinite_add` and the others), and the result of a fold is out of the
range exactly if one of its steps leaves it (`isFinite_foldl_iff`). A value that is not larger than
the largest double is rounded to a finite number (`isFinite_roundWithAccuracy`); in particular
counts are finite, and a finite number divided by a count is (`isFinite_div_toFloat`).
-/

namespace RowAudit.Number

open Float.Model Float.Model.UnpackedFloat

/-! ## Finite numbers -/

/-- The exponent of a packed number is that of its bits. -/
theorem exponentBits_packComponents (sign : Sign) (exponent : BitVec 11) (mantissa : BitVec 52)
    {f : Float.Model}
    (hf : f.toBits.toNat = (packComponents Format.binary64 sign exponent mantissa).toNat) :
    exponentBits (.ofModel f) = exponent.toNat := by
  have hexponent := exponent.isLt
  have hmantissa := mantissa.isLt
  rw [exponentBits]
  show f.toBits.toNat / 2 ^ 52 % 2048 = _
  rw [hf, toNat_packComponents]
  cases sign <;> simp only [signBit] <;> omega

/-- Whether a number can be packed as a finite one. -/
def InRange : UnpackedFloat → Prop
  | .infinity _ | .notANumber => False
  | .zero _ => True
  | .finite _ _ e _ => e ≤ 971

/-- A number is packed as a finite one exactly if it is in the range. -/
theorem isFinite_pack_iff (u : UnpackedFloat) :
    isFinite (.ofModel (.pack u)) = true ↔ InRange u := by
  have hall : (-1#11).toNat = 2047 := rfl
  have hbits (sign : Sign) (exponent : BitVec 11) (mantissa : BitVec 52)
      (hu : UnpackedFloat.pack Format.binary64 u =
        packComponents Format.binary64 sign exponent mantissa) :
      isFinite (.ofModel (.pack u)) = true ↔ exponent.toNat ≠ 2047 := by
    rw [isFinite, bne_iff_ne, exponentBits_packComponents sign exponent mantissa
      ((toNat_toBits_pack_eq u).trans (congrArg BitVec.toNat hu))]
  cases u with
  | infinity s => exact (hbits s _ _ rfl).trans (iff_of_false (fun h => h hall) id)
  | notANumber => exact (hbits .positive _ _ rfl).trans (iff_of_false (fun h => h hall) id)
  | zero s => exact (hbits s _ _ rfl).trans (iff_of_true (by decide) trivial)
  | finite s m e hm =>
    have hbiased : (e + (Format.binary64.exponentBias : Int) +
        (Format.binary64.mantissaBitsWithoutImplicit : Int)).toNat = (e + 1075).toNat := by
      rw [add_assoc]
      rfl
    have hpack : UnpackedFloat.pack Format.binary64 (.finite s m e hm) =
        if 2048 ≤ (e + 1075).toNat + 1 then packComponents Format.binary64 s (-1#11) 0
        else if m.log2 + 1 = 53 then
          packComponents Format.binary64 s (BitVec.ofNat 11 (e + 1075).toNat) (BitVec.ofNat 52 m)
        else packComponents Format.binary64 s 0#11 (BitVec.ofNat 52 m) := by
      rw [UnpackedFloat.pack, hbiased]
      rfl
    show _ ↔ e ≤ 971
    split at hpack
    · exact (hbits s _ _ hpack).trans (iff_of_false (fun h => h hall) (by omega))
    · have hlt : (e + 1075).toNat < 2047 := by omega
      split at hpack
      · refine (hbits s _ _ hpack).trans (iff_of_true ?_ (by omega))
        rw [BitVec.toNat_ofNat, Nat.mod_eq_of_lt (by omega)]
        exact hlt.ne
      · exact (hbits s _ _ hpack).trans (iff_of_true (by decide) (by omega))

section
variable {x y : Float}

/-- A number that is not finite is an infinity or not a number. -/
theorem unpack_of_not_isFinite (hx : isFinite x = false) :
    x.toModel.unpack = .notANumber ∨ ∃ sign, x.toModel.unpack = .infinity sign := by
  have hexponent : @unpackExponent Format.binary64 x.toModel.toBits.toBitVec = -1#11 := by
    have hbits : exponentBits x = 2047 := by simpa [isFinite] using hx
    refine BitVec.eq_of_toNat_eq (Eq.trans ?_ hbits)
    show (BitVec.extractLsb 62 52 _).toNat = x.toBits.toNat / 2 ^ 52 % 2048
    rw [BitVec.extractLsb_toNat, Nat.shiftRight_eq_div_pow]
    rfl
  show UnpackedFloat.unpack _ _ = _ ∨ ∃ sign, UnpackedFloat.unpack _ _ = _
  unfold UnpackedFloat.unpack
  rw [hexponent, if_pos rfl]
  split
  · exact .inr ⟨_, rfl⟩
  · exact .inl rfl

/-- A double is finite exactly if its unpacked form is in the range. -/
theorem isFinite_iff : isFinite x = true ↔ InRange x.toModel.unpack := by
  cases hx : isFinite x with
  | true =>
    refine iff_of_true rfl ?_
    obtain ⟨sign, hu⟩ | ⟨sign, m, e, hc, hu⟩ := unpack_of_isFinite hx <;> rw [hu]
    · trivial
    · exact hc.exponent_le
  | false =>
    refine iff_of_false Bool.false_ne_true ?_
    obtain hu | ⟨sign, hu⟩ := unpack_of_not_isFinite hx <;> rw [hu] <;> exact id

/-- A change of sign does not leave the range. -/
theorem isFinite_neg (hx : isFinite x = true) : isFinite (-x) = true := by
  show isFinite (.ofModel (.pack (UnpackedFloat.neg x.toModel.unpack))) = true
  rw [isFinite_pack_iff]
  rw [isFinite_iff] at hx
  cases hu : x.toModel.unpack <;> rw [hu] at hx <;> exact hx

/-! ## Out of the range -/

section
variable (hx : isFinite x = false) (hy : isFinite y = true)
include hx hy

/-- An operation that keeps infinities and what is not a number does not come back to the range. -/
theorem not_isFinite_of_unpack {f : UnpackedFloat → UnpackedFloat → UnpackedFloat}
    (hnan : ∀ v, InRange v → ¬ InRange (f .notANumber v))
    (hinfinity : ∀ sign v, InRange v → ¬ InRange (f (.infinity sign) v)) :
    isFinite (.ofModel (.pack (f x.toModel.unpack y.toModel.unpack))) = false := by
  rw [Bool.eq_false_iff, ne_eq, isFinite_pack_iff]
  rw [isFinite_iff] at hy
  obtain hu | ⟨sign, hu⟩ := unpack_of_not_isFinite hx <;> rw [hu]
  · exact hnan _ hy
  · exact hinfinity sign _ hy

/-- A sum with a number out of the range is out of it. -/
theorem not_isFinite_add : isFinite (x + y) = false := by
  refine not_isFinite_of_unpack hx hy (f := UnpackedFloat.add _) (fun v hv => ?_)
      (fun sign v hv => ?_) <;>
    cases v <;> first | exact hv.elim | exact id

/-- A difference with a number out of the range is out of it. -/
theorem not_isFinite_sub : isFinite (x - y) = false := by
  refine not_isFinite_of_unpack hx hy (f := UnpackedFloat.sub _) (fun v hv => ?_)
      (fun sign v hv => ?_) <;>
    cases v <;> first | exact hv.elim | exact id

/-- A product with a number out of the range is out of it. -/
theorem not_isFinite_mul : isFinite (x * y) = false := by
  refine not_isFinite_of_unpack hx hy (f := UnpackedFloat.mul _) (fun v hv => ?_)
      (fun sign v hv => ?_) <;>
    cases v <;> first | exact hv.elim | exact id

/-- A quotient of a number out of the range is out of it. -/
theorem not_isFinite_div : isFinite (x / y) = false := by
  refine not_isFinite_of_unpack hx hy (f := UnpackedFloat.div _) (fun v hv => ?_)
      (fun sign v hv => ?_) <;>
    cases v <;> first | exact hv.elim | exact id

end

end

/-! ## Rounding within the range -/

/-- Rounding does not go beyond an integer. -/
theorem Stands.roundedMantissa_le {em : ExtendedMantissa} {x : ℚ} (h : Stands em x) {n : ℕ}
    (hx : x ≤ n) : em.roundedMantissa ≤ n := by
  have hcast {a : ℕ} (h : (a : ℚ) < n) : a + 1 ≤ n := by exact_mod_cast h
  obtain ⟨m, _ | _, _ | _⟩ := em <;> simp only [Stands] at h
  · show m ≤ n
    exact_mod_cast h ▸ hx
  · exact Nat.le_of_succ_le (hcast (a := m) (by linarith))
  · have := hcast (a := m) (by linarith)
    show m + m % 2 ≤ n
    omega
  · exact hcast (a := m) (by linarith)

/-- The largest double. -/
def greatest : ℚ := (2 ^ 53 - 1) * 2 ^ (971 : ℤ)

/-- The largest double is less than the next power of two. -/
theorem greatest_lt : greatest < 2 ^ (1024 : ℤ) := by
  have hpow : (2 : ℚ) ^ (1024 : ℤ) = 2 ^ 53 * 2 ^ (971 : ℤ) := by
    rw [← zpow_natCast, ← zpow_add₀ two_ne_zero]
    rfl
  rw [greatest, hpow]
  exact mul_lt_mul_of_pos_right (by linarith) (by positivity)

section
variable {M : ℕ} {E : ℤ} {r : ℚ}

/-- Shifting to the target brings the exponent to it, unless it is larger already. -/
theorem shiftToTargetExponent_eq (accuracy : Accuracy) :
    shiftToTargetExponent Format.binary64 M E accuracy =
      (ExtendedMantissa.ofMantissaAndAccuracy M accuracy >>>
          (max (M.log2 + E - 52) (-1074) - E).toNat,
        max E (max (M.log2 + E - 52) (-1074))) := by
  rw [shiftToTargetExponent, targetExponent_totalExponent, shiftToExponent]
  congr 1
  omega

/-- A value up to the largest double is rounded to a finite number. -/
theorem isFinite_roundWithAccuracy {accuracy : Accuracy}
    (hs : Stands (.ofMantissaAndAccuracy M accuracy) (r / 2 ^ E)) (hE : E ≤ 971) (hr : r ≤ greatest)
    (sign : Sign) :
    isFinite (.ofModel (.pack (roundWithAccuracy Format.binary64 sign M E accuracy))) = true := by
  have hlow := hs.bounds.1
  rw [mantissa_ofMantissaAndAccuracy] at hlow
  -- The exponent to which the value is brought first.
  have hT : max E (max (M.log2 + E - 52) (-1074)) ≤ 971 := by
    by_cases hM : M = 0
    · subst hM
      simp
      omega
    · have hlt := (two_zpow_log2_le hlow hM).trans_lt (hr.trans_lt greatest_lt)
      have := (zpow_lt_zpow_iff_right₀ one_lt_two).1 hlt
      omega
  have hstands := hs.shiftRight (max (M.log2 + E - 52) (-1074) - E).toNat
  have hvalue : r / 2 ^ E / 2 ^ (max (M.log2 + E - 52) (-1074) - E).toNat =
      r / 2 ^ max E (max (M.log2 + E - 52) (-1074)) := by
    rw [div_div, ← zpow_natCast, ← zpow_add₀ two_ne_zero]
    congr 2
    omega
  rw [hvalue] at hstands
  rw [roundWithAccuracy, shiftToTargetExponent_eq]
  dsimp only
  generalize max E (max (M.log2 + E - 52) (-1074)) = T at hT hstands
  generalize ExtendedMantissa.ofMantissaAndAccuracy M accuracy >>>
    (max (M.log2 + E - 52) (-1074) - E).toNat = em at hstands
  -- In units of that exponent the largest double is an integer, so the mantissa is not longer.
  have hgreatest : greatest / 2 ^ T = ((2 ^ 53 - 1) * 2 ^ (971 - T).toNat : ℕ) := by
    obtain ⟨k, hk⟩ : ∃ k : ℕ, 971 - T = k := Int.eq_ofNat_of_zero_le (by omega)
    rw [greatest, mul_div_assoc, ← zpow_sub₀ two_ne_zero, hk, zpow_natCast, Int.toNat_natCast,
      Nat.cast_mul, Nat.cast_pow]
    norm_num
  have hrounded : em.roundedMantissa ≤ (2 ^ 53 - 1) * 2 ^ (971 - T).toNat := by
    refine hstands.roundedMantissa_le ?_
    rw [← hgreatest]
    gcongr
  have hT₂ : max T (max (em.roundedMantissa.log2 + T - 52) (-1074)) ≤ 971 := by
    have hlog : em.roundedMantissa.log2 < 53 + (971 - T).toNat := by
      by_cases hzero : em.roundedMantissa = 0
      · rw [hzero]
        simp
      · rw [Nat.log2_lt hzero, pow_add]
        refine hrounded.trans_lt ((Nat.mul_lt_mul_right (by positivity)).2 (by decide))
    omega
  rw [shiftToTargetExponent_eq]
  dsimp only
  split
  · exact (isFinite_pack_iff _).2 trivial
  · exact (isFinite_pack_iff _).2 hT₂

end

/-! ## Counts -/

/-- Rounding does not go below an integer. -/
theorem Stands.le_roundedMantissa {em : ExtendedMantissa} {x : ℚ} (h : Stands em x) {n : ℕ}
    (hx : (n : ℚ) ≤ x) : n ≤ em.roundedMantissa := by
  have hmantissa : n ≤ em.mantissa := by
    have hlt : (n : ℚ) < em.mantissa + 1 := hx.trans_lt h.bounds.2
    exact Nat.lt_succ_iff.1 (by exact_mod_cast hlt)
  refine hmantissa.trans ?_
  obtain ⟨m, _ | _, _ | _⟩ := em
  · exact Nat.le_refl m
  · exact Nat.le_refl m
  · exact Nat.le_add_right m _
  · exact Nat.le_succ m

/-- A count is a double that is not less than one. -/
theorem exists_toFloat_eq {n : ℕ} (hpos : 0 < n) (hn : n < 2 ^ 64) :
    ∃ m e, ∃ hc : Canonical m e, n.toUInt64.toFloat = ofCanonical hc ∧ (1 : ℚ) ≤ m * 2 ^ e := by
  by_cases hlt : n < 2 ^ 53
  · obtain ⟨m, e, hc, hvalue, -⟩ := exists_canonical hpos hlt
    refine ⟨m, e, hc, toFloat_eq hc hn hvalue, ?_⟩
    rw [hvalue]
    exact_mod_cast hpos
  · have hlog : 53 ≤ n.log2 := (Nat.le_log2 hpos.ne').2 (not_lt.1 hlt)
    have hlog' : n.log2 < 64 := (Nat.log2_lt hpos.ne').2 hn
    obtain ⟨k, hk⟩ : ∃ k : ℕ, n.log2 = 52 + k := ⟨n.log2 - 52, by omega⟩
    have hbits : 2 ^ 52 * 2 ^ k ≤ n := by
      rw [← pow_add, ← hk]
      exact Nat.log2_self_le hpos.ne'
    have hbits' : n ≤ 2 ^ 53 * 2 ^ k := by
      have hlt : n < 2 ^ (n.log2 + 1) := Nat.lt_log2_self
      rw [hk, Nat.add_right_comm, pow_add] at hlt
      exact hlt.le
    have hone {m : ℕ} {e : ℤ} (hm : 0 < m) (he : 0 ≤ e) : (1 : ℚ) ≤ m * 2 ^ e :=
      one_le_mul_of_one_le_of_one_le (by exact_mod_cast hm) (one_le_zpow₀ one_le_two he)
    have htarget : max ((n.log2 : ℤ) + 0 - 52) (-1074) = k := by omega
    have hshift : (0 - (k : ℤ)).toNat = 0 := by omega
    have hstands : Stands (.ofMantissaAndAccuracy n .exact) ((n : ℚ)) := rfl
    have hstands := hstands.shiftRight k
    -- The mantissa has 53 bits, or is the power of two above them.
    have hlow :
        2 ^ 52 ≤ (ExtendedMantissa.ofMantissaAndAccuracy n .exact >>> k).roundedMantissa := by
      refine hstands.le_roundedMantissa ((le_div_iff₀ (by positivity)).2 ?_)
      exact_mod_cast hbits
    have hhigh :
        (ExtendedMantissa.ofMantissaAndAccuracy n .exact >>> k).roundedMantissa ≤ 2 ^ 53 := by
      refine hstands.roundedMantissa_le ((div_le_iff₀ (by positivity)).2 ?_)
      exact_mod_cast hbits'
    have hround : UnpackedFloat.round Format.binary64 .positive n 0 =
        roundWithAccuracy Format.binary64 .positive n 0 .exact := by
      rw [UnpackedFloat.round, targetExponent_totalExponent, decreaseExponent, htarget, hshift]
      rfl
    rw [toFloat_eq_round hpos hn, hround, roundWithAccuracy, shiftToTargetExponent_eq, htarget,
      sub_zero, Int.toNat_natCast, max_eq_right (Int.natCast_nonneg k)]
    dsimp only
    generalize (ExtendedMantissa.ofMantissaAndAccuracy n .exact >>> k).roundedMantissa =
      m at hlow hhigh
    rcases hhigh.eq_or_lt with rfl | hlt
    · have hc : Canonical (2 ^ 52) (k + 1) :=
        ⟨by decide, by decide, .inl (Nat.le_refl _), by omega, by omega⟩
      refine ⟨_, _, hc, ?_, hone hc.pos (by omega)⟩
      rw [shiftToTargetExponent_two_pow (by omega)]
      rfl
    · have hc : Canonical m k := ⟨by omega, hlt, .inl hlow, by omega, by omega⟩
      refine ⟨_, _, hc, ?_, hone hc.pos (by omega)⟩
      rw [shiftToTargetExponent_of_lt hlt (by omega)]
      dsimp only
      rw [dif_neg hc.pos.ne']
      rfl

/-- Every integer of 64 bits becomes a finite double. -/
theorem isFinite_toFloat (n : UInt64) : isFinite n.toFloat = true := by
  rcases Nat.eq_zero_or_pos n.toNat with hzero | hpos
  · obtain rfl : n = 0 := UInt64.toNat_inj.1 hzero
    exact (isFinite_pack_iff (.zero .positive)).2 trivial
  · obtain ⟨m, e, hc, h, -⟩ := exists_toFloat_eq hpos n.toNat_lt
    have hn : n.toNat.toUInt64 = n := UInt64.ofNat_toNat
    rw [← hn, h]
    exact isFinite_pack hc .positive

/-- The value of a finite number without its sign is at most the greatest. -/
theorem Canonical.le_greatest {m : ℕ} {e : ℤ} (hc : Canonical m e) :
    (m * 2 ^ e : ℚ) ≤ greatest := by
  have hm : (m : ℚ) ≤ 2 ^ 53 - 1 := by
    have : (m : ℚ) + 1 ≤ 2 ^ 53 := by exact_mod_cast hc.lt
    linarith
  exact mul_le_mul hm (zpow_le_zpow_right₀ one_le_two hc.exponent_le) (by positivity) (by norm_num)

/-- A finite number divided by a count is finite. -/
theorem isFinite_div_toFloat {x : Float} (hx : isFinite x = true) {n : ℕ} (hpos : 0 < n)
    (hn : n < 2 ^ 64) : isFinite (x / n.toUInt64.toFloat) = true := by
  obtain ⟨m₂, e₂, hc₂, h₂, hone⟩ := exists_toFloat_eq hpos hn
  have hunpack : (ofCanonical hc₂).toModel.unpack = .finite .positive m₂ e₂ hc₂.pos :=
    unpack_pack hc₂ .positive
  rw [h₂]
  show isFinite (.ofModel (.pack (UnpackedFloat.div Format.binary64 x.toModel.unpack
    (ofCanonical hc₂).toModel.unpack))) = true
  rw [hunpack]
  obtain ⟨sign, hu⟩ | ⟨sign, m₁, e₁, hc₁, hu⟩ := unpack_of_isFinite hx <;> rw [hu]
  · exact (isFinite_pack_iff _).2 trivial
  · refine isFinite_roundWithAccuracy (stands_divCore hc₂.pos) ?_ ?_ _
    · have hlog : m₁.log2 < 53 := (Nat.log2_lt hc₁.pos.ne').2 hc₁.lt
      have hle := hc₁.exponent_le
      have htotal : (0 : ℤ) < m₂.log2 + 1 + e₂ := by
        have hlt : (1 : ℚ) < 2 ^ (m₂.log2 + 1 + e₂) := by
          refine hone.trans_lt (lt_two_zpow_log2 ?_)
          rw [mul_div_cancel_right₀ _ (by positivity)]
          exact lt_add_one _
        rw [← zpow_zero (2 : ℚ)] at hlt
        exact (zpow_lt_zpow_iff_right₀ one_lt_two).1 hlt
      rw [exponent_divCore, totalExponent, totalExponent]
      omega
    · exact (div_le_self (by positivity) hone).trans hc₁.le_greatest

/-! ## Folds -/

/-- A fold leaves the range: it stays in it up to some element, with which it does not. -/
def LeavesRange (f : Float → Float → Float) (x : Float) (ys : List Float) : Prop :=
  ∃ before y after, ys = before ++ y :: after ∧ isFinite (before.foldl f x) = true ∧
    isFinite (f (before.foldl f x) y) = false

section
variable {f : Float → Float → Float} {x : Float} {ys : List Float}
  (hf : ∀ {x y}, isFinite x = false → isFinite y = true → isFinite (f x y) = false)

include hf in
/-- A fold that starts out of the range ends there. -/
theorem not_isFinite_foldl (hx : isFinite x = false) (hys : ∀ y ∈ ys, isFinite y = true) :
    isFinite (ys.foldl f x) = false := by
  induction ys generalizing x with
  | nil => exact hx
  | cons y ys ih =>
    exact ih (hf hx (hys y List.mem_cons_self)) fun z hz => hys z (List.mem_cons_of_mem _ hz)

/-- A fold that ends out of the range has left it. -/
theorem LeavesRange.of_foldl (hx : isFinite x = true) (h : isFinite (ys.foldl f x) = false) :
    LeavesRange f x ys := by
  induction ys generalizing x with
  | nil => exact absurd hx (Bool.eq_false_iff.1 h)
  | cons y ys ih =>
    cases hy : isFinite (f x y) with
    | false => exact ⟨[], y, ys, rfl, hx, hy⟩
    | true =>
      obtain ⟨before, z, after, rfl, hbefore, hz⟩ := ih hy h
      exact ⟨y :: before, z, after, rfl, hbefore, hz⟩

include hf in
/-- The result of a fold over finite numbers is out of the range if the fold leaves it. -/
theorem isFinite_foldl_iff (hx : isFinite x = true) (hys : ∀ y ∈ ys, isFinite y = true) :
    isFinite (ys.foldl f x) = false ↔ LeavesRange f x ys := by
  refine ⟨LeavesRange.of_foldl hx, ?_⟩
  rintro ⟨before, y, after, rfl, -, hy⟩
  rw [List.foldl_append, List.foldl_cons]
  exact not_isFinite_foldl hf hy fun z hz =>
    hys z (List.mem_append_right _ (List.mem_cons_of_mem _ hz))

end

end RowAudit.Number
