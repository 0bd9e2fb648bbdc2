import RowAudit.Number.Exact
import Mathlib

/-!
# The bits of numbers

A finite number other than zero is put together from its sign, its mantissa and its exponent
(`eq_pack_exact`), and is taken apart into them again (`unpack_eq`). `Canonical` says which
mantissas and exponents there are. From this it follows when two numbers are equal in their order
(`order_eq_some_eq_iff`) and what a change of sign does (`neg_pack`).
-/

namespace RowAudit.Number

open Float.Model Float.Model.UnpackedFloat

/-- Mantissa and exponent of a positive double. -/
structure Canonical (m : Nat) (e : Int) : Prop where
  pos : 0 < m
  lt : m < 2 ^ 53
  normal : 2 ^ 52 ≤ m ∨ e = -1074
  le_exponent : -1074 ≤ e
  exponent_le : e ≤ 971

/-- The number of a sign bit. -/
def signBit : Sign → Nat
  | .negative => 1
  | .positive => 0

/-- The parts of a double stand one behind the other in its bits. -/
theorem toNat_packComponents (sign : Sign) (exponent : BitVec 11) (mantissa : BitVec 52) :
    (packComponents Format.binary64 sign exponent mantissa).toNat =
      signBit sign * 2 ^ 63 + exponent.toNat * 2 ^ 52 + mantissa.toNat := by
  have hsign : sign.toBitVec.toNat = signBit sign := by cases sign <;> rfl
  show (sign.toBitVec ++ exponent ++ mantissa).toNat = _
  rw [BitVec.toNat_append, BitVec.toNat_append, ← Nat.shiftLeft_add_eq_or_of_lt exponent.isLt,
    ← Nat.shiftLeft_add_eq_or_of_lt mantissa.isLt, hsign, Nat.shiftLeft_eq, Nat.shiftLeft_eq]
  omega

/-- The exponent as it is stored: zero if the first bit of the mantissa is not set. -/
def storedExponent (m : Nat) (e : Int) : Nat := if 2 ^ 52 ≤ m then (e + 1075).toNat else 0

section
variable {m : Nat} {e : Int}

/-- The stored exponent of a number is not the one of infinity. -/
theorem storedExponent_lt (hc : Canonical m e) : storedExponent m e < 2047 := by
  have := hc.exponent_le
  unfold storedExponent
  split <;> omega

/-- A finite number is packed from its sign, its stored exponent and its mantissa. -/
theorem pack_finite (hc : Canonical m e) (sign : Sign) :
    UnpackedFloat.pack Format.binary64 (.finite sign m e hc.pos) =
      packComponents Format.binary64 sign (BitVec.ofNat 11 (storedExponent m e))
        (BitVec.ofNat 52 m) := by
  have hbiased : (e + (Format.binary64.exponentBias : Int) +
      (Format.binary64.mantissaBitsWithoutImplicit : Int)).toNat = (e + 1075).toNat := by
    rw [add_assoc]
    rfl
  have hfinite : ¬ 2 ^ Format.binary64.exponentBits ≤ (e + 1075).toNat + 1 := by
    have := hc.exponent_le
    show ¬ 2048 ≤ _
    omega
  rw [UnpackedFloat.pack, hbiased]
  dsimp only
  rw [if_neg hfinite, storedExponent]
  have hlog : m.log2 + 1 = Format.binary64.mantissaBits ↔ 2 ^ 52 ≤ m := by
    show m.log2 + 1 = 52 + 1 ↔ _
    rw [Nat.succ_inj, Nat.log2_eq_iff hc.pos.ne']
    exact and_iff_left hc.lt
  by_cases hm : 2 ^ 52 ≤ m
  · rw [if_pos (hlog.2 hm), if_pos hm]
  · rw [if_neg (mt hlog.1 hm), if_neg hm]

/-- Packing and unpacking doubles is that of the format. -/
theorem unpack_pack_eq (f : UnpackedFloat) : (Float.Model.pack f).unpack =
    UnpackedFloat.unpack Format.binary64 (UnpackedFloat.pack Format.binary64 f) := rfl

/-- The bits of a packed double are those of the format. -/
theorem toNat_toBits_pack_eq (f : UnpackedFloat) :
    (Float.Model.pack f).toBits.toNat = (UnpackedFloat.pack Format.binary64 f).toNat := rfl

section
variable {b : BitVec 64} {sign : Sign} {exponent : BitVec 11} {mantissa : BitVec 52}
  (hsign : Sign.ofBitVec (@unpackSign Format.binary64 b) = sign)
  (hexponent : @unpackExponent Format.binary64 b = exponent)
  (hmantissa : @unpackMantissa Format.binary64 b = mantissa)

include hsign hexponent hmantissa

/-- Bits with an exponent in between have a mantissa with its first bit set. -/
theorem unpack_of_normal (hfinite : exponent ≠ -1#11) (hnormal : exponent ≠ 0#11) (hpos : 0 < m)
    (hm : m = 2 ^ 52 + mantissa.toNat) (he : e = exponent.toNat - 1075) :
    UnpackedFloat.unpack Format.binary64 b = .finite sign m e hpos := by
  have happend : (1#1 ++ mantissa).toNat = m := by
    rw [hm, BitVec.toNat_append, ← Nat.shiftLeft_add_eq_or_of_lt mantissa.isLt]
    rfl
  subst hsign hexponent hmantissa he happend
  unfold UnpackedFloat.unpack
  rw [if_neg hfinite, if_neg hnormal]
  rfl

/-- Bits with the least exponent have the mantissa that is stored. -/
theorem unpack_of_subnormal (hexponent0 : exponent = 0#11) (hpos : 0 < mantissa.toNat) :
    UnpackedFloat.unpack Format.binary64 b = .finite sign mantissa.toNat (-1074) hpos := by
  have hmantissa0 : mantissa ≠ 0#52 := by
    rintro rfl
    cases hpos
  subst hsign hmantissa
  unfold UnpackedFloat.unpack
  rw [hexponent, hexponent0, if_neg (by decide), if_pos rfl, dif_neg hmantissa0]
  rfl

end

/-- What is packed is unpacked again. -/
theorem unpack_pack (hc : Canonical m e) (sign : Sign) :
    (Float.Model.pack (.finite sign m e hc.pos)).unpack = .finite sign m e hc.pos := by
  have hlt := storedExponent_lt hc
  have hstored : (BitVec.ofNat 11 (storedExponent m e)).toNat = storedExponent m e :=
    Nat.mod_eq_of_lt (hlt.trans (by decide))
  rw [unpack_pack_eq, pack_finite hc]
  have hsign : Sign.ofBitVec (@unpackSign Format.binary64 (packComponents Format.binary64 sign
      (BitVec.ofNat 11 (storedExponent m e)) (BitVec.ofNat 52 m))) = sign := by
    rw [unpackSign_packComponents, Sign.ofBitVec_toBitVec]
  by_cases hm : 2 ^ 52 ≤ m
  · have he : storedExponent m e = (e + 1075).toNat := if_pos hm
    have hle := hc.le_exponent
    have hmantissa : m = 2 ^ 52 + (BitVec.ofNat 52 m).toNat := by
      have := hc.lt
      rw [BitVec.toNat_ofNat]
      omega
    refine unpack_of_normal hsign unpackExponent_packComponents unpackMantissa_packComponents ?_ ?_
      hc.pos hmantissa ?_
    · intro h
      have := congrArg BitVec.toNat h
      rw [hstored] at this
      exact absurd this hlt.ne
    · intro h
      have := congrArg BitVec.toNat h
      rw [hstored, he, BitVec.toNat_zero] at this
      omega
    · rw [hstored, he]
      omega
  · have he : e = -1074 := hc.normal.resolve_left hm
    have hmantissa : (BitVec.ofNat 52 m).toNat = m := Nat.mod_eq_of_lt (not_le.1 hm)
    have hunpack := unpack_of_subnormal hsign unpackExponent_packComponents
      unpackMantissa_packComponents (by rw [storedExponent, if_neg hm]) (hmantissa.symm ▸ hc.pos)
    rw [hunpack]
    congr 1
    exact he.symm

/-- The bits of a packed number are its sign, its stored exponent and its fraction, one after the
other. -/
theorem toNat_toBits_pack (hc : Canonical m e) (sign : Sign) :
    (Float.Model.pack (.finite sign m e hc.pos)).toBits.toNat =
      signBit sign * 2 ^ 63 + storedExponent m e * 2 ^ 52 + m % 2 ^ 52 := by
  rw [toNat_toBits_pack_eq, pack_finite hc, toNat_packComponents, BitVec.toNat_ofNat,
    BitVec.toNat_ofNat, Nat.mod_eq_of_lt ((storedExponent_lt hc).trans (by decide))]

end

/-! ## Doubles -/

/-- The sign of a number. -/
def signOf (x : Float) : Sign := if isNegative x then .negative else .positive

/-- Numbers with the same bits are the same. -/
theorem eq_of_toNat_toBits {x : Float} {f : Float.Model} (h : x.toBits.toNat = f.toBits.toNat) :
    x = .ofModel f :=
  Float.toBits_inj.1 (UInt64.toNat_inj.1 h)

section
variable {x : Float}

/-- The bits of a double are its sign, its exponent and its fraction, one after the other. -/
theorem toNat_toBits_eq (x : Float) : x.toBits.toNat =
    signBit (signOf x) * 2 ^ 63 + exponentBits x * 2 ^ 52 + fractionBits x := by
  have hlt : x.toBits.toNat < 2 ^ 64 := x.toBits.toNat_lt
  have hsign : signBit (signOf x) = x.toBits.toNat / 2 ^ 63 := by
    rw [signOf, isNegative]
    split
    · next h => exact (beq_iff_eq.1 h).symm
    · next h =>
      have : x.toBits.toNat / 2 ^ 63 ≠ 1 := fun heq => h (beq_iff_eq.2 heq)
      show 0 = _
      omega
  rw [hsign, exponentBits, fractionBits]
  show _ = _ + x.toBits.toNat / 2 ^ 52 % 2048 * _ + x.toBits.toNat % 2 ^ 52
  omega

/-- The exponent of a finite number is not the one of infinity. -/
theorem exponentBits_lt (hx : isFinite x = true) : exponentBits x < 2047 := by
  have hne : exponentBits x ≠ 2047 := by simpa [isFinite] using hx
  have hlt : exponentBits x < 2048 := Nat.mod_lt _ (by decide)
  omega

/-- A zero is finite. -/
theorem isFinite_of_isZero (hz : isZero x = true) : isFinite x = true := by
  have hzero : exponentBits x = 0 := by
    rw [isZero, Bool.and_eq_true, beq_iff_eq] at hz
    exact hz.1
  rw [isFinite, hzero]
  rfl

/-- The fraction has 52 bits. -/
theorem fractionBits_lt (x : Float) : fractionBits x < 2 ^ 52 := Nat.mod_lt _ (by decide)

/-- Every finite number but zero has a mantissa and an exponent. -/
theorem canonical_exact (hx : isFinite x = true) (hz : isZero x = false) :
    Canonical (exact x).mantissa (exact x).exponent := by
  have hexponent := exponentBits_lt hx
  have hfraction := fractionBits_lt x
  have hpow : Nat.pow 2 52 = 2 ^ 52 := rfl
  rw [exact]
  split
  · next h =>
    have hpos : fractionBits x ≠ 0 := fun h0 => by simp [isZero, beq_iff_eq.1 h, h0] at hz
    exact ⟨Nat.pos_of_ne_zero hpos, hfraction.trans (by decide), .inr rfl, le_refl (-1074),
      Int.le_of_lt (Int.negSucc_lt_zero _ |>.trans (by decide))⟩
  · next h =>
    have hne : exponentBits x ≠ 0 := fun h0 => h (beq_iff_eq.2 h0)
    constructor <;> dsimp only <;> omega

/-- The bits of the exponent are those of the mantissa and the exponent. -/
theorem storedExponent_exact (x : Float) :
    storedExponent (exact x).mantissa (exact x).exponent = exponentBits x ∧
      (exact x).mantissa % 2 ^ 52 = fractionBits x := by
  have hfraction := fractionBits_lt x
  have hpow : Nat.pow 2 52 = 2 ^ 52 := rfl
  rw [exact]
  split
  · next h =>
    exact ⟨(if_neg (not_le.2 hfraction)).trans (beq_iff_eq.1 h).symm, Nat.mod_eq_of_lt hfraction⟩
  · refine ⟨(if_pos (Nat.le_add_right _ _)).trans ?_, ?_⟩ <;> dsimp only <;> omega

/-- A packed number is finite. -/
theorem isFinite_pack {m : Nat} {e : Int} (hc : Canonical m e) (sign : Sign) :
    isFinite (.ofModel (.pack (.finite sign m e hc.pos))) = true := by
  have hstored := storedExponent_lt hc
  have hmod : m % 2 ^ 52 < 2 ^ 52 := Nat.mod_lt _ (by decide)
  rw [isFinite, bne_iff_ne, exponentBits]
  show (Float.Model.pack _).toBits.toNat / 2 ^ 52 % 2048 ≠ 2047
  rw [toNat_toBits_pack hc]
  omega

/-- A number is put together from its sign, its mantissa and its exponent. -/
theorem eq_pack_exact (hx : isFinite x = true) (hz : isZero x = false) :
    x = .ofModel (.pack (.finite (signOf x) (exact x).mantissa (exact x).exponent
      (canonical_exact hx hz).pos)) := by
  obtain ⟨hexponent, hfraction⟩ := storedExponent_exact x
  apply eq_of_toNat_toBits
  rw [toNat_toBits_pack (canonical_exact hx hz), toNat_toBits_eq, hexponent, hfraction]

/-- The two zeros have no bits but the sign. -/
theorem eq_pack_zero (hz : isZero x = true) : x = .ofModel (.pack (.zero (signOf x))) := by
  have hzero : exponentBits x = 0 ∧ fractionBits x = 0 := by simpa [isZero] using hz
  apply eq_of_toNat_toBits
  rw [toNat_toBits_pack_eq, UnpackedFloat.pack, packedZero, toNat_packComponents, toNat_toBits_eq,
    hzero.1, hzero.2]
  rfl

/-- A number is unpacked into its sign, its mantissa and its exponent. -/
theorem unpack_eq (hx : isFinite x = true) (hz : isZero x = false) :
    x.toModel.unpack = .finite (signOf x) (exact x).mantissa (exact x).exponent
      (canonical_exact hx hz).pos :=
  (congrArg (fun y => y.toModel.unpack) (eq_pack_exact hx hz)).trans
    (unpack_pack (canonical_exact hx hz) (signOf x))

/-- A packed zero is unpacked to the zero with its sign. -/
theorem unpack_pack_zero (sign : Sign) : (Float.Model.pack (.zero sign)).unpack = .zero sign :=
  unpack_packedZero

/-- A zero is unpacked to the zero with its sign. -/
theorem unpack_eq_zero (hz : isZero x = true) : x.toModel.unpack = .zero (signOf x) :=
  (congrArg (fun y => y.toModel.unpack) (eq_pack_zero hz)).trans (unpack_pack_zero _)

/-- A finite number is a zero or has a mantissa and an exponent. -/
theorem unpack_of_isFinite (hx : isFinite x = true) :
    (∃ sign, x.toModel.unpack = .zero sign) ∨
      ∃ sign m e, ∃ hc : Canonical m e, x.toModel.unpack = .finite sign m e hc.pos := by
  cases hz : isZero x with
  | true => exact .inl ⟨_, unpack_eq_zero hz⟩
  | false => exact .inr ⟨_, _, _, canonical_exact hx hz, unpack_eq hx hz⟩

/-! ## Signs and order -/

/-- The negation of a packed number has the other sign. -/
theorem neg_pack {m : Nat} {e : Int} (hc : Canonical m e) (sign : Sign) :
    -(Float.ofModel (.pack (.finite sign m e hc.pos))) =
      .ofModel (.pack (.finite (-sign) m e hc.pos)) := by
  show Float.ofModel (.pack (UnpackedFloat.neg (Float.Model.pack _).unpack)) = _
  rw [unpack_pack hc]
  rfl

/-- Unpacked numbers are equal if their parts are. -/
theorem compare_finite_eq {s t : Sign} {m n : Nat} {e f : Int} {hm : 0 < m} {hn : 0 < n} :
    (finite s m e hm).compare (finite t n f hn) = some .eq ↔ s = t ∧ m = n ∧ e = f := by
  cases s <;> cases t <;>
    simp [UnpackedFloat.compare, Ordering.then_eq_eq, and_comm]

/-- Doubles are less as their unpacked forms are. -/
theorem lt_iff_compare {x y : Float} :
    x < y ↔ x.toModel.unpack.compare y.toModel.unpack = some .lt :=
  decide_eq_true_iff.trans beq_iff_eq

/-- Doubles are equal as their unpacked forms are. -/
theorem beq_iff_compare {x y : Float} :
    (x == y) = true ↔ x.toModel.unpack.compare y.toModel.unpack = some .eq := by
  show (x.toModel.unpack.compare y.toModel.unpack == some .eq) = true ↔ _
  exact beq_iff_eq

/-- Doubles have the order of equals if their unpacked forms are equal. -/
theorem order_eq_some_eq_iff_compare {x y : Float} :
    order x y = some .eq ↔ x.toModel.unpack.compare y.toModel.unpack = some .eq := by
  unfold order
  split
  · next h => exact iff_of_false nofun fun heq => nomatch (lt_iff_compare.1 h).symm.trans heq
  · split
    · next h => exact iff_of_true rfl (beq_iff_compare.1 h)
    · next h =>
      refine iff_of_false ?_ fun heq => h (beq_iff_compare.2 heq)
      split <;> nofun

/-- The two zeros have one place in the order of numbers. -/
theorem order_of_isZero {y : Float} (hx : isZero x = true) (hy : isZero y = true) (z : Float) :
    order z x = order z y := by
  have hcompare (u : UnpackedFloat) (s t : Sign) :
      u.compare (.zero s) = u.compare (.zero t) ∧ (zero s).compare u = (zero t).compare u := by
    cases u with
    | finite r | infinity r => cases r <;> exact ⟨rfl, rfl⟩
    | zero | notANumber => exact ⟨rfl, rfl⟩
  obtain ⟨hright, hleft⟩ := hcompare z.toModel.unpack (signOf x) (signOf y)
  rw [← unpack_eq_zero hx, ← unpack_eq_zero hy] at hright hleft
  have hlt : z < x ↔ z < y := by rw [lt_iff_compare, lt_iff_compare, hright]
  have hgt : x < z ↔ y < z := by rw [lt_iff_compare, lt_iff_compare, hleft]
  have hbeq : (z == x) = true ↔ (z == y) = true := by rw [beq_iff_compare, beq_iff_compare, hright]
  simp only [order, hlt, hgt, hbeq]

/-- Two finite numbers are equal in the order of numbers if they are the same or both zero. -/
theorem order_eq_some_eq_iff {y : Float} (hx : isFinite x = true) (hy : isFinite y = true) :
    order x y = some .eq ↔ x = y ∨ isZero x = true ∧ isZero y = true := by
  rw [order_eq_some_eq_iff_compare]
  cases hxz : isZero x <;> cases hyz : isZero y
  · rw [unpack_eq hx hxz, unpack_eq hy hyz, compare_finite_eq]
    constructor
    · rintro ⟨hsign, hmantissa, hexponent⟩
      refine .inl ((eq_pack_exact hx hxz).trans (Eq.trans ?_ (eq_pack_exact hy hyz).symm))
      congr 3
    · rintro (rfl | ⟨h, -⟩)
      · exact ⟨rfl, rfl, rfl⟩
      · cases h
  · rw [unpack_eq hx hxz, unpack_eq_zero hyz]
    refine iff_of_false ?_ ?_
    · cases signOf x <;> nofun
    · rintro (rfl | ⟨h, -⟩)
      · exact absurd hyz (by rw [hxz]; nofun)
      · cases h
  · rw [unpack_eq_zero hxz, unpack_eq hy hyz]
    refine iff_of_false ?_ ?_
    · cases signOf y <;> nofun
    · rintro (rfl | ⟨-, h⟩)
      · exact absurd hxz (by rw [hyz]; nofun)
      · cases h
  · rw [unpack_eq_zero hxz, unpack_eq_zero hyz]
    exact iff_of_true rfl (.inr ⟨rfl, rfl⟩)

end

end RowAudit.Number
