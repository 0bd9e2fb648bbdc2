import RowAudit.Cell.Basic
import RowAudit.Proofs.Number.Nearest

/-!
# Cells are read back

A cell without moments whose numbers are finite is equal to the cell of its JSON
(`Cell.same_ofJson_toJson`). An integer in JSON stands for the number that it is written for
(`Number.ofInteger_eq`), but for the sign of zero, which equality does not see. All that JSON loses
is lost at once: what the JSON of a cell stands for has the same JSON, and it is the cell itself,
with the positive zero for both zeros, for no other cells (`Cell.json_roundTrip`).
-/

namespace RowAudit

/-! ## Integers -/

namespace Number

section
variable {x : Float} {n : ℤ}

/-- The sign of the exact value is that of the number. -/
theorem exact_negative (x : Float) : (exact x).negative = isNegative x := by
  rw [exact]
  split <;> rfl

/-- A number that is an integer is its exact value. -/
theorem exact_of_integer? (h : integer? x = some n) :
    ((exact x).mantissa * 2 ^ (exact x).exponent : ℚ) = n.natAbs ∧
      n = if isNegative x then -(n.natAbs : ℤ) else n.natAbs := by
  unfold integer? at h
  split at h
  · cases h
  · dsimp only at h
    rw [exact_negative] at h
    obtain ⟨_, hlift, hsign⟩ := Option.map_eq_some_iff.1 h
    obtain ⟨k, hk, ⟨⟩⟩ := Option.bind_eq_some_iff.1 hlift
    have hn : n.natAbs = k := by
      rw [← hsign]
      split <;> simp
    rw [hn]
    refine ⟨?_, hsign.symm⟩
    split at hk
    · next he =>
      rw [← Option.some_inj.1 hk, Nat.cast_mul, cast_pow_toNat 2 he]
      rfl
    · next he =>
      split at hk
      · next hdvd =>
        have hcast := cast_pow_toNat 2 (Int.le_of_lt (Int.neg_pos_of_neg (not_le.1 he)))
        have hne : ((Nat.pow 2 (-(exact x).exponent).toNat : ℕ) : ℚ) ≠ 0 := by
          rw [hcast]
          positivity
        rw [← Option.some_inj.1 hk, Nat.cast_div (Nat.dvd_of_mod_eq_zero hdvd) hne, hcast, zpow_neg,
          div_inv_eq_mul]
        rfl
      · cases hk

/-- Finite numbers are equal if they are the same or both are zeros. -/
theorem beq_iff {y : Float} (hx : isFinite x = true) (hy : isFinite y = true) :
    (x == y) = true ↔ x = y ∨ isZero x = true ∧ isZero y = true := by
  rw [beq_iff_compare, ← order_eq_some_eq_iff_compare, order_eq_some_eq_iff hx hy]

/-- The literal zero is a zero. -/
theorem isZero_zero : isZero 0 = true := by decide +kernel

/-- A zero is the integer zero, whatever its sign. -/
theorem integer?_of_isZero {x : Float} (hz : isZero x = true) : integer? x = some 0 := by
  obtain ⟨hexponent, hfraction⟩ : exponentBits x = 0 ∧ fractionBits x = 0 := by
    simpa [isZero] using hz
  have hexact : exact x = ⟨isNegative x, 0, -1074⟩ := by simp [exact, hexponent, hfraction]
  rw [integer?, isFinite_of_isZero hz, hexact]
  simp only [Nat.zero_mod, Nat.zero_div]
  simp

/-- The double of an integer below `2 ^ 53` is the number that it is the integer of. -/
theorem ofInteger_eq (h : integer? x = some n) (hz : isZero x = false) (hn : n.natAbs < 2 ^ 53)
    (hx : isFinite x = true) : Cell.ofInteger n = x := by
  obtain ⟨hvalue, hsign⟩ := exact_of_integer? h
  have hc := canonical_exact hx hz
  have hpos : (0 : ℚ) < n.natAbs := hvalue ▸ mul_pos (by exact_mod_cast hc.pos) (by positivity)
  have hpos : 0 < n.natAbs := by exact_mod_cast hpos
  have hfloat : (UInt64.ofNat n.natAbs).toFloat = ofCanonical hc := toFloat_eq hc (by omega) hvalue
  rw [Cell.ofInteger, hfloat]
  cases hneg : isNegative x with
  | true =>
    rw [hneg, if_pos rfl] at hsign
    rw [if_pos (by omega), ofCanonical, neg_pack hc]
    refine Eq.trans ?_ (eq_pack_exact hx hz).symm
    rw [signOf, hneg]
    rfl
  | false =>
    rw [hneg, if_neg Bool.false_ne_true] at hsign
    rw [if_neg (by omega), ofCanonical]
    refine Eq.trans ?_ (eq_pack_exact hx hz).symm
    rw [signOf, hneg]
    rfl

end

/-- The parts of a number that is put together from mantissa and exponent. -/
theorem exact_ofCanonical {m : ℕ} {e : ℤ} (hc : Canonical m e) :
    exact (ofCanonical hc) = ⟨false, m, e⟩ := by
  have hx : isFinite (ofCanonical hc) = true := isFinite_pack hc .positive
  have hunpack : (ofCanonical hc).toModel.unpack = .finite .positive m e hc.pos :=
    unpack_pack hc .positive
  have hz : isZero (ofCanonical hc) = false := by
    rw [Bool.eq_false_iff]
    intro hz
    rw [unpack_eq_zero hz] at hunpack
    cases hunpack
  rw [unpack_eq hx hz] at hunpack
  injection hunpack with hsign hm he
  have hneg : isNegative (ofCanonical hc) = false := by
    rw [signOf] at hsign
    split at hsign
    · cases hsign
    · next h => exact Bool.eq_false_iff.2 h
  calc exact (ofCanonical hc)
      = ⟨(exact (ofCanonical hc)).negative, (exact (ofCanonical hc)).mantissa,
          (exact (ofCanonical hc)).exponent⟩ := rfl
    _ = ⟨false, m, e⟩ := by rw [exact_negative, hneg, hm, he]

/-- A number of units below `2 ^ 53` is a double from which it can be read. -/
theorem integer?_toFloat {n : ℕ} (hn : n < 2 ^ 53) :
    integer? (UInt64.ofNat n).toFloat = some (n : ℤ) := by
  obtain rfl | hpos := Nat.eq_zero_or_pos n
  · decide +kernel
  · obtain ⟨m, e, hc, hvalue, -⟩ := exists_canonical hpos hn
    have hfloat : (UInt64.ofNat n).toFloat = ofCanonical hc :=
      toFloat_eq hc (lt_trans hn (by decide)) hvalue
    have hfinite : isFinite (ofCanonical hc) = true := isFinite_pack hc .positive
    rw [hfloat, integer?, hfinite, exact_ofCanonical hc]
    dsimp only
    by_cases he : 0 ≤ e
    · have hmul : m * Nat.pow 2 e.toNat = n := by
        have : ((m * Nat.pow 2 e.toNat : ℕ) : ℚ) = n := by
          rw [Nat.cast_mul, cast_pow_toNat 2 he]
          exact hvalue
        exact_mod_cast this
      rw [if_pos he, hmul]
      rfl
    · have hmul : m = n * Nat.pow 2 (-e).toNat := by
        have : (m : ℚ) = ((n * Nat.pow 2 (-e).toNat : ℕ) : ℚ) := by
          rw [Nat.cast_mul, cast_pow_toNat 2 (by omega), ← hvalue, zpow_neg, Nat.cast_two]
          exact (mul_inv_cancel_right₀ (by positivity) _).symm
        exact_mod_cast this
      have hpow : 0 < Nat.pow 2 (-e).toNat := Nat.pow_pos (by decide)
      rw [if_neg he, hmul, Nat.mul_mod_left, if_pos rfl, Nat.mul_div_cancel _ hpow]
      rfl

end Number

/-! ## Cells -/

namespace Cell

mutual

/-- All numbers are finite, and there are no moments. -/
def Plain : Cell → Prop
  | null => True
  | bool _ => True
  | number x => Number.isFinite x = true
  | text _ => True
  | moment _ => False
  | list items => PlainItems items
  | record fields => PlainFields fields

/-- `Plain` over the items of a list. -/
def PlainItems : List Cell → Prop
  | [] => True
  | c :: rest => c.Plain ∧ PlainItems rest

/-- `Plain` over the fields of a record. -/
def PlainFields : List (String × Cell) → Prop
  | [] => True
  | (_, c) :: rest => c.Plain ∧ PlainFields rest

end

/-- Fields are plain if each value is. -/
theorem plainFields_iff {fields : List (String × Cell)} :
    PlainFields fields ↔ ∀ f ∈ fields, f.2.Plain := by
  induction fields with
  | nil => simp [PlainFields]
  | cons f rest ih => rw [PlainFields, ih, List.forall_mem_cons]

/-- Fields are written one by one. -/
theorem fieldsJson_eq_map (fields : List (String × Cell)) :
    fieldsJson fields = fields.map fun f => (f.1, f.2.toJson) := by
  induction fields with
  | nil => rfl
  | cons f rest ih => rw [fieldsJson, ih, List.map_cons]

/-- Fields are read one by one. -/
theorem ofFields_eq_map (fields : List (String × Json)) :
    ofFields fields = fields.map fun f => (f.1, ofJson f.2) := by
  induction fields with
  | nil => rfl
  | cons f rest ih => rw [ofFields, ih, List.map_cons]

/-- The JSON of a zero. -/
theorem numberJson_of_isZero {x : Float} (hz : Number.isZero x = true) :
    numberJson x = .integer 0 := by
  rw [numberJson, Number.integer?_of_isZero hz]
  rfl

/-- Of a finite number only the sign of zero is lost in JSON. -/
theorem ofJson_numberJson {x : Float} (hx : Number.isFinite x = true) :
    ofJson (numberJson x) = number (if Number.isZero x then 0 else x) := by
  cases hz : Number.isZero x with
  | true =>
    rw [numberJson_of_isZero hz]
    rfl
  | false =>
    rw [if_neg Bool.false_ne_true, numberJson]
    split
    · next n hinteger =>
      split
      · next hn => exact congrArg number (Number.ofInteger_eq hinteger hz hn hx)
      · rfl
    · rw [if_pos hx]
      rfl

/-- A finite number is equal to the one that its JSON stands for. -/
theorem same_number {x : Float} (hx : Number.isFinite x = true) :
    same (number x) (ofJson (numberJson x)) = true := by
  rw [ofJson_numberJson hx]
  show (x == if Number.isZero x then 0 else x) = true
  split_ifs with hz
  · have hzero := Number.isZero_zero
    exact (Number.beq_iff hx (Number.isFinite_of_isZero hzero)).2 (.inr ⟨hz, hzero⟩)
  · exact (Number.beq_iff hx hx).2 (.inl rfl)

/-- A number that is not finite is written as null. -/
theorem numberJson_of_not_isFinite {x : Float} (hx : Number.isFinite x = false) :
    numberJson x = .null := by
  simp [numberJson, Number.integer?, hx]

/-- The number that a number's JSON stands for has the same JSON. -/
theorem toJson_ofJson_numberJson (x : Float) : (ofJson (numberJson x)).toJson = numberJson x := by
  cases hx : Number.isFinite x with
  | true =>
    rw [ofJson_numberJson hx, toJson]
    split_ifs with hz
    · exact (numberJson_of_isZero Number.isZero_zero).trans (numberJson_of_isZero hz).symm
    · rfl
  | false =>
    rw [numberJson_of_not_isFinite hx]
    rfl

mutual

/-- A plain cell is equal to the one that its JSON stands for. -/
theorem same_ofJson_toJson : ∀ {c : Cell}, c.Plain → same c (ofJson c.toJson) = true
  | null, _ => rfl
  | bool b, _ => beq_self_eq_true b
  | number _, h => same_number h
  | text s, _ => beq_self_eq_true s
  | moment _, h => h.elim
  | list _, h => sameItems_ofItems h
  | record _, h => sameFields_ofFields h

/-- Plain items are read back as the same items. -/
theorem sameItems_ofItems : ∀ {items : List Cell}, PlainItems items →
    sameItems items (ofItems (itemsJson items)) = true
  | [], _ => rfl
  | _ :: _, h => Bool.and_eq_true_iff.2 ⟨same_ofJson_toJson h.1, sameItems_ofItems h.2⟩

/-- Plain fields are read back as the same fields. -/
theorem sameFields_ofFields : ∀ {fields : List (String × Cell)}, PlainFields fields →
    sameFields fields (ofFields (fieldsJson fields)) = true
  | [], _ => rfl
  | (name, _) :: _, h => Bool.and_eq_true_iff.2
    ⟨Bool.and_eq_true_iff.2 ⟨beq_self_eq_true name, same_ofJson_toJson h.1⟩,
      sameFields_ofFields h.2⟩

end

/-! ## Reading back twice -/

mutual

/-- A cell with the positive zero in place of both zeros. -/
def positiveZeros : Cell → Cell
  | number x => number (if Number.isZero x then 0 else x)
  | list items => list (positiveZerosItems items)
  | record fields => record (positiveZerosFields fields)
  | c => c

/-- `positiveZeros` over the items of a list. -/
def positiveZerosItems : List Cell → List Cell
  | [] => []
  | c :: rest => c.positiveZeros :: positiveZerosItems rest

/-- `positiveZeros` over the fields of a record. -/
def positiveZerosFields : List (String × Cell) → List (String × Cell)
  | [] => []
  | (name, c) :: rest => (name, c.positiveZeros) :: positiveZerosFields rest

end

mutual

/-- What the JSON of a cell stands for has the same JSON. -/
theorem toJson_ofJson_toJson : ∀ c : Cell, (ofJson c.toJson).toJson = c.toJson
  | null | bool _ | text _ | moment _ => rfl
  | number x => toJson_ofJson_numberJson x
  | list items => congrArg Json.array (itemsJson_ofItems_itemsJson items)
  | record fields => congrArg Json.object (fieldsJson_ofFields_fieldsJson fields)

/-- Items that have been read back are written as before. -/
theorem itemsJson_ofItems_itemsJson : ∀ items : List Cell,
    itemsJson (ofItems (itemsJson items)) = itemsJson items
  | [] => rfl
  | c :: rest => congrArg₂ List.cons (toJson_ofJson_toJson c) (itemsJson_ofItems_itemsJson rest)

/-- Fields that have been read back are written as before. -/
theorem fieldsJson_ofFields_fieldsJson : ∀ fields : List (String × Cell),
    fieldsJson (ofFields (fieldsJson fields)) = fieldsJson fields
  | [] => rfl
  | (name, c) :: rest =>
    congrArg₂ (fun j fields => (name, j) :: fields) (toJson_ofJson_toJson c)
      (fieldsJson_ofFields_fieldsJson rest)

end

mutual

/-- The cells that are read back from JSON, but for the sign of zero, are the plain ones. -/
theorem ofJson_toJson_eq_iff : ∀ c : Cell, ofJson c.toJson = c.positiveZeros ↔ c.Plain
  | null | bool _ | text _ => iff_of_true rfl trivial
  | moment _ => iff_of_false (by simp [toJson, ofJson, positiveZeros]) id
  | number x => by
    rw [toJson, positiveZeros, Plain]
    cases hx : Number.isFinite x with
    | true => exact iff_of_true (ofJson_numberJson hx) rfl
    | false =>
      rw [numberJson_of_not_isFinite hx]
      exact iff_of_false (by simp [ofJson]) Bool.false_ne_true
  | list items => by
    rw [toJson, ofJson, positiveZeros, Plain, ← ofItems_itemsJson_eq_iff, list.injEq]
  | record fields => by
    rw [toJson, ofJson, positiveZeros, Plain, ← ofFields_fieldsJson_eq_iff, record.injEq]

/-- Items are read back up to the signs of zeros exactly if they are plain. -/
theorem ofItems_itemsJson_eq_iff : ∀ items : List Cell,
    ofItems (itemsJson items) = positiveZerosItems items ↔ PlainItems items
  | [] => iff_of_true rfl trivial
  | c :: rest => by
    rw [itemsJson, ofItems, positiveZerosItems, PlainItems, ← ofJson_toJson_eq_iff,
      ← ofItems_itemsJson_eq_iff, List.cons.injEq]

/-- Fields are read back up to the signs of zeros exactly if they are plain. -/
theorem ofFields_fieldsJson_eq_iff : ∀ fields : List (String × Cell),
    ofFields (fieldsJson fields) = positiveZerosFields fields ↔ PlainFields fields
  | [] => iff_of_true rfl trivial
  | (name, c) :: rest => by
    rw [fieldsJson, ofFields, positiveZerosFields, PlainFields, ← ofJson_toJson_eq_iff,
      ← ofFields_fieldsJson_eq_iff, List.cons.injEq, Prod.mk.injEq, eq_self, true_and]

end

/-- The JSON of a cell is that of the cell that it stands for, and this is the cell itself, with the
positive zero for both zeros, exactly if the cell is plain. -/
theorem json_roundTrip (c : Cell) :
    (ofJson c.toJson).toJson = c.toJson ∧ (ofJson c.toJson = c.positiveZeros ↔ c.Plain) :=
  ⟨toJson_ofJson_toJson c, ofJson_toJson_eq_iff c⟩

end Cell

end RowAudit
