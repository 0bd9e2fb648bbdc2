import RowAudit.Text.Basic

/-!
# Cutting texts to a number of bytes

A text that is too long is cut at the last boundary up to the limit, which is looked for byte by
byte towards the start. The boundaries are the ends of the beginnings of the text
(`isBoundary_eq_true_iff`) and the search finds the last of them (`boundaryUpTo?_eq_some_iff`), so
that what is kept is the longest beginning that fits (`truncate_keeps_longest`).
-/

namespace RowAudit.Text

variable {s kept : String} {i j limit : Nat}

/-- The boundaries are the places where a beginning of the text ends. -/
theorem isBoundary_eq_true_iff :
    isBoundary s i = true ↔ ∃ first rest, s = first ++ rest ∧ first.utf8ByteSize = i := by
  rw [isBoundary_iff, String.Pos.Raw.isValid_iff_exists_append]
  constructor
  · rintro ⟨first, rest, hs, hi⟩
    exact ⟨first, rest, hs, (congrArg String.Pos.Raw.byteIdx hi).symm⟩
  · rintro ⟨first, rest, hs, rfl⟩
    exact ⟨first, rest, hs, rfl⟩

/-- The search for a boundary finds the last one up to the place where it starts. -/
theorem boundaryUpTo?_eq_some_iff :
    boundaryUpTo? s i = some j ↔
      j ≤ i ∧ isBoundary s j = true ∧ ∀ k ≤ i, isBoundary s k = true → k ≤ j := by
  induction i with
  | zero =>
    rw [boundaryUpTo?, if_pos (isBoundary_zero s), Option.some_inj]
    constructor
    · rintro rfl
      exact ⟨Nat.le_refl 0, isBoundary_zero s, fun k hk _ => hk⟩
    · rintro ⟨hj, -, -⟩
      exact (Nat.le_zero.1 hj).symm
  | succ i ih =>
    rw [boundaryUpTo?]
    split
    · next hhere =>
      rw [Option.some_inj]
      constructor
      · rintro rfl
        exact ⟨Nat.le_refl _, hhere, fun k hk _ => hk⟩
      · rintro ⟨hj, -, hlast⟩
        exact Nat.le_antisymm (hlast (i + 1) (Nat.le_refl _) hhere) hj
    · next hhere =>
      -- a boundary up to `i + 1` is one up to `i`
      have hbelow {k : Nat} (hk : isBoundary s k = true) : k ≤ i + 1 ↔ k ≤ i := by
        refine ⟨fun hle => ?_, Nat.le_succ_of_le⟩
        have hne : k ≠ i + 1 := fun heq => hhere (heq ▸ hk)
        omega
      rw [ih]
      constructor
      · rintro ⟨hj, hboundary, hlast⟩
        exact ⟨(hbelow hboundary).2 hj, hboundary, fun k hk h => hlast k ((hbelow h).1 hk) h⟩
      · rintro ⟨hj, hboundary, hlast⟩
        exact ⟨(hbelow hboundary).1 hj, hboundary, fun k hk h => hlast k ((hbelow h).2 hk) h⟩

/-- Cutting at the end of a beginning gives that beginning. -/
theorem textBefore?_append (first rest : String) :
    textBefore? (first ++ rest) first.utf8ByteSize = some first := by
  have hboundary : isBoundary (first ++ rest) first.utf8ByteSize = true :=
    isBoundary_eq_true_iff.2 ⟨first, rest, rfl, rfl⟩
  have hsplits : (⟨⟨first.utf8ByteSize⟩, isBoundary_iff.1 hboundary⟩ :
      (first ++ rest).Pos).Splits first rest := ⟨rfl, rfl⟩
  rw [textBefore?, dif_pos hboundary, (String.Pos.splits _).eq_left hsplits]

/-- What is kept is the longest beginning of the text that takes at most `limit` bytes. -/
structure LongestWithin (limit : Nat) (s kept : String) : Prop where
  begins : ∃ rest, s = kept ++ rest
  fits : kept.utf8ByteSize ≤ limit
  longest : ∀ other rest, s = other ++ rest → other.utf8ByteSize ≤ limit →
    other.utf8ByteSize ≤ kept.utf8ByteSize

/-- The longest beginning within a limit ends where the search from the limit does. -/
theorem exists_longestWithin (s : String) (limit : Nat) :
    ∃ kept, LongestWithin limit s kept ∧ boundaryUpTo? s limit = some kept.utf8ByteSize := by
  obtain ⟨j, hj, hboundary⟩ := exists_boundaryUpTo? s limit
  obtain ⟨kept, rest, hs, rfl⟩ := isBoundary_eq_true_iff.1 hboundary
  obtain ⟨hfits, -, hlast⟩ := boundaryUpTo?_eq_some_iff.1 hj
  refine ⟨kept, ⟨⟨rest, hs⟩, hfits, fun other more hother hsize => ?_⟩, hj⟩
  exact hlast other.utf8ByteSize hsize (isBoundary_eq_true_iff.2 ⟨other, more, hother, rfl⟩)

/-- A text within the limit stays as it is. Of a longer one the longest beginning within the limit
is kept, with a mark behind it: the search for its end stops at a boundary and not before the start,
and the text can be cut there. -/
theorem truncate_keeps_longest (s : String) (limit : Nat) :
    (s.utf8ByteSize ≤ limit → truncate? s limit = some s ∧ truncate s limit = s) ∧
    (limit < s.utf8ByteSize → ∃ kept, LongestWithin limit s kept ∧
      boundaryUpTo? s limit = some kept.utf8ByteSize ∧
      textBefore? s kept.utf8ByteSize = some kept ∧
      truncate? s limit = some (kept ++ "...(truncated)") ∧
      truncate s limit = kept ++ "...(truncated)") := by
  have htotal {t : String} (h : truncate? s limit = some t) : truncate s limit = t :=
    Option.get_of_eq_some (isSome_truncate? s limit) h
  constructor
  · intro hshort
    have hwhole : truncate? s limit = some s := if_pos hshort
    exact ⟨hwhole, htotal hwhole⟩
  · intro hlong
    obtain ⟨kept, hkept, hstop⟩ := exists_longestWithin s limit
    have hbefore : textBefore? s kept.utf8ByteSize = some kept := by
      obtain ⟨rest, hs⟩ := hkept.begins
      rw [hs]
      exact textBefore?_append kept rest
    have hcut : truncate? s limit = some (kept ++ "...(truncated)") := by
      rw [truncate?, if_neg (Nat.not_le.2 hlong), hstop, Option.bind_eq_bind, Option.bind_some,
        hbefore]
      rfl
    exact ⟨kept, hkept, hstop, hbefore, hcut, htotal hcut⟩

/-- A limit inside the first character. -/
theorem truncate_keeps_longest_accent :
    1 < "é".utf8ByteSize ∧ ∃ kept, LongestWithin 1 "é" kept ∧
      boundaryUpTo? "é" 1 = some kept.utf8ByteSize ∧
      textBefore? "é" kept.utf8ByteSize = some kept ∧
      truncate? "é" 1 = some (kept ++ "...(truncated)") ∧
      truncate "é" 1 = kept ++ "...(truncated)" :=
  ⟨by decide, (truncate_keeps_longest "é" 1).2 (by decide)⟩

example : truncate "é" 1 = "...(truncated)" := by decide

end RowAudit.Text
