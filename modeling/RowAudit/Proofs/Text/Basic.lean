import RowAudit.Text.Basic

/-!
# Characters and the ends of texts

Which characters digits are, of which texts nothing is trimmed off, and how many bytes a text takes
at least.
-/

namespace RowAudit.Text

/-- The code points of digits. -/
theorem isAsciiDigit_iff {c : Char} : isAsciiDigit c = true ↔ 48 ≤ c.toNat ∧ c.toNat ≤ 57 := by
  rw [isAsciiDigit, Bool.and_eq_true, decide_eq_true_eq, decide_eq_true_eq, Char.le_def,
    Char.le_def, UInt32.le_iff_toNat_le, UInt32.le_iff_toNat_le]
  rfl

/-- A digit is one of ten characters. -/
theorem exists_ofNat_of_isAsciiDigit {c : Char} (hc : isAsciiDigit c = true) :
    ∃ n ∈ List.range' 48 10, c = Char.ofNat n := by
  obtain ⟨hlow, hhigh⟩ := isAsciiDigit_iff.1 hc
  exact ⟨c.toNat, List.mem_range'_1.2 ⟨hlow, by omega⟩, (Char.ofNat_toNat c).symm⟩

/-- No digit is white space. -/
theorem isBlank_of_isAsciiDigit {c : Char} (hc : isAsciiDigit c = true) : isBlank c = false := by
  obtain ⟨n, hn, rfl⟩ := exists_ofNat_of_isAsciiDigit hc
  have hall : ∀ n ∈ List.range' 48 10, isBlank (Char.ofNat n) = false := by decide
  exact hall n hn

/-- Nothing is trimmed off characters that start and end with no white space. -/
theorem trimChars_eq_self {cs : List Char} (hfirst : ∀ c ∈ cs.head?, isBlank c = false)
    (hlast : ∀ c ∈ cs.getLast?, isBlank c = false) : trimChars cs = cs := by
  have hdrop {cs : List Char} (h : ∀ c ∈ cs.head?, isBlank c = false) :
      cs.dropWhile isBlank = cs := by
    cases cs with
    | nil => rfl
    | cons c cs => rw [List.dropWhile_cons, h c rfl, if_neg Bool.false_ne_true]
  rw [trimChars, dropBlanks, hdrop hfirst, dropBlanksRight, hdrop, List.reverse_reverse]
  rwa [List.head?_reverse]

/-- Trimming keeps a character in front that is no white space. -/
theorem exists_trimChars_cons {c : Char} (hc : isBlank c = false) (cs : List Char) :
    ∃ rest, trimChars (c :: cs) = c :: rest := by
  have hdrop : dropBlanks (c :: cs) = c :: cs := by
    rw [dropBlanks, List.dropWhile_cons, hc, if_neg Bool.false_ne_true]
  have hlast : [c].dropWhile isBlank = [c] := by
    rw [List.dropWhile_cons, hc, if_neg Bool.false_ne_true]
  rw [trimChars, hdrop, dropBlanksRight, List.reverse_cons, List.dropWhile_append, hlast]
  split
  · exact ⟨[], rfl⟩
  · rw [List.reverse_append]
    exact ⟨_, rfl⟩

/-- White space in front is dropped and nothing else. -/
theorem exists_dropBlanks_eq (cs : List Char) :
    ∃ blanks, cs = blanks ++ dropBlanks cs ∧ blanks.all isBlank = true :=
  ⟨cs.takeWhile isBlank, List.takeWhile_append_dropWhile.symm, List.all_takeWhile⟩

/-- White space at the end is dropped and nothing else. -/
theorem exists_dropBlanksRight_eq (cs : List Char) :
    ∃ blanks, cs = dropBlanksRight cs ++ blanks ∧ blanks.all isBlank = true := by
  obtain ⟨blanks, hcs, hblanks⟩ := exists_dropBlanks_eq cs.reverse
  refine ⟨blanks.reverse, ?_, by rwa [List.all_reverse]⟩
  have hreverse := congrArg List.reverse hcs
  rwa [List.reverse_reverse, List.reverse_append] at hreverse

/-- Nothing blank is left at the end. -/
theorem isBlank_getLast?_dropBlanksRight {cs : List Char} {c : Char}
    (hc : c ∈ (dropBlanksRight cs).getLast?) : isBlank c = false := by
  have hnot := List.head?_dropWhile_not isBlank cs.reverse
  rw [dropBlanksRight, List.getLast?_reverse] at hc
  rw [Option.mem_def.1 hc] at hnot
  exact hnot

/-! ## Bytes -/

@[simp] theorem byteLength_nil : byteLength [] = 0 := rfl

@[simp] theorem byteLength_cons (c : Char) (cs : List Char) :
    byteLength (c :: cs) = c.utf8Size + byteLength cs := by
  have hfold (cs : List Char) (start : Nat) :
      cs.foldl (fun n c => n + c.utf8Size) start = start + byteLength cs := by
    induction cs generalizing start with
    | nil => rfl
    | cons c cs ih =>
      rw [byteLength, List.foldl_cons, List.foldl_cons, ih, ih (0 + c.utf8Size)]
      omega
  rw [byteLength, List.foldl_cons, hfold, Nat.zero_add]

@[simp] theorem byteLength_append (cs ds : List Char) :
    byteLength (cs ++ ds) = byteLength cs + byteLength ds := by
  induction cs with
  | nil => simp
  | cons c cs ih => rw [List.cons_append, byteLength_cons, byteLength_cons, ih, Nat.add_assoc]

/-- A character takes a byte or more. -/
theorem length_le_byteLength (cs : List Char) : cs.length ≤ byteLength cs := by
  induction cs with
  | nil => exact Nat.le_refl _
  | cons c cs ih =>
    have hsize := c.utf8Size_pos
    rw [List.length_cons, byteLength_cons]
    omega

end RowAudit.Text
