import Mathlib.Data.List.Infix
import RowAudit.Text.Case

/-!
# Lowering a text and its parts

A text is lowered as a whole, and what stands around a part of it can show in the part: a capital
sigma goes to the final form when a letter comes before it and none comes after. `lowerIn` lowers a
part between the texts around it; of these it sees only whether they meet a cased letter
(`lowerIn_congr`). A part whose lowering depends on neither side is lowered by itself
(`lowerIn_eq_lowerAfter`), so its lower-case form is in that of the whole; the lower-case form of a
part that does depend on a side is not in that of the whole once a letter stands there
(`not_infix_of_dependsOnBefore`, `not_infix_of_dependsOnAfter`).
-/

namespace RowAudit.Text

variable {b b' a a' s xs ys : List Char} {c : Char}

/-! ## Looking for a cased letter -/

/-- A capital sigma is not looked through. -/
@[simp]
theorem isCaseIgnorable_capitalSigma : isCaseIgnorable capitalSigma = false := by decide +kernel

/-- A capital sigma is a letter with case. -/
@[simp]
theorem isCased_capitalSigma : isCased capitalSigma = true := by decide +kernel

/-- The first character that is not looked through decides. -/
theorem meetsCased_cons (c : Char) (cs : List Char) :
    meetsCased (c :: cs) = if isCaseIgnorable c then meetsCased cs else isCased c := by
  cases hc : isCaseIgnorable c <;> simp [meetsCased, hc]

/-- What a text meets from behind `xs` depends on what it meets from the end of `xs`. -/
theorem meetsCased_append_congr (xs : List Char) (h : meetsCased b = meetsCased b') :
    meetsCased (xs ++ b) = meetsCased (xs ++ b') := by
  induction xs with
  | nil => exact h
  | cons c xs ih => rw [List.cons_append, List.cons_append, meetsCased_cons, meetsCased_cons, ih]

/-- A character that is not looked through decides. -/
theorem meetsCased_of_not_ignorable (hc : isCaseIgnorable c = false) (xs : List Char) :
    meetsCased (c :: xs) = isCased c := by
  simp [meetsCased_cons, hc]

/-- A letter that is met is met before whatever follows. -/
theorem meetsCased_append_of_meetsCased (h : meetsCased xs = true) (ys : List Char) :
    meetsCased (xs ++ ys) = true := by
  induction xs with
  | nil => cases h
  | cons c xs ih =>
    rw [meetsCased_cons] at h
    rw [List.cons_append, meetsCased_cons]
    split_ifs with hc
    · rw [if_pos hc] at h
      exact ih h
    · rwa [if_neg hc] at h

/-- Characters that are looked through do not change what is met behind them. -/
theorem meetsCased_append_of_all (hx : ∀ c ∈ xs, isCaseIgnorable c = true) (ys : List Char) :
    meetsCased (xs ++ ys) = meetsCased ys := by
  induction xs with
  | nil => rfl
  | cons c xs ih =>
    rw [List.cons_append, meetsCased_cons, if_pos (hx c List.mem_cons_self)]
    exact ih fun d hd => hx d (List.mem_cons_of_mem c hd)

/-- Among characters that are all looked through no letter is met. -/
theorem meetsCased_of_all (hx : ∀ c ∈ xs, isCaseIgnorable c = true) : meetsCased xs = false := by
  rw [← List.append_nil xs, meetsCased_append_of_all hx]
  rfl

/-! ## Lowering between other texts -/

/-- The small sigma inside a word. -/
def innerSigma : Char := Char.ofNat 0x3C3

/-- The small sigma at the end of a word. -/
def finalSigma : Char := Char.ofNat 0x3C2

/-- The lower-case form of a character between the texts around it, the one before it in reverse. -/
def lowerAt (before after : List Char) (c : Char) : List Char :=
  if c == capitalSigma then
    [if meetsCased before && !meetsCased after then finalSigma else innerSigma]
  else lowerChar c

/-- The lower-case form of a part of a text between the texts around it, the one before it in
reverse. -/
def lowerIn (before after : List Char) : List Char → List Char
  | [] => []
  | c :: rest => lowerAt before (rest ++ after) c ++ lowerIn (c :: before) after rest

/-- A text is a part of itself. -/
theorem lowerAfter_eq_lowerIn (before cs : List Char) :
    lowerAfter before cs = lowerIn before [] cs := by
  induction cs generalizing before with
  | nil => rfl
  | cons c cs ih =>
    rw [lowerAfter, lowerIn, lowerAt, List.append_nil, ih]
    split_ifs <;> rfl

/-- The lower-case form of any other character does not depend on the texts around it. -/
theorem lowerAt_of_ne (hc : c ≠ capitalSigma) (before after : List Char) :
    lowerAt before after c = lowerChar c := by
  rw [lowerAt, if_neg (by simpa using hc)]

/-- A capital sigma becomes a final one behind a letter if no letter comes after it. -/
theorem lowerAt_capitalSigma (before after : List Char) :
    lowerAt before after capitalSigma =
      [if meetsCased before && !meetsCased after then finalSigma else innerSigma] := by
  rw [lowerAt, if_pos (beq_self_eq_true _)]

/-- What is looked through is no capital sigma. -/
theorem ne_capitalSigma (hc : isCaseIgnorable c = true) : c ≠ capitalSigma := by
  rintro rfl
  simp at hc

/-- Lowering a text lowers its parts. -/
theorem lowerIn_append (before after xs ys : List Char) :
    lowerIn before after (xs ++ ys) =
      lowerIn before (ys ++ after) xs ++ lowerIn (xs.reverse ++ before) after ys := by
  induction xs generalizing before with
  | nil => rfl
  | cons c xs ih =>
    simp only [List.cons_append, lowerIn, ih, List.append_assoc, List.reverse_cons, List.nil_append]

/-- Of the texts around a part lowering sees only whether they meet a cased letter. -/
theorem lowerIn_congr (hb : meetsCased b = meetsCased b') (ha : meetsCased a = meetsCased a')
    (s : List Char) : lowerIn b a s = lowerIn b' a' s := by
  induction s generalizing b b' with
  | nil => rfl
  | cons c s ih =>
    have hrest : lowerIn (c :: b) a s = lowerIn (c :: b') a' s :=
      ih (meetsCased_append_congr [c] hb)
    rw [lowerIn, lowerIn, lowerAt, lowerAt, hb, meetsCased_append_congr s ha, hrest]

/-! ## Parts whose lowering depends on a side -/

/-- Whether the lower-case form of a text depends on what stands before it: the first character that
is not looked through is a capital sigma, and no letter comes after it. -/
def dependsOnBefore (s : List Char) : Bool :=
  match s.dropWhile isCaseIgnorable with
  | c :: after => c == capitalSigma && !meetsCased after
  | [] => false

/-- Whether the lower-case form of a text depends on what stands after it: the last character that
is not looked through is a capital sigma, and a letter comes before it. -/
def dependsOnAfter (s : List Char) : Bool :=
  match s.reverse.dropWhile isCaseIgnorable with
  | c :: before => c == capitalSigma && meetsCased before
  | [] => false

/-- Whether a text depends on what stands before it is decided by its first character that is not
looked through. -/
theorem dependsOnBefore_cons (c : Char) (s : List Char) :
    dependsOnBefore (c :: s) =
      if isCaseIgnorable c then dependsOnBefore s else c == capitalSigma && !meetsCased s := by
  cases hc : isCaseIgnorable c <;> simp [dependsOnBefore, hc]

/-- Whether a text depends on what stands after it is decided by its last character that is not
looked through. -/
theorem dependsOnAfter_append_singleton (s : List Char) (c : Char) :
    dependsOnAfter (s ++ [c]) =
      if isCaseIgnorable c then dependsOnAfter s
      else c == capitalSigma && meetsCased s.reverse := by
  cases hc : isCaseIgnorable c <;> simp [dependsOnAfter, hc]

/-- A text that does not depend on what stands before it is lowered the same after any text. -/
theorem lowerIn_before (h : dependsOnBefore s = false) (b b' a : List Char) :
    lowerIn b a s = lowerIn b' a s := by
  induction s generalizing b b' with
  | nil => rfl
  | cons c s ih =>
    rw [dependsOnBefore_cons] at h
    rw [lowerIn, lowerIn]
    cases hc : isCaseIgnorable c with
    | true =>
      rw [if_pos hc] at h
      rw [lowerAt_of_ne (ne_capitalSigma hc), lowerAt_of_ne (ne_capitalSigma hc), ih h]
    | false =>
      -- from here on every character sees `c` before it
      have hrest : lowerIn (c :: b) a s = lowerIn (c :: b') a s := by
        refine lowerIn_congr ?_ rfl s
        rw [meetsCased_of_not_ignorable hc, meetsCased_of_not_ignorable hc]
      rw [hrest]
      by_cases hsigma : c = capitalSigma
      · subst hsigma
        have hs : meetsCased s = true := by simpa using h
        simp [lowerAt_capitalSigma, meetsCased_append_of_meetsCased hs]
      · rw [lowerAt_of_ne hsigma, lowerAt_of_ne hsigma]

/-- A text that does not depend on what stands after it is lowered the same before any text, if
nothing stands before it. -/
theorem lowerIn_after (h : dependsOnAfter s = false) (a a' : List Char) :
    lowerIn [] a s = lowerIn [] a' s := by
  induction s using List.reverseRecOn generalizing a a' with
  | nil => rfl
  | append_singleton s c ih =>
    rw [dependsOnAfter_append_singleton] at h
    rw [lowerIn_append, lowerIn_append]
    simp only [lowerIn, List.nil_append, List.append_nil, List.singleton_append]
    cases hc : isCaseIgnorable c with
    | true =>
      rw [if_pos hc] at h
      rw [lowerAt_of_ne (ne_capitalSigma hc), lowerAt_of_ne (ne_capitalSigma hc), ih h]
    | false =>
      have hinit : lowerIn [] (c :: a) s = lowerIn [] (c :: a') s := by
        refine lowerIn_congr rfl ?_ s
        rw [meetsCased_of_not_ignorable hc, meetsCased_of_not_ignorable hc]
      rw [hinit]
      by_cases hsigma : c = capitalSigma
      · subst hsigma
        have hs : meetsCased s.reverse = false := by simpa using h
        simp [lowerAt_capitalSigma, hs]
      · rw [lowerAt_of_ne hsigma, lowerAt_of_ne hsigma]

/-- A part that depends on no side where something stands is lowered as it is by itself. -/
theorem lowerIn_eq_lowerAfter (hb : b ≠ [] → dependsOnBefore s = false)
    (ha : a ≠ [] → dependsOnAfter s = false) : lowerIn b a s = lowerAfter [] s := by
  have hbefore : lowerIn b a s = lowerIn [] a s := by
    by_cases hnil : b = []
    · rw [hnil]
    · exact lowerIn_before (hb hnil) b [] a
  have hafter : lowerIn [] a s = lowerIn [] [] s := by
    by_cases hnil : a = []
    · rw [hnil]
    · exact lowerIn_after (ha hnil) a []
  rw [hbefore, hafter, lowerAfter_eq_lowerIn]

/-- The lower-case form of a whole holds that of such a part, with nothing around it on a side where
nothing stands. -/
theorem exists_lowerAfter_append (hb : b ≠ [] → dependsOnBefore s = false)
    (ha : a ≠ [] → dependsOnAfter s = false) :
    ∃ b' a', lowerAfter [] (b ++ s ++ a) = b' ++ lowerAfter [] s ++ a' ∧
      (b = [] → b' = []) ∧ (a = [] → a' = []) := by
  refine ⟨lowerIn [] (s ++ a) b, lowerIn ((b ++ s).reverse) [] a, ?_, ?_, ?_⟩
  · have hpart : lowerIn b.reverse a s = lowerAfter [] s := by
      refine lowerIn_eq_lowerAfter (fun hne => hb ?_) ha
      simpa using hne
    rw [lowerAfter_eq_lowerIn, lowerIn_append, lowerIn_append]
    simp [hpart]
  · rintro rfl
    rfl
  · rintro rfl
    rfl

/-! ## Parts that a letter changes -/

/-- Where a text that depends on what stands before it holds its capital sigma. -/
theorem exists_of_dependsOnBefore (h : dependsOnBefore s = true) :
    ∃ u w, s = u ++ capitalSigma :: w ∧ (∀ c ∈ u, isCaseIgnorable c = true) ∧
      meetsCased w = false := by
  induction s with
  | nil => cases h
  | cons c s ih =>
    rw [dependsOnBefore_cons] at h
    cases hc : isCaseIgnorable c with
    | true =>
      rw [if_pos hc] at h
      obtain ⟨u, w, rfl, hu, hw⟩ := ih h
      exact ⟨c :: u, w, rfl, by simpa [hc] using hu, hw⟩
    | false =>
      simp only [hc, Bool.false_eq_true, if_false, Bool.and_eq_true, beq_iff_eq,
        Bool.not_eq_true'] at h
      obtain ⟨rfl, hs⟩ := h
      exact ⟨[], s, rfl, by simp, hs⟩

/-- Where a text that depends on what stands after it holds its capital sigma. -/
theorem exists_of_dependsOnAfter (h : dependsOnAfter s = true) :
    ∃ u w, s = u ++ capitalSigma :: w ∧ meetsCased u.reverse = true ∧
      ∀ c ∈ w, isCaseIgnorable c = true := by
  induction s using List.reverseRecOn with
  | nil => cases h
  | append_singleton s c ih =>
    rw [dependsOnAfter_append_singleton] at h
    cases hc : isCaseIgnorable c with
    | true =>
      rw [if_pos hc] at h
      obtain ⟨u, w, rfl, hu, hw⟩ := ih h
      refine ⟨u, w ++ [c], by simp, hu, ?_⟩
      intro d hd
      rcases List.mem_append.1 hd with hd | hd
      · exact hw d hd
      · rwa [List.mem_singleton.1 hd]
    | false =>
      simp only [hc, Bool.false_eq_true, if_false, Bool.and_eq_true, beq_iff_eq] at h
      obtain ⟨rfl, hs⟩ := h
      exact ⟨s, [], rfl, hs, by simp⟩

/-- Characters that are looked through are lowered the same between any texts. -/
theorem lowerIn_of_all (hs : ∀ c ∈ s, isCaseIgnorable c = true) (b b' a a' : List Char) :
    lowerIn b a s = lowerIn b' a' s := by
  induction s generalizing b b' with
  | nil => rfl
  | cons c s ih =>
    have hc : c ≠ capitalSigma := ne_capitalSigma (hs c List.mem_cons_self)
    rw [lowerIn, lowerIn, lowerAt_of_ne hc, lowerAt_of_ne hc,
      ih fun d hd => hs d (List.mem_cons_of_mem c hd)]

/-- The lower-case form of a text around one of its capital sigmas. -/
theorem lowerIn_sigma (before after u w : List Char) :
    lowerIn before after (u ++ capitalSigma :: w) =
      lowerIn before (capitalSigma :: w ++ after) u ++
        (if meetsCased (u.reverse ++ before) && !meetsCased (w ++ after) then finalSigma
          else innerSigma) ::
        lowerIn (capitalSigma :: (u.reverse ++ before)) after w := by
  rw [lowerIn_append, lowerIn, lowerAt_capitalSigma]
  rfl

/-- A character put in place of another one is missed in the longer text. -/
theorem not_infix_of_replaced {c d : Char} (hcd : c ≠ d) {front back : List Char}
    (hfront : c ∉ front) (hback : c ∉ back) (xs ys : List Char) :
    ¬ xs ++ c :: ys <:+: front ++ (xs ++ d :: ys) ++ back := by
  intro h
  have hcount := h.sublist.count_le c
  simp only [List.count_append, List.count_cons_self, List.count_cons_of_ne hcd.symm,
    List.count_eq_zero.2 hfront, List.count_eq_zero.2 hback] at hcount
  omega

/-- The letter a is its own lower-case form. -/
theorem lowerAt_letter (before after : List Char) : lowerAt before after 'a' = ['a'] := by
  rw [lowerAt_of_ne (by decide)]
  rfl

/-- A letter before a text that depends on what stands there makes a sigma of it final. -/
theorem not_infix_of_dependsOnBefore (h : dependsOnBefore s = true) :
    ¬ lowerAfter [] s <:+: lowerAfter [] ('a' :: s) := by
  obtain ⟨u, w, rfl, hu, hw⟩ := exists_of_dependsOnBefore h
  have hreverse : ∀ c ∈ u.reverse, isCaseIgnorable c = true := by simpa using hu
  have hletter : meetsCased (u.reverse ++ ['a']) = true := by
    rw [meetsCased_append_of_all hreverse]
    decide +kernel
  -- the sigma has no letter before it by itself, and ends the word after the letter
  let front := lowerIn [] (capitalSigma :: w) u
  let back := lowerIn (capitalSigma :: u.reverse) [] w
  have halone : lowerAfter [] (u ++ capitalSigma :: w) = front ++ innerSigma :: back := by
    simp [front, back, lowerAfter_eq_lowerIn, lowerIn_sigma, meetsCased_of_all hreverse]
  have hwhole : lowerAfter [] ('a' :: (u ++ capitalSigma :: w)) =
      'a' :: (front ++ finalSigma :: back) := by
    have hfront : lowerIn ['a'] (capitalSigma :: w) u = front := lowerIn_of_all hu _ _ _ _
    have hback : lowerIn (capitalSigma :: (u.reverse ++ ['a'])) [] w = back := by
      refine lowerIn_congr ?_ rfl w
      simp [meetsCased_of_not_ignorable]
    rw [lowerAfter_eq_lowerIn, lowerIn, lowerAt_letter, lowerIn_sigma, List.append_nil,
      List.append_nil, hfront, hback, hletter, hw]
    rfl
  have hmissed : ¬ front ++ innerSigma :: back <:+: ['a'] ++ (front ++ finalSigma :: back) ++ [] :=
    not_infix_of_replaced (by decide) (by decide) (by decide) front back
  rw [halone, hwhole]
  simpa using hmissed

/-- A letter after a text that depends on what stands there makes a sigma of it an inner one. -/
theorem not_infix_of_dependsOnAfter (h : dependsOnAfter s = true) :
    ¬ lowerAfter [] s <:+: lowerAfter [] (s ++ ['a']) := by
  obtain ⟨u, w, rfl, hu, hw⟩ := exists_of_dependsOnAfter h
  have hletter : meetsCased (w ++ ['a']) = true := by
    rw [meetsCased_append_of_all hw]
    decide +kernel
  -- the sigma ends the word by itself, and does not before the letter
  let front := lowerIn [] (capitalSigma :: w) u
  let back := lowerIn (capitalSigma :: u.reverse) [] w
  have halone : lowerAfter [] (u ++ capitalSigma :: w) = front ++ finalSigma :: back := by
    simp [front, back, lowerAfter_eq_lowerIn, lowerIn_sigma, hu, meetsCased_of_all hw]
  have hwhole : lowerAfter [] (u ++ capitalSigma :: w ++ ['a']) =
      (front ++ innerSigma :: back) ++ ['a'] := by
    have hfront : lowerIn [] (capitalSigma :: (w ++ ['a'])) u = front := by
      refine lowerIn_congr rfl ?_ u
      simp [meetsCased_of_not_ignorable]
    have hback : lowerIn (capitalSigma :: u.reverse) ['a'] w = back := lowerIn_of_all hw _ _ _ _
    rw [lowerAfter_eq_lowerIn, lowerIn_append, lowerIn_sigma]
    simp [lowerIn, lowerAt_letter, hfront, hback, hletter]
  have hmissed : ¬ front ++ finalSigma :: back <:+: [] ++ (front ++ innerSigma :: back) ++ ['a'] :=
    not_infix_of_replaced (by decide) (by decide) (by decide) front back
  rw [halone, hwhole]
  simpa using hmissed

end RowAudit.Text
