import RowAudit.Aggregation.Compute

/-!
# What call sites determine

A call site can be read back: its parts are delimited, so that two aggregations have one call site
exactly if they have the same function, the same column, the same filter text, the same groups and
the same distinct column (`callSite_eq_iff`). The filter text is where the value of an aggregation
may get lost, since a list of conditions is written in the same way as the formula that spells it,
and the two need not select the same rows. Aggregations without conditions have a value that the
call site determines (`compute_eq_of_callSite_eq`).
-/

namespace RowAudit.Aggregation

/-- The text of the filter, unless the filter lets every row pass. -/
def filterText (a : Aggregation) : Option String :=
  (a.filter.filter fun f => !f.isEmpty).map Filter.source

/-- Whether the filter is a list of conditions, of which there are some. -/
def hasConditions (a : Aggregation) : Bool :=
  match a.filter with
  | some (.conditions cs _) => !cs.isEmpty
  | _ => false

/-! ## Delimited texts -/

/-- The form of a value can be told from what comes after it. -/
def Delimited {α : Type} (form : α → List Char) : Prop :=
  ∀ a b r s, form a ++ r = form b ++ s → a = b ∧ r = s

/-- The characters of a quoted text. -/
def quotedChars (s : String) : List Char := '"' :: s.toList.flatMap escapedChar ++ ['"']

/-- A quoted text is written with these characters. -/
theorem toList_quotedLiteral (s : String) : (quotedLiteral s).toList = quotedChars s := by
  simp [quotedLiteral, quotedChars]

/-- A character inside a quoted text has a backslash in front if it has a meaning of its own
there. -/
theorem escapedChar_cases (c : Char) :
    (escapedChar c = ['\\', c] ∧ (c = '\\' ∨ c = '"')) ∨
      (escapedChar c = [c] ∧ c ≠ '\\' ∧ c ≠ '"') := by
  unfold escapedChar
  by_cases hc : c = '\\' ∨ c = '"'
  · exact .inl ⟨if_pos (by simpa using hc), hc⟩
  · exact .inr ⟨if_neg (by simpa using hc), fun h => hc (.inl h), fun h => hc (.inr h)⟩

/-- A character inside a quoted text can be told from what comes after it. -/
theorem delimited_escapedChar : Delimited escapedChar := by
  intro a b r s h
  rcases escapedChar_cases a with ⟨ha, -⟩ | ⟨ha, haslash, -⟩ <;>
    rcases escapedChar_cases b with ⟨hb, -⟩ | ⟨hb, hbslash, -⟩ <;> rw [ha, hb] at h
  · simpa using h
  · exact absurd (List.head_eq_of_cons_eq h).symm hbslash
  · exact absurd (List.head_eq_of_cons_eq h) haslash
  · simpa using h

/-- No character inside a quoted text is read as its end. -/
theorem escapedChar_append_ne (c : Char) (r s : List Char) : escapedChar c ++ r ≠ '"' :: s := by
  intro h
  rcases escapedChar_cases c with ⟨hc, -⟩ | ⟨hc, -, hquote⟩ <;> rw [hc] at h
  · exact absurd (List.head_eq_of_cons_eq h) (by decide)
  · exact hquote (List.head_eq_of_cons_eq h)

/-- The end of a quoted text is its first quote that belongs to no character. -/
theorem flatMap_escapedChar_inj {cs ds r s : List Char}
    (h : cs.flatMap escapedChar ++ '"' :: r = ds.flatMap escapedChar ++ '"' :: s) :
    cs = ds ∧ r = s := by
  induction cs generalizing ds with
  | nil =>
    cases ds with
    | nil => exact ⟨rfl, List.tail_eq_of_cons_eq h⟩
    | cons d ds =>
      rw [List.flatMap_cons, List.append_assoc] at h
      exact absurd h.symm (escapedChar_append_ne d _ _)
  | cons c cs ih =>
    rw [List.flatMap_cons, List.append_assoc] at h
    cases ds with
    | nil => exact absurd h (escapedChar_append_ne c _ _)
    | cons d ds =>
      rw [List.flatMap_cons, List.append_assoc] at h
      obtain ⟨rfl, htail⟩ := delimited_escapedChar _ _ _ _ h
      obtain ⟨rfl, rfl⟩ := ih htail
      exact ⟨rfl, rfl⟩

/-- A quoted text can be told from what comes after it. -/
theorem delimited_quotedChars : Delimited quotedChars := by
  intro a b r s h
  have h : a.toList.flatMap escapedChar ++ '"' :: r = b.toList.flatMap escapedChar ++ '"' :: s := by
    simpa [quotedChars] using h
  obtain ⟨hab, hrs⟩ := flatMap_escapedChar_inj h
  exact ⟨String.toList_inj.1 hab, hrs⟩

/-- The characters of a filter among the arguments of a call. -/
def filterChars : Option String → List Char
  | none => ['n', 'u', 'l', 'l']
  | some s => quotedChars s

/-- A filter can be told from what comes after it. -/
theorem delimited_filterChars : Delimited filterChars := by
  intro a b r s h
  cases a with
  | none =>
    cases b with
    | none => exact ⟨rfl, List.append_cancel_left h⟩
    | some t => simp [filterChars, quotedChars] at h
  | some t =>
    cases b with
    | none => simp [filterChars, quotedChars] at h
    | some u =>
      obtain ⟨rfl, hrs⟩ := delimited_quotedChars t u r s h
      exact ⟨rfl, hrs⟩

/-- The characters of further arguments or items, up to a closing sign. -/
def moreChars (closing : Char) (items : List String) (rest : List Char) : List Char :=
  items.flatMap (fun s => ',' :: ' ' :: quotedChars s) ++ closing :: rest

/-- Further items can be told from what comes after their closing sign. -/
theorem moreChars_inj {closing : Char} (hc : closing ≠ ',') {gs hs : List String} {r s : List Char}
    (h : moreChars closing gs r = moreChars closing hs s) : gs = hs ∧ r = s := by
  induction gs generalizing hs with
  | nil =>
    cases hs with
    | nil => exact ⟨rfl, by simpa [moreChars] using h⟩
    | cons g hs =>
      simp [moreChars] at h
      exact absurd h.1 hc
  | cons g gs ih =>
    cases hs with
    | nil =>
      simp [moreChars] at h
      exact absurd h.1.symm hc
    | cons g' hs =>
      have h :
          quotedChars g ++ moreChars closing gs r = quotedChars g' ++ moreChars closing hs s := by
        simpa [moreChars] using h
      obtain ⟨rfl, hrest⟩ := delimited_quotedChars _ _ _ _ h
      obtain ⟨rfl, rfl⟩ := ih hrest
      exact ⟨rfl, rfl⟩

/-- The characters of a list of group columns. -/
def groupChars : List String → List Char
  | [] => ['[', ']']
  | g :: gs => '[' :: (quotedChars g ++ moreChars ']' gs [])

/-- A list of groups can be told from what comes after it. -/
theorem delimited_groupChars : Delimited groupChars := by
  intro a b r s h
  have hmore (gs : List String) (r : List Char) :
      moreChars ']' gs [] ++ r = moreChars ']' gs r := by simp [moreChars]
  cases a with
  | nil =>
    cases b with
    | nil => exact ⟨rfl, List.append_cancel_left h⟩
    | cons g gs => simp [groupChars, quotedChars] at h
  | cons g gs =>
    cases b with
    | nil => simp [groupChars, quotedChars] at h
    | cons g' gs' =>
      have h : quotedChars g ++ moreChars ']' gs r = quotedChars g' ++ moreChars ']' gs' s := by
        simpa [groupChars, hmore] using h
      obtain ⟨rfl, hrest⟩ := delimited_quotedChars _ _ _ _ h
      obtain ⟨rfl, rfl⟩ := moreChars_inj (by decide) hrest
      exact ⟨rfl, rfl⟩

/-! ## The parts of a call site -/

/-- What follows the list of groups. -/
def distinctEnd : Option String → List Char
  | none => [')']
  | some c => ',' :: ' ' :: (quotedChars c ++ [')'])

/-- What follows the filter. -/
def groupEnd (groups : List String) (distinct : Option String) : List Char :=
  if groups = [] ∧ distinct = none then [')']
  else ',' :: ' ' :: (groupChars groups ++ distinctEnd distinct)

/-- What follows the column. -/
def filterEnd (filter : Option String) (groups : List String) (distinct : Option String) :
    List Char :=
  if filter = none ∧ groups = [] ∧ distinct = none then [')']
  else ',' :: ' ' :: (filterChars filter ++ groupEnd groups distinct)

/-- The end of a call site determines the distinct column. -/
theorem distinctEnd_inj {c d : Option String} (h : distinctEnd c = distinctEnd d) : c = d := by
  cases c with
  | none =>
    cases d with
    | none => rfl
    | some d => simp [distinctEnd] at h
  | some c =>
    cases d with
    | none => simp [distinctEnd] at h
    | some d =>
      have h : quotedChars c ++ [')'] = quotedChars d ++ [')'] := by simpa [distinctEnd] using h
      exact congrArg some (delimited_quotedChars _ _ _ _ h).1

/-- What follows the filter determines the groups and the distinct column. -/
theorem groupEnd_inj {g h : List String} {c d : Option String} (heq : groupEnd g c = groupEnd h d) :
    g = h ∧ c = d := by
  unfold groupEnd at heq
  split at heq <;> split at heq
  · next hg hh => exact ⟨hg.1.trans hh.1.symm, hg.2.trans hh.2.symm⟩
  · simp at heq
  · simp at heq
  · have heq : groupChars g ++ distinctEnd c = groupChars h ++ distinctEnd d := by simpa using heq
    obtain ⟨rfl, hcd⟩ := delimited_groupChars _ _ _ _ heq
    exact ⟨rfl, distinctEnd_inj hcd⟩

/-- What follows the column determines the filter, the groups and the distinct column. -/
theorem filterEnd_inj {e f : Option String} {g h : List String} {c d : Option String}
    (heq : filterEnd e g c = filterEnd f h d) : e = f ∧ g = h ∧ c = d := by
  unfold filterEnd at heq
  split at heq <;> split at heq
  · next he hf => exact ⟨he.1.trans hf.1.symm, he.2.1.trans hf.2.1.symm, he.2.2.trans hf.2.2.symm⟩
  · simp at heq
  · simp at heq
  · have heq : filterChars e ++ groupEnd g c = filterChars f ++ groupEnd h d := by simpa using heq
    obtain ⟨rfl, hgc⟩ := delimited_filterChars _ _ _ _ heq
    exact ⟨rfl, groupEnd_inj hgc⟩

/-- A call site is the name of the function and its delimited arguments. -/
theorem toList_callSite (a : Aggregation) :
    a.callSite.toList = a.function.name.toList ++ '(' :: (quotedChars a.column ++
      filterEnd a.filterText a.groupColumns a.distinctColumn) := by
  have hitems (s : String) (l : List String) : (String.intercalate ", " (s :: l)).toList =
      s.toList ++ l.flatMap fun s => ',' :: ' ' :: s.toList := by
    induction l generalizing s with
    | nil => simp
    | cons t l ih => simp [String.intercalate_cons_cons, ih]
  have hgroups : (l : List String) →
      ("[" ++ String.intercalate ", " (l.map quotedLiteral) ++ "]").toList = groupChars l
    | [] => by simp [groupChars]
    | g :: gs => by
      simp [groupChars, moreChars, hitems, toList_quotedLiteral, List.flatMap_map]
  unfold callSite filterText
  cases a.filter.filter fun f => !f.isEmpty <;> cases hg : a.groupColumns <;>
    cases a.distinctColumn <;>
    simp [hitems, toList_quotedLiteral, filterEnd, groupEnd, distinctEnd, filterChars, ← hgroups]

/-! ## What call sites determine -/

/-- Names of functions are told apart by what comes before the parenthesis. -/
theorem name_append_inj {f g : Function} {r s : List Char}
    (h : f.name.toList ++ '(' :: r = g.name.toList ++ '(' :: s) : f = g ∧ r = s := by
  have hparen (f : Function) : '(' ∉ f.name.toList := by
    obtain ⟨grouped, reducer⟩ := f
    cases grouped <;> cases reducer <;> decide
  have hname {f g : Function} : f.name = g.name → f = g := by
    obtain ⟨grouped, reducer⟩ := f
    obtain ⟨grouped', reducer'⟩ := g
    cases grouped <;> cases reducer <;> cases grouped' <;> cases reducer' <;> decide
  have hsplit : ∀ {l m : List Char}, '(' ∉ l → '(' ∉ m → l ++ '(' :: r = m ++ '(' :: s →
      l = m ∧ r = s := by
    intro l
    induction l with
    | nil =>
      intro m _ hm h
      cases m with
      | nil => exact ⟨rfl, List.tail_eq_of_cons_eq h⟩
      | cons c m => exact absurd (List.head_eq_of_cons_eq h ▸ List.mem_cons_self) hm
    | cons b l ih =>
      intro m hl hm h
      cases m with
      | nil => exact absurd (List.head_eq_of_cons_eq h ▸ List.mem_cons_self) hl
      | cons c m =>
        obtain ⟨rfl, htail⟩ := List.cons.inj h
        obtain ⟨rfl, hrs⟩ := ih (fun h => hl (List.mem_cons_of_mem _ h))
          (fun h => hm (List.mem_cons_of_mem _ h)) htail
        exact ⟨rfl, hrs⟩
  obtain ⟨hfg, hrs⟩ := hsplit (hparen f) (hparen g) h
  exact ⟨hname (String.toList_inj.1 hfg), hrs⟩

/-- Two aggregations have one call site exactly if all its parts agree. -/
theorem callSite_eq_iff {a b : Aggregation} :
    a.callSite = b.callSite ↔ a.function = b.function ∧ a.column = b.column ∧
      a.filterText = b.filterText ∧ a.groupColumns = b.groupColumns ∧
      a.distinctColumn = b.distinctColumn := by
  constructor
  · intro h
    have h := congrArg String.toList h
    rw [toList_callSite, toList_callSite] at h
    obtain ⟨hfunction, h⟩ := name_append_inj h
    obtain ⟨hcolumn, h⟩ := delimited_quotedChars _ _ _ _ h
    exact ⟨hfunction, hcolumn, filterEnd_inj h⟩
  · rintro ⟨hfunction, hcolumn, hfilter, hgroups, hdistinct⟩
    rw [← String.toList_inj, toList_callSite, toList_callSite, hfunction, hcolumn, hfilter, hgroups,
      hdistinct]

/-- The filter of an aggregation without conditions is what its text says. -/
theorem ofFilter_eq_of_not_hasConditions {a : Aggregation} (h : a.hasConditions = false) :
    Test.ofFilter a.filter = Test.ofFilter (a.filterText.map .formula) := by
  unfold hasConditions at h
  unfold filterText
  cases hf : a.filter with
  | none => rfl
  | some f =>
    by_cases he : f.isEmpty = true
    · have hnone : (some f).filter (fun f => !f.isEmpty) = none := by simp [Option.filter, he]
      rw [hnone]
      exact if_pos he
    · have hsome : (some f).filter (fun f => !f.isEmpty) = some f := by simp [Option.filter, he]
      rw [hsome]
      cases f with
      | formula source => rfl
      | conditions cs logic =>
        rw [hf] at h
        exact absurd (by simpa [Filter.isEmpty] using h) he

/-- Aggregations without conditions have a value that the call site determines. -/
theorem compute_eq_of_callSite_eq {a b : Aggregation} (ha : a.hasConditions = false)
    (hb : b.hasConditions = false) (h : a.callSite = b.callSite) (rows : List Row) :
    a.compute rows = b.compute rows := by
  obtain ⟨hfunction, hcolumn, hfilter, hgroups, hdistinct⟩ := callSite_eq_iff.1 h
  unfold compute
  rw [ofFilter_eq_of_not_hasConditions ha, ofFilter_eq_of_not_hasConditions hb, hfunction, hcolumn,
    hfilter, hgroups, hdistinct]

end RowAudit.Aggregation
