/-!
# Records of named values

A record is a list of name and value pairs in ascending order of the names, each name once.
`insert` keeps that form, `Ordered` says it, and `get?` reads a record back. Names are ordered by
their characters' code points.
-/

namespace RowAudit

/-- A list of named values. -/
abbrev Fields (α : Type) := List (String × α)

namespace Fields

variable {α β : Type}

/-- The names stand in strictly ascending order. -/
def Ordered (fs : Fields α) : Prop := fs.Pairwise fun a b => a.1 < b.1

/-- Sets the value under a name, replacing an earlier one. -/
def insert (name : String) (value : α) : Fields α → Fields α
  | [] => [(name, value)]
  | (n, v) :: rest =>
    if name < n then (name, value) :: (n, v) :: rest
    else if name = n then (name, value) :: rest
    else (n, v) :: insert name value rest

/-- The value under a name. -/
def get? (fs : Fields α) (name : String) : Option α :=
  (List.find? (·.1 == name) fs).map Prod.snd

/-- Whether a name is set. -/
def has (fs : Fields α) (name : String) : Bool := List.any fs (·.1 == name)

/-- The record of a list of pairs; of two pairs with one name the later counts. -/
def ofList (pairs : List (String × α)) : Fields α :=
  pairs.foldl (fun fs p => insert p.1 p.2 fs) []

/-- The names in their order. -/
def names (fs : Fields α) : List String := List.map Prod.fst fs

/-- Inserting a field adds no other one. -/
theorem mem_insert {name : String} {value : α} {p : String × α} :
    ∀ {fs : Fields α}, p ∈ insert name value fs → p = (name, value) ∨ p ∈ fs
  | [], h => by simpa [insert] using h
  | (n, v) :: rest, h => by
    unfold insert at h
    split at h
    · simpa using h
    · split at h
      · rcases List.mem_cons.1 h with h | h
        · exact .inl h
        · exact .inr (List.mem_cons_of_mem _ h)
      · rcases List.mem_cons.1 h with h | h
        · exact .inr (h ▸ List.mem_cons_self)
        · exact (mem_insert h).imp id (List.mem_cons_of_mem _)

/-- Inserting a field keeps fields in order. -/
theorem Ordered.insert {name : String} {value : α} :
    ∀ {fs : Fields α}, Ordered fs → Ordered (fs.insert name value)
  | [], _ => by simp [Ordered, Fields.insert]
  | (n, v) :: rest, h => by
    have ⟨hhead, hrest⟩ := List.pairwise_cons.1 h
    unfold Fields.insert
    split
    · next hlt =>
      exact List.pairwise_cons.2 ⟨fun p hp => by
        rcases List.mem_cons.1 hp with rfl | hp
        · exact hlt
        · exact String.lt_trans hlt (hhead p hp), h⟩
    · next hnlt =>
      split
      · next heq => exact List.pairwise_cons.2 ⟨fun p hp => heq ▸ hhead p hp, hrest⟩
      · next hne =>
        refine List.pairwise_cons.2 ⟨fun p hp => ?_, Ordered.insert hrest⟩
        rcases mem_insert hp with rfl | hp
        · exact Std.lt_of_le_of_ne (Std.not_lt.1 hnlt) fun e => hne e.symm
        · exact hhead p hp

/-- The inserted value is found under its name, and any other one as before. -/
theorem get?_insert (name : String) (value : α) (fs : Fields α) (n : String) :
    (fs.insert name value).get? n = if name = n then some value else fs.get? n := by
  induction fs with
  | nil => by_cases h : name = n <;> simp [insert, get?, h]
  | cons p fs ih =>
    obtain ⟨n', v⟩ := p
    unfold insert
    split
    · by_cases h : name = n <;> simp [get?, h]
    · split
      · next heq =>
        by_cases h : name = n
        · simp [get?, h]
        · have hne : n' ≠ n := fun hn => h (heq.trans hn)
          simp [get?, h, hne]
      · next hne =>
        by_cases hn : n' = n
        · have h : name ≠ n := fun h => hne (h.trans hn.symm)
          simp [get?, hn, h]
        · simpa [get?, hn] using ih

/-- Of pairs with one name the last one counts. -/
theorem get?_ofList (pairs : List (String × α)) (name : String) :
    (ofList pairs).get? name = (pairs.reverse.find? (·.1 == name)).map Prod.snd := by
  have later : ∀ (ps : List (String × α)) (fs : Fields α),
      get? (ps.foldl (fun fs p => insert p.1 p.2 fs) fs) name =
        ((ps.reverse.find? (·.1 == name)).map Prod.snd).or (fs.get? name) := by
    intro ps
    induction ps with
    | nil => exact fun _ => rfl
    | cons p ps ih =>
      intro fs
      rw [List.foldl_cons, ih, get?_insert, List.reverse_cons, List.find?_append,
        List.find?_singleton]
      cases ps.reverse.find? (·.1 == name) <;> by_cases h : p.1 = name <;> simp [h]
  rw [ofList, later]
  exact Option.or_none

/-- No fields are in order. -/
theorem ordered_nil : Ordered ([] : Fields α) := List.Pairwise.nil

/-- Fields made of pairs are in order. -/
theorem ordered_ofList (pairs : List (String × α)) : Ordered (ofList pairs) := by
  have grows : ∀ (ps : List (String × α)) (fs : Fields α), Ordered fs →
      Ordered (ps.foldl (fun fs p => Fields.insert p.1 p.2 fs) fs) := by
    intro ps
    induction ps with
    | nil => exact fun _ h => h
    | cons p ps ih => exact fun fs h => ih _ h.insert
  exact grows pairs [] ordered_nil

end Fields

end RowAudit
