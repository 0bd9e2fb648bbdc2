import RowAudit.Finding.Buffer

/-!
# Buffers as lists of entries

A buffer is determined by its entries: the index holds, for each key, the place of the first keyed
entry with that key (`Buffer.Indexed`), so writing an entry is a function on lists
(`Entries.place`): an entry goes to the end, or, if it is keyed, to the place of the keyed entry
with its key. Entries written one after the other can be cut at any point: writing the entries of a
buffer that was filled from the empty one equals writing what that buffer was filled with
(`Buffer.toList_merge_foldl_write`).
-/

namespace RowAudit

/-! ## Entries that take the place of others -/

/-- An entry takes the place of another one: both are keyed and have the same key. -/
def Entry.Replaces (e d : Entry) : Prop :=
  e.keyed = true ∧ d.keyed = true ∧ d.finding.key = e.finding.key

instance (e d : Entry) : Decidable (e.Replaces d) := by
  unfold Entry.Replaces
  infer_instance

namespace Entry.Replaces

variable {c d e : Entry}

/-- An entry that replaces another one could have been replaced by it. -/
theorem symm (h : e.Replaces d) : d.Replaces e := ⟨h.2.1, h.1, h.2.2.symm⟩

/-- What replaces an entry replaces what that entry replaces. -/
theorem trans (h : e.Replaces d) (h' : d.Replaces c) : e.Replaces c :=
  ⟨h.1, h'.2.1, h'.2.2.trans h.2.2⟩

end Entry.Replaces

namespace Entries

/-- Writes an entry: in the place of the entry that it replaces, or at the end. -/
def place (e : Entry) : List Entry → List Entry
  | [] => [e]
  | d :: rest => if e.Replaces d then e :: rest else d :: place e rest

/-- Writes entries one after the other. -/
def placeAll (es : List Entry) (written : List Entry) : List Entry :=
  es.foldl (fun written e => place e written) written

/-- No entry takes the place of another one. -/
def Distinct (es : List Entry) : Prop := es.Pairwise fun d e => ¬ e.Replaces d

variable {c d e : Entry} {es ds written : List Entry}

@[simp] theorem placeAll_cons (e : Entry) (es written : List Entry) :
    placeAll (e :: es) written = placeAll es (place e written) := rfl

/-- Entries in two parts are written one part after the other. -/
theorem placeAll_append (es ds written : List Entry) :
    placeAll (es ++ ds) written = placeAll ds (placeAll es written) := List.foldl_append

/-- An entry without an entry to replace goes to the end. -/
theorem place_eq_append (h : ∀ d ∈ written, ¬ e.Replaces d) : place e written = written ++ [e] := by
  induction written with
  | nil => rfl
  | cons d rest ih =>
    rw [place, if_neg (h d List.mem_cons_self), ih fun c hc => h c (List.mem_cons_of_mem _ hc)]
    rfl

/-- Writing an entry adds no other one. -/
theorem mem_place (h : c ∈ place e written) : c = e ∨ c ∈ written := by
  induction written with
  | nil => exact .inl (List.mem_singleton.1 h)
  | cons d rest ih =>
    unfold place at h
    split at h
    · exact (List.mem_cons.1 h).imp id (List.mem_cons_of_mem _)
    · rcases List.mem_cons.1 h with rfl | h
      · exact .inr List.mem_cons_self
      · exact (ih h).imp id (List.mem_cons_of_mem _)

/-- Writing keeps entries distinct. -/
theorem Distinct.place (h : Distinct written) : Distinct (place e written) := by
  induction written with
  | nil => exact List.pairwise_singleton _ _
  | cons d rest ih =>
    obtain ⟨hd, hrest⟩ := List.pairwise_cons.1 h
    unfold Entries.place
    split
    · next her =>
      exact List.pairwise_cons.2 ⟨fun c hc hce => hd c hc (hce.trans her), hrest⟩
    · next her =>
      refine List.pairwise_cons.2 ⟨fun c hc => ?_, ih hrest⟩
      rcases mem_place hc with rfl | hc
      · exact her
      · exact hd c hc

/-- Distinct entries stay in the order in which they are written. -/
theorem placeAll_eq_append (h : Distinct (written ++ es)) :
    placeAll es written = written ++ es := by
  induction es generalizing written with
  | nil => exact (List.append_nil written).symm
  | cons e es ih =>
    have hlast : ∀ d ∈ written, ¬ e.Replaces d := fun d hd =>
      (List.pairwise_append.1 h).2.2 d hd e List.mem_cons_self
    rw [placeAll_cons, place_eq_append hlast, ih (by simpa using h)]
    simp

/-! ## Writing what has been written

Entries that were written into nothing can be written again elsewhere. The one case with an argument
is an entry that replaced an earlier one: in the second writing the earlier one is gone, and the
entry arrives at its place and not at its own time (`place_placeAll`).
-/

/-- Of two entries written one after the other to one place the second stays. -/
theorem place_place_of_replaces (h : e.Replaces d) (written : List Entry) :
    place e (place d written) = place e written := by
  induction written with
  | nil => simp [place, h]
  | cons c rest ih =>
    by_cases hc : d.Replaces c
    · simp [place, hc, h, h.trans hc]
    · have hec : ¬ e.Replaces c := fun hec => hc (h.symm.trans hec)
      simp [place, hc, hec, ih]

/-- An entry whose place is there already can be written before or after an entry with another
place. -/
theorem place_comm (hc : ¬ e.Replaces c) (hd : d ∈ written) (hed : e.Replaces d) :
    place e (place c written) = place c (place e written) := by
  induction written with
  | nil => cases hd
  | cons x rest ih =>
    by_cases hex : e.Replaces x
    · have hcx : ¬ c.Replaces x := fun hcx => hc (hex.trans hcx.symm)
      have hce : ¬ c.Replaces e := fun hce => hc hce.symm
      simp [place, hex, hcx, hce]
    · by_cases hcx : c.Replaces x
      · simp [place, hex, hcx, hc]
      · have hd : d ∈ rest := by
          rcases List.mem_cons.1 hd with rfl | hd
          · exact absurd hed hex
          · exact hd
        simp [place, hex, hcx, ih hd]

/-- A place stays occupied. -/
theorem exists_replaced_place (hd : d ∈ written) (hed : e.Replaces d) :
    ∃ d' ∈ place c written, e.Replaces d' := by
  induction written with
  | nil => cases hd
  | cons x rest ih =>
    unfold place
    split
    · next hcx =>
      rcases List.mem_cons.1 hd with rfl | hd
      · exact ⟨c, List.mem_cons_self, hed.trans hcx.symm⟩
      · exact ⟨d, List.mem_cons_of_mem _ hd, hed⟩
    · rcases List.mem_cons.1 hd with rfl | hd
      · exact ⟨d, List.mem_cons_self, hed⟩
      · obtain ⟨d', hd', hed'⟩ := ih hd
        exact ⟨d', List.mem_cons_of_mem _ hd', hed'⟩

/-- An entry whose place is there already can be written before or after entries with other
places. -/
theorem place_placeAll (hes : ∀ c ∈ es, ¬ e.Replaces c) (hd : d ∈ written) (hed : e.Replaces d) :
    place e (placeAll es written) = placeAll es (place e written) := by
  induction es generalizing written d with
  | nil => rfl
  | cons c es ih =>
    obtain ⟨d', hd', hed'⟩ := exists_replaced_place (c := c) hd hed
    rw [placeAll_cons, placeAll_cons,
      ih (fun x hx => hes x (List.mem_cons_of_mem _ hx)) hd' hed',
      place_comm (hes c List.mem_cons_self) hd hed]

/-- Writing an entry among distinct ones, and then all of them elsewhere, is writing them and then
the entry. -/
theorem placeAll_place (h : Distinct es) (written : List Entry) :
    placeAll (place e es) written = place e (placeAll es written) := by
  induction es generalizing written with
  | nil => rfl
  | cons d es ih =>
    obtain ⟨hd, hes⟩ := List.pairwise_cons.1 h
    by_cases hed : e.Replaces d
    · have hkeep : ∀ c ∈ es, ¬ e.Replaces c := fun c hc hec => hd c hc (hec.symm.trans hed)
      obtain ⟨d', hd', hed'⟩ : ∃ d' ∈ place d written, e.Replaces d' := by
        by_cases hx : ∃ x ∈ written, d.Replaces x
        · obtain ⟨x, hx, hdx⟩ := hx
          exact exists_replaced_place hx (hed.trans hdx)
        · rw [place_eq_append fun x hxw hdx => hx ⟨x, hxw, hdx⟩]
          exact ⟨d, by simp, hed⟩
      rw [place, if_pos hed, placeAll_cons, placeAll_cons, place_placeAll hkeep hd' hed',
        place_place_of_replaces hed]
    · rw [place, if_neg hed, placeAll_cons, placeAll_cons, ih hes]

/-- Entries written into nothing and then elsewhere are written there directly. -/
theorem placeAll_placeAll (ds : List Entry) (h : Distinct es) (written : List Entry) :
    placeAll (placeAll ds es) written = placeAll ds (placeAll es written) := by
  induction ds generalizing es with
  | nil => rfl
  | cons d ds ih => rw [placeAll_cons, placeAll_cons, ih h.place, placeAll_place h]

end Entries

/-! ## Buffers -/

namespace Buffer

variable {b : Buffer} {e : Entry} {f : Finding}

/-- Whether an entry stands under a key. -/
def isAt (key : FindingKey) (e : Entry) : Bool := e.keyed && decide (e.finding.key = key)

/-- The index holds the place of the first keyed entry with each key. -/
def Indexed (b : Buffer) : Prop :=
  ∀ key, b.place? key = b.entries.toList.findIdx? (isAt key)

/-- The index of an empty buffer is right. -/
theorem indexed_empty : empty.Indexed := fun _ => rfl

/-- A keyed entry replaces those that stand under its key. -/
theorem replaces_iff_isAt {d : Entry} (he : e.keyed = true) :
    e.Replaces d ↔ isAt e.finding.key d = true := by
  simp [Entry.Replaces, isAt, he]

/-- Writing a keyed entry into a list, by the place of the entry that it replaces. -/
theorem place_eq_of_keyed (he : e.keyed = true) (es : List Entry) :
    Entries.place e es =
      match es.findIdx? (isAt e.finding.key) with
      | some i => es.set i e
      | none => es ++ [e] := by
  induction es with
  | nil => rfl
  | cons d es ih =>
    rw [Entries.place, List.findIdx?_cons]
    by_cases hd : isAt e.finding.key d = true
    · rw [if_pos ((replaces_iff_isAt he).2 hd), hd]
      rfl
    · rw [if_neg fun h => hd ((replaces_iff_isAt he).1 h), ih, Bool.eq_false_iff.2 hd]
      cases es.findIdx? (isAt e.finding.key) <;> rfl

/-- Replacing the entry under a key by one under the same key moves no key. -/
theorem findIdx?_set {es : List Entry} {i : Nat} (he : e.keyed = true)
    (hi : es.findIdx? (isAt e.finding.key) = some i) (key : FindingKey) :
    (es.set i e).findIdx? (isAt key) = es.findIdx? (isAt key) := by
  induction es generalizing i with
  | nil => cases hi
  | cons d es ih =>
    rw [List.findIdx?_cons] at hi
    by_cases hd : isAt e.finding.key d = true
    · obtain rfl : 0 = i := by simpa [hd] using hi
      have hsame : isAt key e = isAt key d := by
        simp only [isAt, Bool.and_eq_true, decide_eq_true_eq] at hd
        simp [isAt, he, hd.1, hd.2]
      rw [List.set_cons_zero, List.findIdx?_cons, List.findIdx?_cons, hsame]
    · obtain ⟨j, hj, rfl⟩ : ∃ j, es.findIdx? (isAt e.finding.key) = some j ∧ j + 1 = i := by
        simpa [hd] using hi
      rw [List.set_cons_succ, List.findIdx?_cons, List.findIdx?_cons, ih hj]

/-- A pushed finding stands at the end. -/
theorem toList_push (b : Buffer) (f : Finding) :
    (b.push f).entries.toList = b.entries.toList ++ [⟨f, false⟩] := by
  simp [push]

/-- A pushed finding goes to the end and moves no key. -/
theorem Indexed.push (h : b.Indexed) (f : Finding) : (b.push f).Indexed := fun key => by
  rw [toList_push, List.findIdx?_append, ← h key]
  simp [isAt, place?, Buffer.push]

/-- An upserted finding is placed as a keyed entry. -/
theorem toList_upsert (h : b.Indexed) (f : Finding) :
    (b.upsert f).entries.toList = Entries.place ⟨f, true⟩ b.entries.toList := by
  rw [place_eq_of_keyed rfl, ← h f.key, upsert]
  cases b.place? f.key <;> simp

/-- An upserted finding moves no key but its own. -/
theorem Indexed.upsert (h : b.Indexed) (f : Finding) : (b.upsert f).Indexed := fun key => by
  rw [toList_upsert h, place_eq_of_keyed rfl, ← h f.key, Buffer.upsert]
  cases hp : b.place? f.key with
  | some i =>
    have hi : b.entries.toList.findIdx? (isAt f.key) = some i := (h f.key).symm.trans hp
    exact (h key).trans (findIdx?_set (e := ⟨f, true⟩) rfl hi key).symm
  | none =>
    simp only [List.findIdx?_append, ← h key]
    by_cases hk : f.key = key
    · subst hk
      rw [hp]
      simp [place?, isAt, size]
    · simp [place?, isAt, hk]

/-- Writing an entry places it. -/
theorem toList_write (h : b.Indexed) (e : Entry) :
    (b.write e).entries.toList = Entries.place e b.entries.toList := by
  obtain ⟨f, keyed⟩ := e
  cases keyed with
  | true => exact toList_upsert h f
  | false =>
    rw [Entries.place_eq_append fun d _ hd => Bool.false_ne_true hd.1]
    exact toList_push b f

/-- Writing keeps the index right. -/
theorem Indexed.write (h : b.Indexed) (e : Entry) : (b.write e).Indexed := by
  obtain ⟨f, keyed⟩ := e
  cases keyed with
  | true => exact h.upsert f
  | false => exact h.push f

/-- Writing any number of entries keeps the index right. -/
theorem Indexed.foldl_write (h : b.Indexed) (es : List Entry) :
    (es.foldl Buffer.write b).Indexed := by
  induction es generalizing b with
  | nil => exact h
  | cons e es ih => exact ih (h.write e)

/-- Writing entries into a buffer is writing them into its list. -/
theorem toList_foldl_write (h : b.Indexed) (es : List Entry) :
    (es.foldl write b).entries.toList = Entries.placeAll es b.entries.toList := by
  induction es generalizing b with
  | nil => rfl
  | cons e es ih => rw [List.foldl_cons, ih (h.write e), toList_write h, Entries.placeAll_cons]

/-- Merging keeps the index right. -/
theorem Indexed.merge (h : b.Indexed) (other : Buffer) : (b.merge other).Indexed :=
  h.foldl_write other.entries.toList

/-- Merging a buffer that was filled from the empty one is writing what that one was filled with. -/
theorem toList_merge_foldl_write (h : b.Indexed) (es : List Entry) :
    (b.merge (es.foldl write empty)).entries.toList = Entries.placeAll es b.entries.toList := by
  rw [merge, toList_foldl_write h, toList_foldl_write indexed_empty]
  exact Entries.placeAll_placeAll es List.Pairwise.nil b.entries.toList

end Buffer

end RowAudit
