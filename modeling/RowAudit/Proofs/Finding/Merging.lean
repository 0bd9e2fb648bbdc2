import RowAudit.Proofs.Buffer

/-!
# Buffers under merging

A buffer that was filled from the empty one is determined by its entries: its index lists the places
of the keyed entries, the last one first (`Buffer.Tight`). Filling is a homomorphism from sequences
of writes to buffers under merging, although a merge replays entries of which some have been
replaced already. So the filled buffers form a monoid, and a sequence of writes may be cut into any
number of parts, each of which fills a buffer of its own (`Buffer.filled_homomorphism`).
-/

namespace RowAudit

namespace Entries

/-- The keys of the keyed entries with their places, counted from a given one, the last one
first. -/
def placesFrom (i : Nat) : List Entry → List (FindingKey × Nat)
  | [] => []
  | e :: es => placesFrom (i + 1) es ++ if e.keyed then [(e.finding.key, i)] else []

variable {e : Entry} {es ds : List Entry}

/-- The places of entries in two parts are those of one part and those of the other, counted on. -/
theorem placesFrom_append (i : Nat) (es ds : List Entry) :
    placesFrom i (es ++ ds) = placesFrom (i + es.length) ds ++ placesFrom i es := by
  induction es generalizing i with
  | nil => simp [placesFrom]
  | cons e es ih =>
    have hlength : i + 1 + es.length = i + (e :: es).length := by
      rw [List.length_cons]
      omega
    rw [List.cons_append, placesFrom, placesFrom, ih, hlength, List.append_assoc]

/-- An entry in the place of another one with its key leaves all keys at their places. -/
theorem placesFrom_set {j : Nat} (he : e.keyed = true)
    (hj : es.findIdx? (Buffer.isAt e.finding.key) = some j) (i : Nat) :
    placesFrom i (es.set j e) = placesFrom i es := by
  induction es generalizing i j with
  | nil => cases hj
  | cons d es ih =>
    rw [List.findIdx?_cons] at hj
    by_cases hd : Buffer.isAt e.finding.key d = true
    · obtain rfl : 0 = j := by simpa [hd] using hj
      have hreplaces := (Buffer.replaces_iff_isAt he).2 hd
      rw [List.set_cons_zero, placesFrom, placesFrom, he, hreplaces.2.1, hreplaces.2.2]
    · obtain ⟨k, hk, rfl⟩ : ∃ k, es.findIdx? (Buffer.isAt e.finding.key) = some k ∧ k + 1 = j := by
        simpa [hd] using hj
      rw [List.set_cons_succ, placesFrom, placesFrom, ih hk]

end Entries

namespace Buffer

variable {b c : Buffer}

/-- The index lists the places of the keyed entries, each key once, the last place first. -/
structure Tight (b : Buffer) : Prop where
  indexed : b.Indexed
  index_eq : b.index = Entries.placesFrom 0 b.entries.toList

/-- The index of an empty buffer lists nothing. -/
theorem tight_empty : empty.Tight := ⟨indexed_empty, rfl⟩

/-- Tight buffers are told apart by their entries. -/
theorem Tight.eq_of_toList_eq (hb : b.Tight) (hc : c.Tight)
    (h : b.entries.toList = c.entries.toList) : b = c := by
  have hindex : b.index = c.index := by rw [hb.index_eq, hc.index_eq, h]
  have hentries : b.entries = c.entries := Array.toList_inj.1 h
  obtain ⟨entries, index⟩ := b
  obtain ⟨entries', index'⟩ := c
  rw [Buffer.mk.injEq]
  exact ⟨hentries, hindex⟩

/-- A push adds nothing to the index. -/
theorem Tight.push (hb : b.Tight) (f : Finding) : (b.push f).Tight where
  indexed := hb.indexed.push f
  index_eq := by
    rw [toList_push, Entries.placesFrom_append]
    exact hb.index_eq

/-- An upsert adds its place to the index unless its key has one. -/
theorem Tight.upsert (hb : b.Tight) (f : Finding) : (b.upsert f).Tight where
  indexed := hb.indexed.upsert f
  index_eq := by
    have hplace := hb.indexed f.key
    rw [toList_upsert hb.indexed, place_eq_of_keyed rfl, Buffer.upsert, ← hplace]
    cases hp : b.place? f.key with
    | some i =>
      rw [hp] at hplace
      exact hb.index_eq.trans (Entries.placesFrom_set (e := ⟨f, true⟩) rfl hplace.symm 0).symm
    | none =>
      show (f.key, b.size) :: b.index = _
      rw [Entries.placesFrom_append, ← hb.index_eq, Array.length_toList]
      simp [Entries.placesFrom, size]

/-- Writing an entry keeps the index tight. -/
theorem Tight.write (hb : b.Tight) (e : Entry) : (b.write e).Tight := by
  unfold Buffer.write
  split
  · exact hb.upsert e.finding
  · exact hb.push e.finding

/-- Writing any number of entries keeps the index tight. -/
theorem Tight.foldl_write (hb : b.Tight) (es : List Entry) : (es.foldl Buffer.write b).Tight := by
  induction es generalizing b with
  | nil => exact hb
  | cons e es ih => exact ih (hb.write e)

/-- The buffer that a sequence of writes fills, each an upsert if the entry is keyed and a push if
not. -/
def filled (es : List Entry) : Buffer := es.foldl write empty

/-- The index of a filled buffer is tight. -/
theorem tight_filled (es : List Entry) : (filled es).Tight := tight_empty.foldl_write es

/-- Filling a buffer further is merging what the further writes fill. -/
theorem filled_append (es ds : List Entry) : filled (es ++ ds) = (filled es).merge (filled ds) := by
  have htight : ((filled es).merge (filled ds)).Tight :=
    (tight_filled es).foldl_write (filled ds).entries.toList
  refine (tight_filled (es ++ ds)).eq_of_toList_eq htight ?_
  calc (filled (es ++ ds)).entries.toList
      = Entries.placeAll (es ++ ds) [] := toList_foldl_write indexed_empty _
    _ = Entries.placeAll ds (Entries.placeAll es []) := Entries.placeAll_append es ds []
    _ = Entries.placeAll ds (filled es).entries.toList :=
      congrArg _ (toList_foldl_write indexed_empty es).symm
    _ = ((filled es).merge (filled ds)).entries.toList :=
      (toList_merge_foldl_write (tight_filled es).indexed ds).symm

/-- Filling makes sequences of writes into buffers under merging: what follows is merged, merging is
associative, the empty buffer is neutral, and the buffers of any number of parts, merged in order,
are the buffer of the whole. -/
theorem filled_homomorphism :
    (∀ es ds, filled (es ++ ds) = (filled es).merge (filled ds)) ∧
    (∀ es ds cs, ((filled es).merge (filled ds)).merge (filled cs) =
      (filled es).merge ((filled ds).merge (filled cs))) ∧
    (∀ es, (filled es).merge empty = filled es ∧ empty.merge (filled es) = filled es) ∧
    (∀ parts : List (List Entry), (parts.map filled).foldl merge empty = filled parts.flatten) := by
  refine ⟨filled_append, fun es ds cs => ?_, fun es => ⟨?_, ?_⟩, fun parts => ?_⟩
  · rw [← filled_append, ← filled_append, ← filled_append, ← filled_append, List.append_assoc]
  · rfl
  · exact (filled_append [] es).symm
  · have hmerged : ∀ (parts : List (List Entry)) (es : List Entry),
        (parts.map filled).foldl merge (filled es) = filled (es ++ parts.flatten) := by
      intro parts
      induction parts with
      | nil => simp
      | cons part parts ih =>
        intro es
        rw [List.map_cons, List.foldl_cons, ← filled_append, ih, List.flatten_cons,
          List.append_assoc]
    exact hmerged parts []

end Buffer

end RowAudit
