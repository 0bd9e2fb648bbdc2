import RowAudit.Proofs.Finding.Merging
import Mathlib.Data.List.Induction
import Mathlib.Data.List.Nodup

/-!
# What a buffer holds

A buffer is filled from the empty one by pushes, by upserts and by merging other buffers that were
filled themselves (`Script`). Its index is a map from the keys of its keyed entries to their places
(`Buffer.WellIndexed`). Its entries are what was written (`Script.writes`, which counts what went
into a merged buffer one by one): each push, and for each upserted key, in the place of its first
upsert, the last one (`Script.buffer_holds`).
-/

namespace RowAudit

/-- A way to fill a buffer. -/
inductive Script where
  | empty
  | push (s : Script) (f : Finding)
  | upsert (s : Script) (f : Finding)
  | merge (s other : Script)

namespace Script

/-- The buffer that is filled. -/
def buffer : Script → Buffer
  | empty => .empty
  | push s f => s.buffer.push f
  | upsert s f => s.buffer.upsert f
  | merge s other => s.buffer.merge other.buffer

/-- All findings that are written, in order; those of a merged buffer as they were written there. -/
def writes : Script → List Entry
  | empty => []
  | push s f => s.writes ++ [⟨f, false⟩]
  | upsert s f => s.writes ++ [⟨f, true⟩]
  | merge s other => s.writes ++ other.writes

/-- A buffer is what its writes fill, one after the other. -/
theorem buffer_eq (s : Script) : s.buffer = Buffer.filled s.writes := by
  induction s with
  | empty => rfl
  | push s f ih | upsert s f ih =>
    rw [buffer, writes, ih, Buffer.filled, Buffer.filled, List.foldl_append]
    rfl
  | merge s other ih ih' => rw [buffer, writes, ih, ih', Buffer.filled_append]

end Script

/-! ## What is left of a sequence of writes -/

namespace Entries

variable {d e : Entry} {es ws : List Entry}

/-- The writes that take no earlier one's place: the pushes, and the first upsert of each key. -/
def founders : List Entry → List Entry
  | [] => []
  | e :: ws => e :: (founders ws).filter fun d => ¬ d.Replaces e

/-- The last write to the place of a write. -/
def latest (ws : List Entry) (d : Entry) : Entry := (ws.reverse.find? fun e => e.Replaces d).getD d

/-- What a sequence of writes leaves: the founders in their order, each as it was written last. -/
def standing (ws : List Entry) : List Entry := (founders ws).map (latest ws)

/-- One more write to the place of an entry is the last one. -/
theorem latest_append_singleton (ws : List Entry) (e d : Entry) :
    latest (ws ++ [e]) d = if e.Replaces d then e else latest ws d := by
  rw [latest, List.reverse_append, List.reverse_singleton, List.singleton_append, List.find?_cons]
  by_cases hed : e.Replaces d <;> simp [hed, latest]

/-- The last write to a place replaces what was written there first, if it is another one. -/
theorem latest_cases (ws : List Entry) (d : Entry) :
    latest ws d = d ∨ (latest ws d).Replaces d := by
  unfold latest
  cases hfind : ws.reverse.find? (fun e => e.Replaces d) with
  | none => exact .inl rfl
  | some e => exact .inr (by simpa using List.find?_some hfind)

/-- A push stays as it is. -/
theorem latest_of_pushed (hd : d.keyed = false) (ws : List Entry) : latest ws d = d :=
  (latest_cases ws d).resolve_right fun h => Bool.false_ne_true (hd.symm.trans h.2.1)

/-- What replaces the last write to a place replaces the entry at that place. -/
theorem replaces_latest_iff : e.Replaces (latest ws d) ↔ e.Replaces d := by
  rcases latest_cases ws d with hsame | hlatest
  · rw [hsame]
  · exact ⟨fun h => h.trans hlatest, fun h => h.trans hlatest.symm⟩

/-- The last write to the place of an entry is keyed if the entry is. -/
theorem keyed_latest (ws : List Entry) (d : Entry) : (latest ws d).keyed = d.keyed := by
  rcases latest_cases ws d with hsame | hlatest
  · rw [hsame]
  · exact hlatest.1.trans hlatest.2.1.symm

/-- One more write founds a place unless it takes that of an earlier one. -/
theorem founders_append_singleton (ws : List Entry) (e : Entry) :
    founders (ws ++ [e]) = if ∃ d ∈ ws, e.Replaces d then founders ws else founders ws ++ [e] := by
  induction ws with
  | nil => rfl
  | cons c ws ih =>
    rw [List.cons_append, founders, founders, ih]
    by_cases hrest : ∃ d ∈ ws, e.Replaces d
    · simp [hrest]
    · by_cases hc : e.Replaces c <;> simp [hrest, hc, List.filter_append]

/-- Every write goes to the place of a founder. -/
theorem exists_founder (hd : d ∈ ws) : ∃ c ∈ founders ws, c = d ∨ d.Replaces c := by
  induction ws with
  | nil => cases hd
  | cons e ws ih =>
    rw [founders]
    rcases List.mem_cons.1 hd with rfl | hd
    · exact ⟨d, List.mem_cons_self, .inl rfl⟩
    · obtain ⟨c, hc, hcd⟩ := ih hd
      by_cases hce : c.Replaces e
      · refine ⟨e, List.mem_cons_self, .inr ?_⟩
        rcases hcd with rfl | hdc
        · exact hce
        · exact hdc.trans hce
      · exact ⟨c, List.mem_cons_of_mem _ (List.mem_filter.2 ⟨hc, by simpa using hce⟩), hcd⟩

/-- A founder is one of the writes. -/
theorem mem_of_mem_founders (hd : d ∈ founders ws) : d ∈ ws := by
  induction ws with
  | nil => cases hd
  | cons e ws ih =>
    rw [founders] at hd
    rcases List.mem_cons.1 hd with rfl | hd
    · exact List.mem_cons_self
    · exact List.mem_cons_of_mem _ (ih (List.mem_filter.1 hd).1)

/-- Among distinct entries the one that is replaced is replaced where it stands. -/
theorem place_eq_map (hes : Distinct es) (he : ∃ d ∈ es, e.Replaces d) :
    place e es = es.map fun d => if e.Replaces d then e else d := by
  induction es with
  | nil => simp at he
  | cons c es ih =>
    obtain ⟨hc, hrest⟩ := List.pairwise_cons.1 hes
    rw [place, List.map_cons]
    by_cases hec : e.Replaces c
    · have hothers : ∀ d ∈ es, ¬ e.Replaces d := fun d hd hed => hc d hd (hed.symm.trans hec)
      have hsame : (es.map fun d => if e.Replaces d then e else d) = es :=
        (List.map_congr_left fun d hd => if_neg (hothers d hd)).trans (List.map_id' es)
      rw [if_pos hec, if_pos hec, hsame]
    · have hin : ∃ d ∈ es, e.Replaces d := by simpa [hec] using he
      rw [if_neg hec, if_neg hec, ih hrest hin]

/-- Writing keeps entries distinct. -/
theorem Distinct.placeAll (h : Distinct es) (ws : List Entry) :
    Distinct (Entries.placeAll ws es) := by
  induction ws generalizing es with
  | nil => exact h
  | cons e ws ih => exact ih h.place

/-- Writing into nothing leaves what is said to stand. The induction is on the last write: it either
goes to the place of a founder or is a founder itself. -/
theorem placeAll_eq_standing (ws : List Entry) : placeAll ws [] = standing ws := by
  induction ws using List.reverseRecOn with
  | nil => rfl
  | append_singleton ws e ih =>
    have hwritten : placeAll (ws ++ [e]) [] = place e (standing ws) := by
      rw [placeAll_append, ih]
      rfl
    by_cases hplace : ∃ d ∈ ws, e.Replaces d
    · have hdistinct : Distinct (standing ws) := ih ▸ Distinct.placeAll List.Pairwise.nil ws
      have hstanding : ∃ d ∈ standing ws, e.Replaces d := by
        obtain ⟨d, hd, hed⟩ := hplace
        obtain ⟨c, hc, hcd⟩ := exists_founder hd
        refine ⟨latest ws c, List.mem_map_of_mem hc, replaces_latest_iff.2 ?_⟩
        rcases hcd with rfl | hdc
        · exact hed
        · exact hed.trans hdc
      rw [hwritten, place_eq_map hdistinct hstanding, standing, standing, founders_append_singleton,
        if_pos hplace, List.map_map]
      refine List.map_congr_left fun d _ => ?_
      simp only [Function.comp_apply, latest_append_singleton, replaces_latest_iff]
    · have hnone : ∀ d ∈ standing ws, ¬ e.Replaces d := by
        intro d hd hed
        obtain ⟨c, hc, rfl⟩ := List.mem_map.1 hd
        exact hplace ⟨c, mem_of_mem_founders hc, replaces_latest_iff.1 hed⟩
      have hkept : (founders ws).map (latest (ws ++ [e])) = standing ws := by
        refine List.map_congr_left fun d hd => ?_
        rw [latest_append_singleton, if_neg fun hed => hplace ⟨d, mem_of_mem_founders hd, hed⟩]
      have hlast : latest (ws ++ [e]) e = e := by
        rw [latest_append_singleton]
        split
        · rfl
        · next he => exact latest_of_pushed (by simpa [Entry.Replaces] using he) ws
      have hstanding : standing (ws ++ [e]) = standing ws ++ [e] := by
        rw [standing, founders_append_singleton, if_neg hplace, List.map_append, hkept,
          List.map_singleton, hlast]
      rw [hwritten, place_eq_append hnone, hstanding]

/-- Of what is left, no entry takes the place of another one. -/
theorem distinct_standing (ws : List Entry) : Distinct (standing ws) :=
  placeAll_eq_standing ws ▸ Distinct.placeAll List.Pairwise.nil ws

/-- All pushes are founders. -/
theorem filter_founders (ws : List Entry) :
    (founders ws).filter (fun e => !e.keyed) = ws.filter fun e => !e.keyed := by
  induction ws with
  | nil => rfl
  | cons e ws ih =>
    have hpushed (d : Entry) : (!d.keyed && decide ¬ d.Replaces e) = !d.keyed := by
      cases hd : d.keyed <;> simp [Entry.Replaces, hd]
    rw [founders, List.filter_cons, List.filter_cons, List.filter_filter, funext hpushed, ih]

/-- No push is lost or replaced. -/
theorem filter_standing (ws : List Entry) :
    (standing ws).filter (fun e => !e.keyed) = ws.filter fun e => !e.keyed := by
  have hkeyed : (fun e : Entry => !e.keyed) ∘ latest ws = fun e => !e.keyed :=
    funext fun d => congrArg not (keyed_latest ws d)
  rw [standing, List.filter_map, hkeyed, filter_founders]
  refine (List.map_congr_left fun d hd => ?_).trans (List.map_id' _)
  exact latest_of_pushed (by simpa using (List.mem_filter.1 hd).2) ws

/-! ## The index -/

/-- The places of keyed entries are counted from the given one on. -/
theorem mem_placesFrom {key : FindingKey} {i j : Nat} :
    (key, j) ∈ placesFrom i es ↔
      ∃ n e, j = i + n ∧ es[n]? = some e ∧ e.keyed = true ∧ e.finding.key = key := by
  induction es generalizing i with
  | nil => simp [placesFrom]
  | cons c es ih =>
    have hhead : (key, j) ∈ (if c.keyed then [(c.finding.key, i)] else []) ↔
        j = i ∧ c.keyed = true ∧ c.finding.key = key := by
      by_cases hc : c.keyed = true
      · simp [hc, eq_comm, and_comm]
      · simp [hc]
    rw [placesFrom, List.mem_append, ih, hhead]
    constructor
    · rintro (⟨n, e, hj, he⟩ | ⟨hj, hc⟩)
      · exact ⟨n + 1, e, by omega, by simpa using he⟩
      · exact ⟨0, c, hj, rfl, hc⟩
    · rintro ⟨n | n, e, hj, he, hkey⟩
      · obtain rfl : c = e := by simpa using he
        exact .inr ⟨hj, hkey⟩
      · exact .inl ⟨n, e, by omega, by simpa using he, hkey⟩

/-- Distinct entries have different keys. -/
theorem Distinct.nodup_keys_placesFrom (hes : Distinct es) (i : Nat) :
    ((placesFrom i es).map Prod.fst).Nodup := by
  induction es generalizing i with
  | nil => exact List.nodup_nil
  | cons e es ih =>
    obtain ⟨he, hrest⟩ := List.pairwise_cons.1 hes
    rw [placesFrom]
    split
    · next hkeyed =>
      have hfresh : e.finding.key ∉ (placesFrom (i + 1) es).map Prod.fst := by
        intro hmem
        obtain ⟨⟨key, j⟩, hj, rfl⟩ := List.mem_map.1 hmem
        obtain ⟨n, d, -, hd, hdkeyed, hdkey⟩ := mem_placesFrom.1 hj
        exact he d (List.mem_of_getElem? hd) ⟨hdkeyed, hkeyed, hdkey.symm⟩
      rw [List.map_append, List.map_singleton, List.nodup_append]
      refine ⟨ih hrest _, List.nodup_singleton _, fun a ha b hb hab => ?_⟩
      obtain rfl : b = e.finding.key := List.mem_singleton.1 hb
      exact hfresh (hab ▸ ha)
    · rw [List.append_nil]
      exact ih hrest _

end Entries

namespace Buffer

variable {b : Buffer}

/-- An entry stands at a place, is keyed and has the key. -/
def KeyedAt (b : Buffer) (key : FindingKey) (i : Nat) : Prop :=
  ∃ e, b.entries[i]? = some e ∧ e.keyed = true ∧ e.finding.key = key

/-- The index maps the keys of the keyed entries, which are distinct, to their places. -/
structure WellIndexed (b : Buffer) : Prop where
  nodup_keys : (b.index.map Prod.fst).Nodup
  mem_iff : ∀ key i, (key, i) ∈ b.index ↔ b.KeyedAt key i
  place?_iff : ∀ key i, b.place? key = some i ↔ b.KeyedAt key i
  keys_apart : b.entries.toList.Pairwise fun d e =>
    d.keyed = true → e.keyed = true → d.finding.key ≠ e.finding.key

/-- A filled buffer holds what the writes leave. -/
theorem toList_filled (ws : List Entry) : (filled ws).entries.toList = Entries.standing ws := by
  rw [filled, toList_foldl_write indexed_empty]
  exact Entries.placeAll_eq_standing ws

/-- The index of a filled buffer maps its keys to their places. -/
theorem wellIndexed_filled (ws : List Entry) : (filled ws).WellIndexed := by
  have hdistinct : Entries.Distinct (filled ws).entries.toList :=
    (toList_filled ws).symm ▸ Entries.distinct_standing ws
  have hindex := (tight_filled ws).index_eq
  have hnodup : ((filled ws).index.map Prod.fst).Nodup := by
    rw [hindex]
    exact hdistinct.nodup_keys_placesFrom 0
  have hmem (key : FindingKey) (i : Nat) :
      (key, i) ∈ (filled ws).index ↔ (filled ws).KeyedAt key i := by
    rw [hindex, Entries.mem_placesFrom, KeyedAt]
    simp
  refine ⟨hnodup, hmem, fun key i => ?_, ?_⟩
  · rw [← hmem, place?, Option.map_eq_some_iff]
    constructor
    · rintro ⟨⟨key', j⟩, hfind, rfl⟩
      have hkey : key' = key := by simpa using List.find?_some hfind
      exact hkey ▸ List.mem_of_find?_eq_some hfind
    · intro hin
      obtain ⟨p, hp⟩ : ∃ p, (filled ws).index.find? (·.1 = key) = some p := by
        rw [← Option.isSome_iff_exists, List.find?_isSome]
        exact ⟨(key, i), hin, by simp⟩
      have hkey : p.1 = key := by simpa using List.find?_some hp
      have hsame := List.inj_on_of_nodup_map hnodup (List.mem_of_find?_eq_some hp) hin hkey
      exact ⟨p, hp, by rw [hsame]⟩
  · refine hdistinct.imp fun {d e} hde hd he hkey => hde ⟨he, hd, hkey⟩

end Buffer

/-- Whatever way a buffer is filled: its index maps exactly the keys of its keyed entries, each to
the place of its one entry, and its entries are the pushes and the first upsert of each key in the
order of writing, every push as it was written and every upsert as its key was written last. -/
theorem Script.buffer_holds (s : Script) :
    s.buffer.WellIndexed ∧
    s.buffer.entries.toList = (Entries.founders s.writes).map (Entries.latest s.writes) ∧
    s.buffer.entries.toList.filter (fun e => !e.keyed) = s.writes.filter fun e => !e.keyed := by
  rw [s.buffer_eq, Buffer.toList_filled]
  exact ⟨Buffer.wellIndexed_filled s.writes, rfl, Entries.filter_standing s.writes⟩

example :
    let said (message : String) : Finding :=
      ⟨some 0, "orders", "amount", "r", message, .success, "r1"⟩
    let merged := Script.empty.upsert (said "fresh")
    (((Script.empty.upsert (said "stale")).push (said "pushed")).merge merged).buffer.findings =
      [said "fresh", said "pushed"] := by decide

end RowAudit
