import Mathlib.Data.List.Induction
import Mathlib.Data.List.Nodup
import Mathlib.Data.List.Perm.Basic
import RowAudit.Store

/-!
# What a store holds after requests

Which records a store has to hold, and in which order, can be told from the requests that it has
served: under an id there is the record that was added or updated last and has not been deleted or
cleared since (`Served.last?`), and records stand in the order in which they were added
(`Served.addedAt?`). These two determine the list of records (`Listed.unique`). The main statement
says that a store holds this list after every request, and answers what can be told from it
(`Listed.serve`).
-/

namespace RowAudit.Store

variable {α : Type} [Record α]

/-! ## Histories -/

/-- A request that has been served, and its answer. -/
structure Served (α : Type) where
  request : Request α
  answer : Answer α

/-- What a request does to the records. -/
inductive Effect (α : Type) where
  | adds (r : α)
  | replaces (r : α)
  | removes (id : String)
  | empties
  | nothing

/-- What is under an id after an effect, given what was there. -/
def Effect.leaves (id : String) (old : Option α) : Effect α → Option α
  | adds r => if Record.id r = id then some r else old
  | replaces r => if Record.id r = id then some r else old
  | removes i => if i = id then none else old
  | empties => none
  | nothing => old

/-- When the record under an id was added, after an effect and given what was known. -/
def Effect.dates (id : String) (now : Nat) (old : Option Nat) : Effect α → Option Nat
  | adds r => if Record.id r = id then some now else old
  | replaces _ => old
  | removes i => if i = id then none else old
  | empties => none
  | nothing => old

namespace Served

/-- What a served request has done, by its answer. -/
def effect : Served α → Effect α
  | ⟨.add r, .done⟩ => .adds r
  | ⟨.update r, .done⟩ => .replaces r
  | ⟨.delete id, .removed _⟩ => .removes id
  | ⟨.clear, _⟩ => .empties
  | _ => .nothing

/-- The record that a history leaves under an id, given the initial records: the one that was added
or updated last, unless it was deleted or cleared since. Histories begin with the last request. -/
def last? (initial : List α) (id : String) : List (Served α) → Option α
  | [] => initial.find? (Record.id · == id)
  | x :: earlier => x.effect.leaves id (last? initial id earlier)

/-- When the record under an id was added: the initial records come first, then the requests. -/
def addedAt? (initial : List α) (id : String) : List (Served α) → Option Nat
  | [] => initial.findIdx? (Record.id · == id)
  | x :: earlier =>
    x.effect.dates id (initial.length + earlier.length) (addedAt? initial id earlier)

variable {initial : List α} {log : List (Served α)} {id : String}

/-- What is left under an id has this id. -/
theorem id_of_last? {r : α} (h : last? initial id log = some r) : Record.id r = id := by
  induction log with
  | nil =>
    rw [last?] at h
    simpa using List.find?_some h
  | cons x earlier ih =>
    rw [last?] at h
    generalize x.effect = done at h
    cases done with
    | adds s | replaces s =>
      rw [Effect.leaves] at h
      split at h
      · next hs => exact Option.some.inj h ▸ hs
      · exact ih h
    | removes i =>
      rw [Effect.leaves] at h
      split at h
      · cases h
      · exact ih h
    | empties => cases h
    | nothing => exact ih h

/-- Everything was added before now. -/
theorem addedAt?_lt {t : Nat} (h : addedAt? initial id log = some t) :
    t < initial.length + log.length := by
  induction log with
  | nil => exact (List.findIdx?_eq_some_iff_findIdx_eq.1 h).1
  | cons x earlier ih =>
    rw [List.length_cons, ← Nat.add_assoc]
    rw [addedAt?] at h
    generalize x.effect = done at h
    cases done with
    | adds s =>
      rw [Effect.dates] at h
      split at h
      · cases h
        exact Nat.lt_succ_self _
      · exact Nat.lt_succ_of_lt (ih h)
    | removes i =>
      rw [Effect.dates] at h
      split at h
      · cases h
      · exact Nat.lt_succ_of_lt (ih h)
    | empties => cases h
    | replaces _ | nothing => exact Nat.lt_succ_of_lt (ih h)

end Served

open Served

/-- One id was added before another one. -/
def AddedBefore (initial : List α) (log : List (Served α)) (i j : String) : Prop :=
  ∃ t u, addedAt? initial i log = some t ∧ addedAt? initial j log = some u ∧ t < u

/-- The records that a history leaves, in the order in which they were added. -/
structure Listed (initial : List α) (log : List (Served α)) (rs : List α) : Prop where
  mem_iff : ∀ r, r ∈ rs ↔ last? initial (Record.id r) log = some r
  added : ∀ r ∈ rs, (addedAt? initial (Record.id r) log).isSome
  order : rs.Pairwise fun r s => AddedBefore initial log (Record.id r) (Record.id s)

/-- What a store has to answer after a history. -/
inductive Answers (initial : List α) (log : List (Served α)) : Request α → Answer α → Prop
  | add {r : α} : last? initial (Record.id r) log = none → Answers initial log (.add r) .done
  | addTaken {r s : α} : last? initial (Record.id r) log = some s →
      Answers initial log (.add r)
        (.refused (.store "add" (describe α (Record.id r) ++ " already exists")))
  | update {r s : α} : last? initial (Record.id r) log = some s →
      Answers initial log (.update r) .done
  | updateMissing {r : α} : last? initial (Record.id r) log = none →
      Answers initial log (.update r) (.refused (.notFound (describe α (Record.id r))))
  | delete {id : String} {r : α} : last? initial id log = some r →
      Answers initial log (.delete id) (.removed r)
  | deleteMissing {id : String} : last? initial id log = none →
      Answers initial log (.delete id) (.refused (.notFound (describe α id)))
  | get (id : String) : Answers initial log (.get id) (.found (last? initial id log))
  | contains (id : String) :
      Answers initial log (.contains id) (.verdict (last? initial id log).isSome)
  | list {rs : List α} : Listed initial log rs → Answers initial log .list (.listed rs)
  | clear : Answers initial log .clear .done

/-! ## The list of a history -/

namespace Listed

variable {initial : List α} {log : List (Served α)} {rs ss : List α} {s : Store α} {r : α}
  {id : String}

/-- No record was added before itself. -/
theorem ne_of_addedBefore {i j : String} (h : AddedBefore initial log i j) : i ≠ j := by
  obtain ⟨t, u, ht, hu, hlt⟩ := h
  rintro rfl
  exact Nat.ne_of_lt hlt (Option.some.inj (ht.symm.trans hu))

/-- Ids are pairwise distinct. -/
theorem nodup (h : Listed initial log rs) : (rs.map Record.id).Nodup :=
  List.pairwise_map.2 (h.order.imp ne_of_addedBefore)

/-- A history leaves one list. -/
theorem unique (hr : Listed initial log rs) (hs : Listed initial log ss) : rs = ss := by
  have hperm : rs.Perm ss := (List.perm_ext_iff_of_nodup hr.nodup.of_map hs.nodup.of_map).2 fun r =>
    (hr.mem_iff r).trans (hs.mem_iff r).symm
  refine hperm.eq_of_pairwise (fun a b _ _ hab hba => ?_) hr.order hs.order
  obtain ⟨t, u, ht, hu, htu⟩ := hab
  obtain ⟨v, w, hv, hw, hvw⟩ := hba
  cases hu.symm.trans hv
  cases ht.symm.trans hw
  exact absurd htu (Nat.lt_asymm hvw)

/-- Under an id there is the record that the history leaves there. -/
theorem get?_eq (h : Listed initial log s.records) (id : String) :
    s.get? id = last? initial id log := by
  cases hlast : last? initial id log with
  | some r =>
    have hid : Record.id r = id := id_of_last? hlast
    have hmem : r ∈ s.records := (h.mem_iff r).2 (hid ▸ hlast)
    cases hget : s.get? id with
    | none =>
      have hne := List.find?_eq_none.1 hget r hmem
      exact absurd (beq_iff_eq.2 hid) hne
    | some x =>
      have hx : x ∈ s.records := List.mem_of_find?_eq_some hget
      have hxid : Record.id x = id := by simpa using List.find?_some hget
      rw [List.inj_on_of_nodup_map h.nodup hx hmem (hxid.trans hid.symm)]
  | none =>
    refine List.find?_eq_none.2 fun r hr hid => ?_
    rw [← beq_iff_eq.1 hid, (h.mem_iff r).1 hr] at hlast
    cases hlast

/-- A store contains the ids that have a last record. -/
theorem contains_eq (h : Listed initial log s.records) (id : String) :
    s.contains id = (last? initial id log).isSome := by
  rw [← h.get?_eq id, get?, Bool.eq_iff_iff, List.find?_isSome, Store.contains, List.any_eq_true]

/-- Records that were added when they were before stand in the order in which they stood. -/
theorem pairwise {later : List (Served α)} (h : Listed initial log rs)
    (hdate : ∀ r ∈ rs, addedAt? initial (Record.id r) later = addedAt? initial (Record.id r) log) :
    rs.Pairwise fun r s => AddedBefore initial later (Record.id r) (Record.id s) := by
  refine h.order.imp_of_mem fun {a b} ha hb hab => ?_
  obtain ⟨t, u, ht, hu, hlt⟩ := hab
  exact ⟨t, u, (hdate a ha).trans ht, (hdate b hb).trans hu, hlt⟩

/-! ## One request -/

variable {x : Served α}

/-- Histories that leave the same under every id, added at the same time, leave the same list. -/
theorem congr {initial' : List α} {log' : List (Served α)} (h : Listed initial log rs)
    (hlast : ∀ i, last? initial' i log' = last? initial i log)
    (hdate : ∀ i, addedAt? initial' i log' = addedAt? initial i log) : Listed initial' log' rs where
  mem_iff r := by rw [hlast, h.mem_iff]
  added r hr := by
    rw [hdate]
    exact h.added r hr
  order :=
    h.order.imp fun ⟨t, u, ht, hu, hlt⟩ => ⟨t, u, (hdate _).trans ht, (hdate _).trans hu, hlt⟩

/-- What changes nothing leaves the list. -/
theorem nothing (h : Listed initial log rs) (hx : x.effect = .nothing) :
    Listed initial (x :: log) rs :=
  h.congr (fun i => by rw [last?, hx, Effect.leaves]) fun i => by rw [addedAt?, hx, Effect.dates]

/-- A new record comes last. -/
theorem adds (h : Listed initial log rs) (hx : x.effect = .adds r)
    (hnew : last? initial (Record.id r) log = none) : Listed initial (x :: log) (rs ++ [r]) := by
  have hne : ∀ a ∈ rs, Record.id r ≠ Record.id a := by
    intro a ha hid
    rw [hid, (h.mem_iff a).1 ha] at hnew
    cases hnew
  have hold :
      ∀ a ∈ rs, addedAt? initial (Record.id a) (x :: log) = addedAt? initial (Record.id a) log := by
    intro a ha
    rw [addedAt?, hx, Effect.dates, if_neg (hne a ha)]
  have hdate : addedAt? initial (Record.id r) (x :: log) = some (initial.length + log.length) := by
    rw [addedAt?, hx, Effect.dates, if_pos rfl]
  constructor
  · intro a
    rw [List.mem_append, List.mem_singleton, last?, hx, Effect.leaves]
    split
    · next hid =>
      rw [Option.some_inj, eq_comm (a := a), or_iff_right fun ha => hne a ha hid]
    · next hid =>
      rw [h.mem_iff, or_iff_left]
      rintro rfl
      exact hid rfl
  · intro a ha
    rcases List.mem_append.1 ha with ha | ha
    · rw [hold a ha]
      exact h.added a ha
    · rw [List.mem_singleton.1 ha, hdate]
      rfl
  · refine List.pairwise_append.2 ⟨h.pairwise hold, List.pairwise_singleton _ _,
      fun a ha b hb => ?_⟩
    obtain ⟨t, ht⟩ := Option.isSome_iff_exists.1 (h.added a ha)
    rw [List.mem_singleton.1 hb]
    exact ⟨t, _, (hold a ha).trans ht, hdate, addedAt?_lt ht⟩

/-- Where ids are distinct, all records but the one with the id of `r` stay as they are. -/
theorem replaceFirst_eq_map (h : (rs.map Record.id).Nodup) (r : α) : replaceFirst r rs =
    rs.map fun x => if Record.id x = Record.id r then r else x := by
  induction rs with
  | nil => rfl
  | cons x rest ih =>
    rw [List.map_cons, List.nodup_cons] at h
    rw [replaceFirst, List.map_cons]
    by_cases hid : Record.id x = Record.id r
    · have hrest : rest.map (fun x => if Record.id x = Record.id r then r else x) = rest := by
        refine (List.map_congr_left fun y hy => if_neg fun hyid => h.1 ?_).trans (List.map_id rest)
        rw [hid, ← hyid]
        exact List.mem_map_of_mem hy
      rw [if_pos (beq_iff_eq.2 hid), if_pos hid, hrest]
    · rw [if_neg (mt beq_iff_eq.1 hid), if_neg hid, ih h.2]

/-- Where ids are distinct, all records but the one with the id stay. -/
theorem removeFirst_eq_filter (h : (rs.map Record.id).Nodup) (id : String) :
    removeFirst id rs = rs.filter (Record.id · ≠ id) := by
  induction rs with
  | nil => rfl
  | cons x rest ih =>
    rw [List.map_cons, List.nodup_cons] at h
    rw [removeFirst]
    by_cases hid : Record.id x = id
    · have hrest : ∀ y ∈ rest, decide (Record.id y ≠ id) = true := by
        intro y hy
        refine decide_eq_true fun hyid => h.1 ?_
        rw [hid, ← hyid]
        exact List.mem_map_of_mem hy
      rw [if_pos (beq_iff_eq.2 hid), List.filter_cons_of_neg (by simpa using hid),
        List.filter_eq_self.2 hrest]
    · rw [if_neg (mt beq_iff_eq.1 hid), List.filter_cons_of_pos (by simpa using hid), ih h.2]

/-- A record that is replaced keeps its place. -/
theorem replaces (h : Listed initial log rs) (hx : x.effect = .replaces r)
    (hold : (last? initial (Record.id r) log).isSome) :
    Listed initial (x :: log) (replaceFirst r rs) := by
  have hdate (i : String) : addedAt? initial i (x :: log) = addedAt? initial i log := by
    rw [addedAt?, hx, Effect.dates]
  obtain ⟨old, hlast⟩ := Option.isSome_iff_exists.1 hold
  have hid_old : Record.id old = Record.id r := id_of_last? hlast
  have hmem_old : old ∈ rs := (h.mem_iff old).2 (hid_old ▸ hlast)
  have hid (a : α) : Record.id (if Record.id a = Record.id r then r else a) = Record.id a := by
    split
    · next heq => exact heq.symm
    · rfl
  rw [replaceFirst_eq_map h.nodup]
  constructor
  · intro a
    rw [List.mem_map, last?, hx, Effect.leaves]
    split
    · next heq =>
      rw [Option.some_inj]
      constructor
      · rintro ⟨b, -, rfl⟩
        rw [hid] at heq
        rw [if_pos heq.symm]
      · rintro rfl
        exact ⟨old, hmem_old, if_pos hid_old⟩
    · next hne =>
      rw [← h.mem_iff]
      constructor
      · rintro ⟨b, hb, rfl⟩
        rw [hid] at hne
        rwa [if_neg (Ne.symm hne)]
      · exact fun ha => ⟨a, ha, if_neg (Ne.symm hne)⟩
  · intro a ha
    obtain ⟨b, hb, rfl⟩ := List.mem_map.1 ha
    rw [hid, hdate]
    exact h.added b hb
  · refine List.pairwise_map.2 ((h.pairwise fun a _ => hdate _).imp fun {a b} hab => ?_)
    rwa [hid, hid]

/-- A record that is deleted is gone, and the other ones stay. -/
theorem removes (h : Listed initial log rs) (hx : x.effect = .removes id) :
    Listed initial (x :: log) (removeFirst id rs) := by
  have hdate : ∀ a ∈ rs.filter (Record.id · ≠ id),
      addedAt? initial (Record.id a) (x :: log) = addedAt? initial (Record.id a) log := by
    intro a ha
    have hne : Record.id a ≠ id := of_decide_eq_true (List.mem_filter.1 ha).2
    rw [addedAt?, hx, Effect.dates, if_neg (Ne.symm hne)]
  rw [removeFirst_eq_filter h.nodup]
  constructor
  · intro a
    rw [List.mem_filter, decide_eq_true_iff, h.mem_iff, last?, hx, Effect.leaves]
    split
    · next heq => exact iff_of_false (fun ha => ha.2 heq.symm) nofun
    · next hne => exact and_iff_left (Ne.symm hne)
  · intro a ha
    rw [hdate a ha]
    exact h.added a (List.mem_filter.1 ha).1
  · refine (h.order.filter _).imp_of_mem fun {a b} ha hb hab => ?_
    obtain ⟨t, u, ht, hu, hlt⟩ := hab
    exact ⟨t, u, (hdate a ha).trans ht, (hdate b hb).trans hu, hlt⟩

/-- Removing all records leaves none. -/
theorem empties (hx : x.effect = .empties) : Listed initial (x :: log) [] where
  mem_iff r := by
    rw [last?, hx, Effect.leaves]
    exact iff_of_false List.not_mem_nil nofun
  added _ hr := nomatch hr
  order := .nil

/-- Of a list of records the first ones with their ids are kept, in the order of the list. -/
theorem ofList (initial : List α) : Listed initial [] (ofList initial).records := by
  induction initial using List.reverseRecOn with
  | nil => exact ⟨fun r => iff_of_false List.not_mem_nil nofun, nofun, .nil⟩
  | append_singleton initial r ih =>
    have hlast (i : String) : last? (initial ++ [r]) i [] =
        (last? initial i []).or (if Record.id r = i then some r else none) := by
      rw [last?, List.find?_append, List.find?_singleton]
      simp only [beq_iff_eq]
      rfl
    have hdate (i : String) : addedAt? (initial ++ [r]) i [] =
        (addedAt? initial i []).or (if Record.id r = i then some initial.length else none) := by
      rw [addedAt?, List.findIdx?_append, List.findIdx?_singleton]
      simp only [beq_iff_eq]
      split
      · rw [Option.map_some, Nat.zero_add]
        rfl
      · rfl
    have hsplit : Store.ofList (initial ++ [r]) =
        if (Store.ofList initial).contains (Record.id r) then Store.ofList initial
        else ⟨(Store.ofList initial).records ++ [r]⟩ := by
      rw [Store.ofList, List.foldl_append]
      rfl
    have hcontains := ih.contains_eq (Record.id r)
    rw [hsplit]
    split
    · next hold =>
      -- The record is dropped, and so it is when the list is searched: the earlier one is found.
      rw [hcontains] at hold
      obtain ⟨old, hold⟩ := Option.isSome_iff_exists.1 hold
      obtain ⟨t, ht⟩ := Option.isSome_iff_exists.1
        (ih.added old ((ih.mem_iff old).2 (id_of_last? hold ▸ hold)))
      rw [id_of_last? hold] at ht
      refine ih.congr (fun i => ?_) fun i => ?_
      · rw [hlast]
        by_cases hid : Record.id r = i
        · rw [← hid, hold, Option.some_or]
        · rw [if_neg hid, Option.or_none]
      · rw [hdate]
        by_cases hid : Record.id r = i
        · rw [← hid, ht, Option.some_or]
        · rw [if_neg hid, Option.or_none]
    · next hnew =>
      -- The record is added like one that comes with a request.
      rw [hcontains, Option.not_isSome_iff_eq_none] at hnew
      have hadded := @adds _ _ _ _ _ r ⟨.add r, .done⟩ ih rfl hnew
      have hnever : addedAt? initial (Record.id r) [] = none :=
        List.findIdx?_eq_none_iff.2 fun a ha => Bool.eq_false_iff.2 (List.find?_eq_none.1 hnew a ha)
      refine hadded.congr (fun i => ?_) fun i => ?_
      · show _ = if Record.id r = i then some r else last? initial i []
        rw [hlast]
        split
        · next hid => rw [← hid, hnew, Option.none_or]
        · exact Option.or_none
      · show _ = if Record.id r = i then some initial.length else addedAt? initial i []
        rw [hdate]
        split
        · next hid => rw [← hid, hnever, Option.none_or]
        · exact Option.or_none

end Listed

/-- A store that holds what its history leaves answers a request as it has to, and then holds what
its history leaves. -/
theorem Listed.serve {initial : List α} {log : List (Served α)} {s : Store α}
    (h : Listed initial log s.records) (q : Request α) :
    Answers initial log q (s.serve q).1 ∧
      Listed initial (⟨q, (s.serve q).1⟩ :: log) (s.serve q).2.records := by
  cases q with
  | add r =>
    cases hlast : last? initial (Record.id r) log with
    | some old =>
      have hserve : s.serve (.add r) =
          (.refused (.store "add" (describe α (Record.id r) ++ " already exists")), s) := by
        rw [Store.serve, add, h.contains_eq, hlast]
        rfl
      rw [hserve]
      exact ⟨.addTaken hlast, h.nothing rfl⟩
    | none =>
      have hserve : s.serve (.add r) = (.done, ⟨s.records ++ [r]⟩) := by
        rw [Store.serve, add, h.contains_eq, hlast]
        rfl
      rw [hserve]
      exact ⟨.add hlast, h.adds rfl hlast⟩
  | update r =>
    cases hlast : last? initial (Record.id r) log with
    | some old =>
      have hserve : s.serve (.update r) = (.done, ⟨replaceFirst r s.records⟩) := by
        rw [Store.serve, update, h.contains_eq, hlast]
        rfl
      rw [hserve]
      exact ⟨.update hlast, h.replaces rfl (by rw [hlast]; rfl)⟩
    | none =>
      have hserve : s.serve (.update r) =
          (.refused (.notFound (describe α (Record.id r))), s) := by
        rw [Store.serve, update, h.contains_eq, hlast]
        rfl
      rw [hserve]
      exact ⟨.updateMissing hlast, h.nothing rfl⟩
  | delete id =>
    cases hlast : last? initial id log with
    | some r =>
      have hserve : s.serve (.delete id) = (.removed r, ⟨removeFirst id s.records⟩) := by
        rw [Store.serve, delete, h.get?_eq, hlast]
      rw [hserve]
      exact ⟨.delete hlast, h.removes rfl⟩
    | none =>
      have hserve : s.serve (.delete id) = (.refused (.notFound (describe α id)), s) := by
        rw [Store.serve, delete, h.get?_eq, hlast]
      rw [hserve]
      exact ⟨.deleteMissing hlast, h.nothing rfl⟩
  | get id =>
    have hserve : s.serve (.get id) = (.found (last? initial id log), s) := by
      rw [Store.serve, h.get?_eq]
    rw [hserve]
    exact ⟨.get id, h.nothing rfl⟩
  | contains id =>
    have hserve : s.serve (.contains id) = (.verdict (last? initial id log).isSome, s) := by
      rw [Store.serve, h.contains_eq]
    rw [hserve]
    exact ⟨.contains id, h.nothing rfl⟩
  | list => exact ⟨.list h, h.nothing rfl⟩
  | clear => exact ⟨.clear, .empties rfl⟩

end RowAudit.Store
