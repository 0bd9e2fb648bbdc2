import RowAudit.Aggregation.Memo
import RowAudit.Proofs.Aggregation.CallSite

/-!
# What a memo answers

The values of aggregations are kept under their call sites. So a memo answers with what an
aggregation computes as long as it is asked for no two aggregations that clash: that have one call
site, where one has a value that the other one does not have (`Aggregation.Clash`). And only so
long: among aggregations of which two clash there is an order of questions that is answered wrongly
(`Memo.answers_eq_iff`).
-/

namespace RowAudit

open Formula (Fault)

/-- Two aggregations have one call site, but one has a value that the other one does not have. -/
def Aggregation.Clash (rows : List Row) (a b : Aggregation) : Prop :=
  a.callSite = b.callSite ∧ ∃ v, a.compute rows = .ok v ∧ b.compute rows ≠ .ok v

/-- Aggregations clash only over a list of conditions. -/
theorem Aggregation.Clash.hasConditions {rows : List Row} {a b : Aggregation} (h : Clash rows a b) :
    a.hasConditions = true ∨ b.hasConditions = true := by
  obtain ⟨hsite, v, ha, hb⟩ := h
  cases hca : a.hasConditions with
  | true => exact .inl rfl
  | false =>
    cases hcb : b.hasConditions with
    | true => exact .inr rfl
    | false => exact absurd (compute_eq_of_callSite_eq hca hcb hsite rows ▸ ha) hb

namespace Memo

/-- The answers to questions asked one after the other. -/
def answers : List (Table × Aggregation) → StateM Memo (List (Except Fault Aggregation.Result))
  | [] => pure []
  | (t, a) :: rest => do
    let x ← (fetch t.name t.rows a).run
    let xs ← answers rest
    pure (x :: xs)

/-- What a memo holds for the aggregations that may be asked for is what they compute. -/
def Honest (d : Datasets) (asked : String → Aggregation → Prop) (m : Memo) : Prop :=
  ∀ t, d.table? t.name = some t → ∀ a, asked t.name a →
    ∀ v, m.find? (keyOf t.name a) = some v → a.compute t.rows = .ok v

/-- No two aggregations that may be asked for over one table clash. -/
def ClashFree (d : Datasets) (asked : String → Aggregation → Prop) : Prop :=
  ∀ t, d.table? t.name = some t → ∀ a b, asked t.name a → asked t.name b →
    ¬ Aggregation.Clash t.rows a b

section
variable {d : Datasets} {asked : String → Aggregation → Prop} {m : Memo} {t : Table}
  {a : Aggregation}

/-- Under a new key the value that is kept is found, and under any other one what was found
before. -/
theorem find?_keep (m : Memo) (key key' : MemoKey) (v : Aggregation.Result)
    (h : m.find? key = none) :
    (m.keep key v).find? key' = if key' = key then some v else m.find? key' := by
  unfold keep
  rw [h]
  unfold find? at h ⊢
  rw [List.find?_append, List.find?_singleton]
  by_cases hk : key' = key
  · subst hk
    rw [Option.map_eq_none_iff.1 h]
    simp
  · have hk' : ¬ key = key' := fun h => hk h.symm
    simp [hk, hk']

/-- An honest memo answers with what is computed, and stays honest. -/
theorem Honest.fetch (hfree : ClashFree d asked) (h : m.Honest d asked)
    (ht : d.table? t.name = some t) (ha : asked t.name a) :
    (fetch t.name t.rows a m).1 = a.compute t.rows ∧
    (fetch t.name t.rows a m).2.Honest d asked := by
  unfold Memo.fetch
  cases hfind : m.find? (keyOf t.name a) with
  | some v => exact ⟨(h t ht a ha v hfind).symm, h⟩
  | none =>
    cases hcompute : a.compute t.rows with
    | error fault => exact ⟨rfl, h⟩
    | ok v =>
      refine ⟨rfl, fun u hu b hb w hw => ?_⟩
      have hmiss : ({ m with misses := m.misses + 1 } : Memo).find? (keyOf t.name a) = none := hfind
      rw [find?_keep _ _ _ _ hmiss] at hw
      split at hw
      · next hkey =>
        -- The value was kept just now, for an aggregation with the same key.
        cases hw
        obtain ⟨hname, hsite⟩ := MemoKey.mk.inj hkey
        obtain rfl : u = t := Option.some.inj (hu.symm.trans (hname ▸ ht))
        exact Classical.byContradiction fun hne =>
          hfree u hu a b ha hb ⟨hsite.symm, _, hcompute, hne⟩
      · exact h u hu b hb w hw

/-- An empty memo is honest. -/
theorem honest_empty : empty.Honest d asked := fun _ _ _ _ _ h => nomatch h

/-- The answers to all orders of questions are right exactly if no two aggregations that may be
asked for clash. -/
theorem answers_eq_iff :
    (∀ questions : List (Table × Aggregation),
      (∀ q ∈ questions, d.table? q.1.name = some q.1 ∧ asked q.1.name q.2) →
      ((answers questions).run .empty).1 = questions.map fun q => q.2.compute q.1.rows) ↔
    ClashFree d asked := by
  constructor
  · intro hall t ht a b ha hb ⟨hsite, v, hav, hbv⟩
    have hanswers := hall [(t, a), (t, b)] fun q hq => by
      rcases List.mem_cons.1 hq with rfl | hq
      · exact ⟨ht, ha⟩
      · rw [List.mem_singleton.1 hq]
        exact ⟨ht, hb⟩
    have hkey : keyOf t.name b = keyOf t.name a := by rw [keyOf, keyOf, hsite]
    have hfirst : Memo.fetch t.name t.rows a .empty =
        (.ok v, ({ empty with misses := 1 } : Memo).keep (keyOf t.name a) v) := by
      unfold Memo.fetch
      rw [hav]
      rfl
    have hsecond : (Memo.fetch t.name t.rows b
        (({ empty with misses := 1 } : Memo).keep (keyOf t.name a) v)).1 = .ok v := by
      have hfind : (({ empty with misses := 1 } : Memo).keep (keyOf t.name a) v).find?
          (keyOf t.name b) = some v := by
        rw [find?_keep _ _ _ _ rfl, if_pos hkey]
      unfold Memo.fetch
      rw [hfind]
    have hrun : ((answers [(t, a), (t, b)]).run .empty).1 =
        [(Memo.fetch t.name t.rows a .empty).1,
         (Memo.fetch t.name t.rows b (Memo.fetch t.name t.rows a .empty).2).1] := rfl
    rw [hrun, hfirst, hsecond] at hanswers
    exact hbv (List.cons.inj (List.cons.inj hanswers).2).1.symm
  · intro hfree questions hasked
    have hanswers : ∀ m : Memo, m.Honest d asked →
        ((answers questions).run m).1 = questions.map fun q => q.2.compute q.1.rows := by
      induction questions with
      | nil => exact fun _ _ => rfl
      | cons q rest ih =>
        intro m hm
        obtain ⟨ht, ha⟩ := hasked q List.mem_cons_self
        obtain ⟨hanswer, hnext⟩ := hm.fetch hfree ht ha
        have hrest := ih (fun q hq => hasked q (List.mem_cons_of_mem _ hq)) _ hnext
        show (Memo.fetch q.1.name q.1.rows q.2 m).1 ::
          ((answers rest).run (Memo.fetch q.1.name q.1.rows q.2 m).2).1 = _
        rw [hanswer, hrest, List.map_cons]
    exact hanswers .empty honest_empty

end

end Memo

end RowAudit
