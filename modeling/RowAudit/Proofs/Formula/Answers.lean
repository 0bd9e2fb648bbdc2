import RowAudit.Formula.Scope
import RowAudit.Proofs.Aggregation.Memo
import RowAudit.Proofs.Formula.Agreement

/-!
# What a scope answers

A formula over a table has the values of its aggregations from the scope, which looks for a
configured aggregation with the same call site and computes that one, or remembers a value that was
kept under the call site (`Scope.answer`). What is true of computed values and depends on the call
site alone is therefore true of all answers as long as it is true of what is remembered, and it
stays so (`Scope.Remembers.answer`).
-/

namespace RowAudit.Formula.Scope

variable {s : Scope} {m : Memo} {a b : Aggregation} {r : Aggregation.Result}

/-- The aggregation that is computed for a given one has its call site. -/
theorem callSite_configured (s : Scope) (a : Aggregation) :
    (s.configured a).callSite = a.callSite := by
  unfold configured
  cases hfind : s.aggregations.find? fun c => c.callSite == a.callSite with
  | none => simp [hfind]
  | some c => simpa [hfind] using List.find?_some hfind

/-- The value of an aggregation over the table, computed or remembered. -/
def answer (s : Scope) (a : Aggregation) : Run Memo Aggregation.Result :=
  if s.memoize then Memo.fetch s.name s.rows (s.configured a)
  else
    match (s.configured a).compute s.rows with
    | .ok r => pure r
    | .error fault => throw fault

/-- A call is the answer, with the handling of the configured aggregation. -/
theorem run_call (s : Scope) (a : Aggregation) (m : Memo) : (s.call a).run m =
    (((s.answer a).run m).1.map (evaluated (s.configured a).handling), ((s.answer a).run m).2) := by
  have hcall : s.call a =
      s.answer a >>= fun r => pure (evaluated (s.configured a).handling r) := by
    unfold call answer
    dsimp only
    split
    · rfl
    · cases (s.configured a).compute s.rows <;> rfl
  rw [hcall, run_bind_eq]
  cases ((s.answer a).run m).1 <;> rfl

/-- The configured aggregation has the key of the one that it is configured for. -/
theorem keyOf_configured (s : Scope) (a : Aggregation) :
    Memo.keyOf s.name (s.configured a) = Memo.keyOf s.name a := by
  rw [Memo.keyOf, Memo.keyOf, callSite_configured]

/-- An answer is computed, or else remembered. -/
theorem answer_cases (s : Scope) (a : Aggregation) (m : Memo) :
    ((s.answer a).run m).1 = (s.configured a).compute s.rows ∨
      s.memoize = true ∧ ∃ r, m.find? (Memo.keyOf s.name a) = some r ∧
        ((s.answer a).run m).1 = .ok r := by
  unfold answer
  split
  · next hmemoize =>
    show (Memo.fetch s.name s.rows (s.configured a) m).1 = _ ∨
      s.memoize = true ∧ ∃ r, _ ∧ (Memo.fetch s.name s.rows (s.configured a) m).1 = _
    unfold Memo.fetch
    rw [keyOf_configured]
    cases hfind : m.find? (Memo.keyOf s.name a) with
    | some r => exact .inr ⟨hmemoize, r, rfl, rfl⟩
    | none =>
      left
      cases (s.configured a).compute s.rows <;> rfl
  · left
    cases (s.configured a).compute s.rows <;> rfl

/-- What is remembered after an answer was remembered before, or is the answer, just computed. -/
theorem find?_answer {key : MemoKey} (h : ((s.answer a).run m).2.find? key = some r) :
    m.find? key = some r ∨
      key = Memo.keyOf s.name a ∧ (s.configured a).compute s.rows = .ok r := by
  unfold answer at h
  split at h
  · change (Memo.fetch s.name s.rows (s.configured a) m).2.find? key = some r at h
    unfold Memo.fetch at h
    rw [keyOf_configured] at h
    cases hfind : m.find? (Memo.keyOf s.name a) with
    | some v =>
      rw [hfind] at h
      exact .inl h
    | none =>
      rw [hfind] at h
      cases hcompute : (s.configured a).compute s.rows with
      | error fault =>
        rw [hcompute] at h
        exact .inl h
      | ok v =>
        rw [hcompute] at h
        have hmiss :
            ({ m with misses := m.misses + 1 } : Memo).find? (Memo.keyOf s.name a) = none :=
          hfind
        rw [Memo.find?_keep _ _ _ _ hmiss] at h
        split at h
        · next hkey =>
          cases h
          exact .inr ⟨hkey, rfl⟩
        · exact .inl h
  · cases hcompute : (s.configured a).compute s.rows <;> rw [hcompute] at h <;> exact .inl h

/-- Every value that is remembered for the table is one of which `V` holds. -/
def Remembers (s : Scope) (V : Aggregation → Aggregation.Result → Prop) (m : Memo) : Prop :=
  s.memoize = true → ∀ a r, m.find? (Memo.keyOf s.name a) = some r → V a r

/-- What holds of the values that are computed, and depends on the call site alone. -/
structure Respects (s : Scope) (V : Aggregation → Aggregation.Result → Prop) : Prop where
  congr : ∀ {a b r}, a.callSite = b.callSite → V a r → V b r
  computed : ∀ {a r}, (s.configured a).compute s.rows = .ok r → V a r

section
variable {V : Aggregation → Aggregation.Result → Prop}

/-- An empty memo remembers nothing. -/
theorem remembers_empty (s : Scope) (V : Aggregation → Aggregation.Result → Prop) :
    s.Remembers V .empty := fun _ _ _ h => nomatch h

/-- An answer is one of which `V` holds, and so is all that is remembered after it. -/
theorem Remembers.answer (hV : s.Respects V) (hm : s.Remembers V m) (a : Aggregation) :
    s.Remembers V ((s.answer a).run m).2 ∧ ∀ r, ((s.answer a).run m).1 = .ok r → V a r := by
  constructor
  · intro hmemoize b r hr
    obtain hr | ⟨hkey, hr⟩ := find?_answer hr
    · exact hm hmemoize b r hr
    · exact hV.congr (MemoKey.mk.inj hkey).2.symm (hV.computed hr)
  · intro r hr
    obtain hcompute | ⟨hmemoize, v, hv, hanswer⟩ := s.answer_cases a m
    · exact hV.computed (hcompute.symm.trans hr)
    · cases hanswer.symm.trans hr
      exact hm hmemoize a r hv

end

/-- A value of an aggregation with a given call site over the table. -/
def HasValue (s : Scope) (a : Aggregation) (r : Aggregation.Result) : Prop :=
  ∃ c : Aggregation, c.callSite = a.callSite ∧ c.compute s.rows = .ok r

/-- The values under a call site are those that are computed, and depend on the call site alone. -/
theorem respects_hasValue (s : Scope) : s.Respects s.HasValue where
  congr := by
    rintro a b r hsite ⟨c, hc, hr⟩
    exact ⟨c, hc.trans hsite, hr⟩
  computed hr := ⟨_, s.callSite_configured _, hr⟩

/-- The value of the first configured aggregation with a given call site, if there is one. -/
def HasConfiguredValue (s : Scope) (a : Aggregation) (r : Aggregation.Result) : Prop :=
  ∀ c, s.aggregations.find? (fun c => c.callSite == a.callSite) = some c → c.compute s.rows = .ok r

/-- The value of the configured aggregation is the one that is computed, and depends on the call
site alone. -/
theorem respects_hasConfiguredValue (s : Scope) : s.Respects s.HasConfiguredValue where
  congr := by
    intro a b r hsite h c hc
    rw [← hsite] at hc
    exact h c hc
  computed := by
    intro a r hr c hc
    rw [configured, hc] at hr
    exact hr

end RowAudit.Formula.Scope
