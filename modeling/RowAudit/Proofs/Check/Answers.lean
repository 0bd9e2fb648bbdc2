import RowAudit.Check.Basic

/-!
# What a check says about a row

A check that needs nothing from other tables gives one outcome on a row, in every setting that it
may have been prepared in, and leaves the memo as it is (`Check.Answers`). An absent cell may pass
without being looked at (`Check.skips`); apart from that the outcome is the one for the cell
(`Check.answers_iff`).
-/

namespace RowAudit

/-- The setting of a rule on a table by itself. -/
def Context.ofTable (rule : String) (table : Table) : Context where
  rule := rule
  table := table
  datasets := .ofList [(table.name, table.rows)]
  lists := []
  timeAware := false
  memoize := false
  now := .startOfDay ⟨2000, 1, 1, by decide, by decide⟩

namespace Check

/-- A check that needs nothing from other tables passes on a row, or fails on it. -/
def Answers (check : Check) (column : String) (ctx : Context) (row : Row) (ok : Bool) : Prop :=
  ∀ (first : Context) (m : Memo), ∃ o : Outcome, o.isValid = ok ∧
    ExceptT.run ((check.prepare first).judge column ctx row) m = (.ok o, m)

/-- Whether the cell of a row passes for being absent. -/
def skips (check : Check) (column : String) (row : Row) : Bool :=
  column ≠ "" && (row.get column).isAbsent && check.passesAbsent

section
variable {check : Check} {column : String} {ctx : Context} {row : Row} {o : Outcome} {ok : Bool}

/-- A check answers once. -/
theorem Answers.unique {ok' : Bool} (h : check.Answers column ctx row ok)
    (h' : check.Answers column ctx row ok') : ok = ok' := by
  obtain ⟨o, rfl, hrun⟩ := h ctx .empty
  obtain ⟨o', rfl, hrun'⟩ := h' ctx .empty
  have hresult : (.ok o : Except Problem Outcome) = .ok o' :=
    (Prod.mk.inj (hrun.symm.trans hrun')).1
  rw [Except.ok.inj hresult]

/-- A check answers with its outcome for the cell, unless the cell passes for being absent. -/
theorem answers_iff (hplain : ∀ first, check.prepare first = .plain check)
    (ho : (Prepared.plain check).judgeCell column (row.get column) ctx row = pure o) :
    check.Answers column ctx row ok ↔ ok = (check.skips column row || o.isValid) := by
  have hanswers : check.Answers column ctx row (check.skips column row || o.isValid) := by
    intro first m
    rw [hplain, Prepared.judge, ho]
    have hskips : (column ≠ "" ∧ (row.get column).isAbsent = true ∧
        (Prepared.plain check).check.passesAbsent = true) ↔ check.skips column row = true := by
      simp [skips, Prepared.check, and_assoc]
    cases hs : check.skips column row with
    | true =>
      rw [if_pos (hskips.2 hs)]
      exact ⟨.pass, rfl, rfl⟩
    | false =>
      rw [if_neg fun h => Bool.eq_false_iff.1 hs (hskips.1 h)]
      exact ⟨o, rfl, rfl⟩
  constructor
  · intro h
    exact h.unique hanswers
  · rintro rfl
    exact hanswers

/-- No check skips a present cell. -/
theorem skips_of_present (hv : (row.get column).isAbsent = false) :
    check.skips column row = false := by
  simp [skips, hv]

/-- On a present cell a plain check answers what it says about the cell. -/
theorem answers_of_judgeCell (hv : (row.get column).isAbsent = false)
    (hplain : ∀ first, check.prepare first = .plain check)
    (ho : (Prepared.plain check).judgeCell column (row.get column) ctx row = pure o) :
    check.Answers column ctx row o.isValid := by
  rw [answers_iff hplain ho, skips_of_present hv, Bool.false_or]

end

end Check

end RowAudit
