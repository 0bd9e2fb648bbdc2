import RowAudit.Proofs.Buffer
import RowAudit.Proofs.Check.Calls
import RowAudit.Run.Basic

/-!
# The findings of a run that remembers nothing

A rule has a block of findings of its own (`Run.block`): one for each row of its table, or one that
says that there is no such table. Where aggregations are not remembered, checking a rule writes the
entries of its block, whatever the buffer holds and whatever has been checked before
(`Run.checkRule_run`), and a run writes the blocks of its enabled rules one after the other
(`Run.validate_eq`).
-/

namespace RowAudit.Run

/-- The outcome of a rule on a row of its table, or the problem that prevents one. -/
def verdict (run : Run) (r : Rule) (t : Table) (row : Row) : Except Problem Outcome :=
  (((Plan.ofRule (run.context r t) r).judge r (run.context r t) row).run .empty).1

/-- The findings of a rule by itself. -/
def block (run : Run) (r : Rule) : List Finding :=
  match run.input.datasets.table? r.table with
  | none => [tableMissing r]
  | some t => t.rows.mapIdx fun i row => finding r i (run.verdict r t row)

/-- A finding of a rule as it is written: findings on rows of replacing rules are keyed. -/
def entry (r : Rule) (f : Finding) : Entry := ⟨f, r.kind.isReplacing && f.rowIndex.isSome⟩

/-- The entries that a rule writes. -/
def entries (run : Run) (r : Rule) : List Entry := (run.block r).map (entry r)

/-- A run over one table, on the first day of 1970. -/
def onTable (settings : Settings) (name : String) (rows : List Row) (rules : List Rule) : Run where
  settings := settings
  input := ⟨.ofList [(name, rows)], rules, []⟩
  now := .startOfDay ⟨1970, 1, 1, by decide, by decide⟩

variable {run : Run}

/-- A finding on a row is written as its entry. -/
theorem write_eq (r : Rule) (b : Buffer) (f : Finding) (hf : f.rowIndex.isSome = true) :
    write r b f = b.write (entry r f) := by
  unfold write entry
  rw [hf, Bool.and_true]
  rfl

/-- Checking rows writes the entries of their findings and leaves the memo as it is. -/
theorem checkRows_run (r : Rule) (t : Table) (hm : run.settings.memoize = false) (rows : List Row)
    (index : Nat) (b : Buffer) (m : Memo) :
    (checkRows (.ofRule (run.context r t) r) r (run.context r t) index rows b).run m =
      (((rows.mapIdx fun i row => finding r (index + i) (run.verdict r t row)).map (entry r)).foldl
        Buffer.write b, m) := by
  induction rows generalizing index b with
  | nil => rfl
  | cons row rest ih =>
    have hjudge :
        StateT.run ((Plan.ofRule (run.context r t) r).judge r (run.context r t) row).run m =
        (run.verdict r t row, m) := Plan.judge_of_not_memoize _ r row hm m
    have hindex : (fun i row => finding r (index + (i + 1)) (run.verdict r t row)) =
        fun i row => finding r (index + 1 + i) (run.verdict r t row) := by
      funext i row
      rw [Nat.add_assoc, Nat.add_comm 1 i]
    rw [checkRows, StateT.run_bind, hjudge, List.mapIdx_cons, hindex]
    exact (ih (index + 1) _).trans (by rw [write_eq r b _ rfl]; rfl)

/-- Checking a rule writes the entries of its block and leaves the memo as it is. -/
theorem checkRule_run (hm : run.settings.memoize = false) (r : Rule) (b : Buffer) (m : Memo) :
    (run.checkRule r b).run m = ((run.entries r).foldl Buffer.write b, m) := by
  unfold checkRule entries block
  cases run.input.datasets.table? r.table with
  | none =>
    have hkeyed : entry r (tableMissing r) = ⟨tableMissing r, false⟩ := by
      rw [entry, show (tableMissing r).rowIndex.isSome = false from rfl, Bool.and_false]
    rw [List.map_singleton, hkeyed]
    rfl
  | some t =>
    simpa using checkRows_run r t hm t.rows 0 b m

/-- Checking rules writes the entries of their blocks one after the other. -/
theorem checkRules_run (hm : run.settings.memoize = false) (rules : List Rule) (b : Buffer)
    (m : Memo) :
    (run.checkRules rules b).run m = ((rules.flatMap run.entries).foldl Buffer.write b, m) := by
  induction rules generalizing b with
  | nil => rfl
  | cons r rest ih =>
    rw [checkRules, StateT.run_bind, checkRule_run hm, List.flatMap_cons, List.foldl_append]
    exact ih _

/-- A run that remembers nothing writes the blocks of its enabled rules one after the other. -/
theorem validate_eq (hm : run.settings.memoize = false) :
    run.validate =
      run.report ((run.enabledRules.flatMap run.entries).foldl Buffer.write .empty) := by
  unfold validate
  rw [checkRules_run hm]

/-- The report of a buffer depends on its entries alone. -/
theorem report_congr {b c : Buffer} (h : b.entries.toList = c.entries.toList) :
    run.report b = run.report c := by
  unfold report Buffer.findings
  rw [h]

end RowAudit.Run
