import Mathlib.Data.List.Basic
import RowAudit.Proofs.Run.Findings

/-!
# Runs as sequences of blocks

The findings of rules that do not share keys do not meet in the buffer, so that a run is the blocks
of its enabled rules, one after the other, and each block is what a run of its rule alone finds.
`IsBlock` says what a block consists of: one failure if there is no table, and otherwise one finding
for each row, with a grade that follows from the verdict on the row. The main statement is
`Run.validate_eq_blocks`.
-/

namespace RowAudit

/-! ## Metrics -/

/-- The metrics of a report count its findings by their grades. -/
structure Report.Counts (report : Report) : Prop where
  total : report.metrics.totalResults = report.findings.length
  passed : report.metrics.passed = (report.ofGrade .success).length
  warnings : report.metrics.warnings = (report.ofGrade .warning).length
  failures : report.metrics.failures = (report.ofGrade .failure).length
  sum : report.metrics.passed + report.metrics.warnings + report.metrics.failures =
    report.metrics.totalResults

namespace Metrics

/-- One finding counts once, under its grade; the counts of rules stay. -/
theorem add_counts (m : Metrics) (f : Finding) :
    m.add f = { m with
      totalResults := m.totalResults + 1
      passed := m.passed + if f.grade = .success then 1 else 0
      warnings := m.warnings + if f.grade = .warning then 1 else 0
      failures := m.failures + if f.grade = .failure then 1 else 0 } := by
  unfold add
  cases f.grade <;> rfl

/-- Findings count under their grades; the counts of rules stay. -/
theorem record_counts (m : Metrics) (fs : List Finding) :
    m.record fs = { m with
      totalResults := m.totalResults + fs.length
      passed := m.passed + fs.countP (·.grade = .success)
      warnings := m.warnings + fs.countP (·.grade = .warning)
      failures := m.failures + fs.countP (·.grade = .failure) } := by
  induction fs generalizing m with
  | nil => rfl
  | cons f fs ih =>
    have hcons : m.record (f :: fs) = (m.add f).record fs := rfl
    rw [hcons, ih, add_counts]
    cases hf : f.grade <;> simp [hf] <;> omega

end Metrics

/-- A finding has one of three grades. -/
theorem Grade.countP_add (fs : List Finding) :
    fs.countP (·.grade = .success) + fs.countP (·.grade = .warning) +
      fs.countP (·.grade = .failure) = fs.length := by
  induction fs with
  | nil => rfl
  | cons f fs ih => cases hf : f.grade <;> simp [hf] <;> omega

/-- Every report of findings counts them. -/
theorem Report.counts_ofFindings (enabled disabled : Nat) (fs : List Finding) :
    (Report.ofFindings enabled disabled fs).Counts := by
  have hgrade (g : Grade) : fs.countP (·.grade = g) =
      ((ofFindings enabled disabled fs).ofGrade g).length := List.countP_eq_length_filter
  have hmetrics : (ofFindings enabled disabled fs).metrics =
      { totalRules := enabled + disabled, rulesEvaluated := enabled, rulesSkipped := disabled,
        totalResults := fs.length, passed := fs.countP (·.grade = .success),
        warnings := fs.countP (·.grade = .warning),
        failures := fs.countP (·.grade = .failure) } := by
    simp only [ofFindings, Metrics.record_counts, Nat.zero_add]
  refine ⟨?_, ?_, ?_, ?_, ?_⟩ <;> rw [hmetrics]
  · rfl
  · exact hgrade .success
  · exact hgrade .warning
  · exact hgrade .failure
  · exact Grade.countP_add fs

namespace Run

/-! ## Blocks -/

/-- What a finding says about a row of the table of its rule. -/
structure IsFinding (run : Run) (r : Rule) (t : Table) (index : Nat) (row : Row) (f : Finding) :
    Prop where
  rowIndex : f.rowIndex = some index
  table : f.table = r.table
  ruleName : f.ruleName = r.name
  ruleId : f.ruleId = r.id
  /-- The row passes. -/
  success : f.grade = .success ↔ ∃ o, run.verdict r t row = .ok o ∧ o.isValid = true
  /-- The rule cannot be planned. -/
  unplanned : ∀ p, Plan.build (run.context r t) r = .error p → f.grade = .failure
  /-- The rule is at fault on this row. -/
  configuration : ∀ p, run.verdict r t row = .error p → p.isConfiguration = true →
    f.grade = .failure
  /-- The data are at fault. -/
  evaluation : ∀ p, run.verdict r t row = .error p → p.isConfiguration = false →
    f.grade = .ofSeverity r.severity
  /-- The row fails. -/
  failing : ∀ o, run.verdict r t row = .ok o → o.isValid = false → f.grade = .ofSeverity r.severity

/-- What the findings of a rule consist of. -/
structure IsBlock (run : Run) (r : Rule) (fs : List Finding) : Prop where
  missing : run.input.datasets.table? r.table = none →
    ∃ f, fs = [f] ∧ f.rowIndex = none ∧ f.table = r.table ∧ f.ruleName = r.name ∧ f.ruleId = r.id ∧
      f.grade = .failure
  length : ∀ t, run.input.datasets.table? r.table = some t → fs.length = t.rows.length
  row : ∀ t, run.input.datasets.table? r.table = some t → ∀ i row, t.rows[i]? = some row →
    ∃ f, fs[i]? = some f ∧ run.IsFinding r t i row f

/-- The run of one of its rules alone. -/
def alone (run : Run) (r : Rule) : Run := { run with input := { run.input with rules := [r] } }

/-- No two enabled replacing rules share id and table. -/
def KeysApart (run : Run) : Prop :=
  (run.enabledRules.filter (·.kind.isReplacing)).Pairwise fun r s =>
    (r.id, r.table) ≠ (s.id, s.table)

instance (run : Run) : Decidable run.KeysApart := by
  unfold KeysApart
  infer_instance

variable {run : Run}

/-- No severity is the grade of success. -/
theorem Grade.ofSeverity_ne_success (s : Severity) : Grade.ofSeverity s ≠ .success := by
  cases s <;> decide

/-- A rule that cannot be planned is at fault on every row. -/
theorem verdict_of_build_error {r : Rule} {t : Table} {p : Problem}
    (h : Plan.build (run.context r t) r = .error p) (row : Row) :
    ∃ message, run.verdict r t row = .error (.configuration r.name message) := by
  unfold verdict Plan.ofRule
  rw [h]
  cases p <;> exact ⟨_, rfl⟩

/-- The grade of a finding follows from the verdict. -/
theorem isFinding_finding (r : Rule) (t : Table) (i : Nat) (row : Row) :
    run.IsFinding r t i row (finding r i (run.verdict r t row)) := by
  have hconf : ∀ p, run.verdict r t row = .error p → p.isConfiguration = true →
      (finding r i (run.verdict r t row)).grade = .failure := by
    intro p hp hc
    rw [hp]
    simp [finding, hc]
  refine ⟨?_, ?_, ?_, ?_, ?_, ?_, hconf, ?_, ?_⟩
  case refine_6 =>
    intro p hp
    obtain ⟨message, hmessage⟩ := verdict_of_build_error hp row
    exact hconf _ hmessage rfl
  all_goals
    cases hv : run.verdict r t row with
    | error p => cases hc : p.isConfiguration <;> simp [finding, hc, Grade.ofSeverity_ne_success]
    | ok o => cases ho : o.isValid <;> simp [finding, ho, Grade.ofSeverity_ne_success]

/-- The findings of a rule by itself are a block. -/
theorem isBlock_block (r : Rule) : run.IsBlock r (run.block r) := by
  constructor
  · intro h
    refine ⟨tableMissing r, ?_, rfl, rfl, rfl, rfl, rfl⟩
    rw [block, h]
  · intro t h
    rw [block, h]
    exact List.length_mapIdx
  · intro t h i row hrow
    refine ⟨finding r i (run.verdict r t row), ?_, isFinding_finding r t i row⟩
    rw [block, h]
    simp [List.getElem?_mapIdx, hrow]

/-! ## Blocks apart -/

/-- What an entry of a rule says about its key. -/
theorem of_mem_entries {r : Rule} {e : Entry} (h : e ∈ run.entries r) :
    (e.keyed = true → r.kind.isReplacing = true) ∧ e.finding.ruleId = r.id ∧
      e.finding.table = r.table := by
  obtain ⟨f, hf, rfl⟩ := List.mem_map.1 h
  have hkeyed : (entry r f).keyed = true → r.kind.isReplacing = true :=
    fun hk => (Bool.and_eq_true_iff.1 hk).1
  refine ⟨hkeyed, ?_⟩
  unfold block at hf
  cases ht : run.input.datasets.table? r.table with
  | none =>
    rw [ht] at hf
    rw [List.mem_singleton.1 hf]
    exact ⟨rfl, rfl⟩
  | some t =>
    rw [ht] at hf
    obtain ⟨i, hi, rfl⟩ := List.mem_mapIdx.1 hf
    exact ⟨rfl, rfl⟩

/-- The findings of a rule are about different rows. -/
theorem distinct_entries (r : Rule) : Entries.Distinct (run.entries r) := by
  unfold entries block
  cases run.input.datasets.table? r.table with
  | none => exact List.pairwise_singleton _ _
  | some t =>
    refine List.pairwise_map.2 (List.pairwise_iff_getElem.2 fun i j hi hj hij hrep => ?_)
    have hindex := congrArg FindingKey.rowIndex hrep.2.2
    simp only [List.getElem_mapIdx] at hindex
    exact Nat.ne_of_lt hij (Option.some.inj hindex)

/-- Rules that share no key do not replace each other's findings. -/
theorem distinct_flatMap_entries (h : run.KeysApart) :
    Entries.Distinct (run.enabledRules.flatMap run.entries) := by
  refine List.pairwise_flatMap.2 ⟨fun r _ => distinct_entries r, ?_⟩
  refine (List.pairwise_filter.1 h).imp fun hrs d hd e he hrep => ?_
  obtain ⟨hdk, hdid, hdt⟩ := of_mem_entries hd
  obtain ⟨hek, heid, het⟩ := of_mem_entries he
  refine hrs (hdk hrep.2.1) (hek hrep.1) ?_
  rw [← hdid, ← hdt, ← heid, ← het]
  exact congrArg (fun k => (k.ruleId, k.table)) hrep.2.2

/-- Where keys are apart, a run finds the blocks of its enabled rules. -/
theorem findings_validate (hm : run.settings.memoize = false) (h : run.KeysApart) :
    run.validate.findings = run.enabledRules.flatMap run.block := by
  have hfindings (b : Buffer) : (run.report b).findings = b.entries.toList.map Entry.finding := rfl
  have hentries (r : Rule) : (run.entries r).map Entry.finding = run.block r := by
    simp [entries, entry, Function.comp_def]
  rw [validate_eq hm, hfindings, Buffer.toList_foldl_write Buffer.indexed_empty]
  rw [show Buffer.empty.entries.toList = [] from rfl,
    Entries.placeAll_eq_append (distinct_flatMap_entries h), List.nil_append, List.map_flatMap]
  simp only [hentries]

/-- A run with an enabled rule alone has no other rules. -/
theorem enabledRules_alone {r : Rule} (h : r ∈ run.enabledRules) :
    (run.alone r).enabledRules = [r] :=
  List.filter_cons_of_pos (List.mem_filter.1 h).2

/-- The run of a rule alone finds its block. -/
theorem findings_validate_alone (hm : run.settings.memoize = false) {r : Rule}
    (h : r ∈ run.enabledRules) : (run.alone r).validate.findings = run.block r := by
  have hkeys : (run.alone r).KeysApart := by
    unfold KeysApart
    rw [enabledRules_alone h]
    exact (List.pairwise_singleton _ _).filter _
  have hfindings := @findings_validate (run.alone r) hm hkeys
  rw [enabledRules_alone h, List.flatMap_singleton] at hfindings
  exact hfindings

/-- Where nothing is remembered and keys are apart, a run is the blocks of its enabled rules, one
after the other. Each is what the run of the rule alone finds, and the metrics count rules and
findings. -/
theorem validate_eq_blocks (run : Run) (hm : run.settings.memoize = false) (hkeys : run.KeysApart) :
    run.validate.findings = run.enabledRules.flatMap (fun r => (run.alone r).validate.findings) ∧
    (∀ r ∈ run.enabledRules, run.IsBlock r (run.alone r).validate.findings) ∧
    run.validate.metrics.totalRules = run.input.rules.length ∧
    run.validate.metrics.rulesEvaluated = run.enabledRules.length ∧
    run.validate.metrics.rulesEvaluated + run.validate.metrics.rulesSkipped =
      run.validate.metrics.totalRules ∧
    run.validate.Counts := by
  have hle : run.enabledRules.length ≤ run.input.rules.length := List.length_filter_le _ _
  have htotal : run.validate.metrics.totalRules =
      run.enabledRules.length + (run.input.rules.length - run.enabledRules.length) := by
    simp [validate, report, Report.ofFindings, Metrics.record_counts]
  have hevaluated : run.validate.metrics.rulesEvaluated = run.enabledRules.length := by
    simp [validate, report, Report.ofFindings, Metrics.record_counts]
  have hskipped : run.validate.metrics.rulesSkipped =
      run.input.rules.length - run.enabledRules.length := by
    simp [validate, report, Report.ofFindings, Metrics.record_counts]
  refine ⟨?_, fun r hr => ?_, by omega, hevaluated, by omega, Report.counts_ofFindings _ _ _⟩
  · rw [findings_validate hm hkeys]
    exact List.flatMap_congr fun r hr => (findings_validate_alone hm hr).symm
  · rw [findings_validate_alone hm hr]
    exact isBlock_block r

/-- A replacing rule with two rows, a rule without a table under the same id, one that cannot be
planned, and a disabled one. -/
def mixedRules : Run :=
  onTable .debugging "t" [.ofList [("a", .number 1)], .ofList []]
    [{ id := "r", name := "equal", table := "t", column := "a", kind := .rowFormula,
       parameters := [("formula", .text "a == 1")] },
     { id := "r", name := "missing", table := "u", column := "a", kind := .rowFormula },
     { id := "s", name := "unplanned", table := "t", column := "", kind := .dateBefore },
     { id := "r", name := "disabled", table := "t", column := "a", kind := .list,
       enabled := false }]

/-- Each rule adds its block. -/
theorem validate_mixedRules_eq_blocks :
    mixedRules.settings.memoize = false ∧ mixedRules.KeysApart ∧
      mixedRules.validate.findings =
        mixedRules.enabledRules.flatMap fun r => (mixedRules.alone r).validate.findings :=
  ⟨rfl, by decide, (validate_eq_blocks mixedRules rfl (by decide)).1⟩

end Run

end RowAudit
