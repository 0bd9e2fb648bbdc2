import RowAudit.Finding.Basic
import RowAudit.Number.Exact

/-!
# Reports

A `Report` is the outcome of a run: the findings in their order, and the metrics that count them.
-/

namespace RowAudit

open Document

/-- Counts of a run. -/
structure Metrics where
  /-- The rules handed in. -/
  totalRules : Nat := 0
  rulesEvaluated : Nat := 0
  /-- The disabled rules. -/
  rulesSkipped : Nat := 0
  totalResults : Nat := 0
  passed : Nat := 0
  warnings : Nat := 0
  failures : Nat := 0
  executionTimeMs : Nat := 0
  deriving DecidableEq, Repr

namespace Metrics

/-- Counts a finding by its grade. -/
def add (m : Metrics) (f : Finding) : Metrics :=
  let m := { m with totalResults := m.totalResults + 1 }
  match f.grade with
  | .success => { m with passed := m.passed + 1 }
  | .warning => { m with warnings := m.warnings + 1 }
  | .failure => { m with failures := m.failures + 1 }

/-- Counts findings. -/
def record (m : Metrics) (fs : List Finding) : Metrics := fs.foldl add m

/-- The number of a count. -/
def ofCount (n : Nat) : Float := (UInt64.ofNat n).toFloat

/-- The share of findings that pass, in percent; all of them if there are none. -/
def successRate (m : Metrics) : Float :=
  if m.totalResults = 0 then 100.0 else ofCount m.passed / ofCount m.totalResults * 100.0

/-- Reads metrics. -/
def read : Reader Metrics := fun d => do
  let count := asCount "usize"
  let rec ← asRecord "ValidationMetrics"
    [slot "totalRules" count, slot "rulesEvaluated" count, slot "rulesSkipped" count,
     slot "totalResults" count, slot "passed" count, slot "warnings" count, slot "failures" count,
     slot "executionTimeMs" (asCount "u64")] d
  let totalRules ← rec.require "totalRules" count
  let rulesEvaluated ← rec.require "rulesEvaluated" count
  let rulesSkipped ← rec.require "rulesSkipped" count
  let totalResults ← rec.require "totalResults" count
  let passed ← rec.require "passed" count
  let warnings ← rec.require "warnings" count
  let failures ← rec.require "failures" count
  let executionTimeMs ← rec.require "executionTimeMs" (asCount "u64")
  rec.finish
  .ok ⟨totalRules, rulesEvaluated, rulesSkipped, totalResults, passed, warnings, failures,
    executionTimeMs⟩

/-- Metrics as JSON. -/
def toJson (m : Metrics) : Json :=
  .object <|
    [("totalRules", m.totalRules), ("rulesEvaluated", m.rulesEvaluated),
     ("rulesSkipped", m.rulesSkipped), ("totalResults", m.totalResults), ("passed", m.passed),
     ("warnings", m.warnings), ("failures", m.failures), ("executionTimeMs", m.executionTimeMs)].map
      fun (name, n) => (name, .integer (Int.ofNat n))

end Metrics

/-- The outcome of a run. -/
structure Report where
  findings : List Finding
  metrics : Metrics

namespace Report

/-- The report of findings about given numbers of enabled and disabled rules. -/
def ofFindings (enabled disabled : Nat) (fs : List Finding) : Report :=
  let metrics : Metrics :=
    { totalRules := enabled + disabled, rulesEvaluated := enabled, rulesSkipped := disabled }
  ⟨fs, metrics.record fs⟩

/-- Whether the metrics count failures. -/
def hasFailures (r : Report) : Bool := 0 < r.metrics.failures

/-- The findings of a grade. -/
def ofGrade (r : Report) (g : Grade) : List Finding := r.findings.filter (·.grade = g)

/-- The findings of a rule. -/
def ofRule (r : Report) (id : String) : List Finding := r.findings.filter (·.ruleId = id)

/-- The findings as a JSON value. -/
def toJson (r : Report) : Json := .array (r.findings.map Finding.toJson)

end Report

end RowAudit
