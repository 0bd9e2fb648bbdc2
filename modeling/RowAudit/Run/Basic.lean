import RowAudit.Run.Plan
import RowAudit.Run.Settings
import RowAudit.Finding.Buffer
import RowAudit.Report

/-!
# Runs

A run plans every enabled rule once and checks every row of its table, which gives one finding for
each rule and row. No rule can break off a run: its problems become findings. `Run.validate` takes
the rules one after the other; `Run.validateConcurrent` gives each rule a buffer of its own and
merges the buffers in the order of the rules, whatever the order in which they are finished.
-/

namespace RowAudit

open Document

/-- What a run is about. -/
structure Input where
  datasets : Datasets
  rules : List Rule
  lists : List ValueList

namespace Input

/-- Reads the input of a run. -/
def read : Reader Input := fun d => do
  let rules := asList Rule.read
  let lists := asList ValueList.read
  let rec ← asRecord "ValidationInput"
    [slot "datasets" Datasets.read, slot "rules" rules, slot "valueLists" lists] d
  let datasets ← rec.optional "datasets" Datasets.read .empty
  let rules ← rec.optional "rules" rules []
  let lists ← rec.optional "valueLists" lists []
  rec.finish
  .ok ⟨datasets, rules, lists⟩

/-- The input of a run as JSON. -/
def toJson (i : Input) : Json :=
  .object
    [("datasets", i.datasets.toJson), ("rules", .array (i.rules.map Rule.toJson)),
     ("valueLists", .array (i.lists.map ValueList.toJson))]

end Input

/-- What stays the same during a run. -/
structure Run where
  settings : Settings
  input : Input
  /-- The present moment. -/
  now : Moment

namespace Run

/-- What the checks of a rule on a table see. -/
def context (run : Run) (r : Rule) (t : Table) : Context :=
  ⟨r.name, t, run.input.datasets, run.input.lists, run.settings.timeAware, run.settings.memoize,
    run.now⟩

/-- The message of a finding on a row that passes. -/
def passedMessage : String := "Passed"

/-- The finding for an outcome on a row. The faults of a rule are failures whatever its severity. -/
def finding (r : Rule) (rowIndex : Nat) (result : Except Problem Outcome) : Finding :=
  let (grade, message, column) : Grade × String × Option String :=
    match result with
    | .ok o =>
      if o.isValid then (.success, passedMessage, none)
      else (.ofSeverity r.severity, o.message.getD (r.name ++ " failed"), o.column)
    | .error p =>
      (if p.isConfiguration then .failure else .ofSeverity r.severity, p.finding, none)
  ⟨some rowIndex, r.table, column.getD r.column, r.name, message, grade, r.id⟩

/-- The finding of a rule whose table does not exist. -/
def tableMissing (r : Rule) : Finding :=
  ⟨none, r.table, r.column, r.name, "Configuration error: table '" ++ r.table ++ "' not found",
    .failure, r.id⟩

/-- Writes a finding of a rule. -/
def write (r : Rule) (b : Buffer) (f : Finding) : Buffer :=
  if r.kind.isReplacing then b.upsert f else b.push f

/-- Checks rows, the first of which has a given index. -/
def checkRows (plan : Plan) (r : Rule) (ctx : Context) :
    Nat → List Row → Buffer → StateM Memo Buffer
  | _, [], b => pure b
  | index, row :: rest, b => do
    let result ← (plan.judge r ctx row).run
    checkRows plan r ctx (index + 1) rest (write r b (finding r index result))

/-- Writes the findings of a rule. -/
def checkRule (run : Run) (r : Rule) (b : Buffer) : StateM Memo Buffer :=
  match run.input.datasets.table? r.table with
  | none => pure (b.push (tableMissing r))
  | some t =>
    let ctx := run.context r t
    checkRows (.ofRule ctx r) r ctx 0 t.rows b

/-- Writes the findings of rules one after the other. -/
def checkRules (run : Run) : List Rule → Buffer → StateM Memo Buffer
  | [], b => pure b
  | r :: rest, b => do
    let b ← run.checkRule r b
    checkRules run rest b

/-- The enabled rules. -/
def enabledRules (run : Run) : List Rule := run.input.rules.filter Rule.enabled

/-- The report of the collected findings. -/
def report (run : Run) (b : Buffer) : Report :=
  let enabled := run.enabledRules.length
  .ofFindings enabled (run.input.rules.length - enabled) b.findings

/-- Checks all rules one after the other. -/
def validate (run : Run) : Report :=
  run.report ((run.checkRules run.enabledRules .empty).run .empty).1

/-- The enabled rules with their positions in the input, from a given position on. -/
def jobsFrom (position : Nat) : List Rule → List (Nat × Rule)
  | [] => []
  | r :: rest =>
    if r.enabled then (position, r) :: jobsFrom (position + 1) rest
    else jobsFrom (position + 1) rest

/-- Gives each job a buffer of its own. -/
def work (run : Run) : List (Nat × Rule) → StateM Memo (List (Nat × Buffer))
  | [] => pure []
  | (position, r) :: rest => do
    let b ← run.checkRule r .empty
    let bs ← run.work rest
    pure ((position, b) :: bs)

/-- Merges finished buffers in the order of their positions. -/
def collect (finished : List (Nat × Buffer)) : Buffer :=
  (finished.mergeSort fun a b => a.1 ≤ b.1).foldl (fun b f => b.merge f.2) .empty

/-- Checks all rules independently of each other and merges what they find. -/
def validateConcurrent (run : Run) : Report :=
  run.report (collect ((run.work (jobsFrom 0 run.input.rules)).run .empty).1)

end Run

end RowAudit
