import RowAudit.Text.Basic

/-!
# Settings

The settings of a run, and those of what is logged, with their presets.
-/

namespace RowAudit

/-- How serious an event has to be to be logged. -/
inductive LogLevel where
  | error
  | warn
  | info
  | debug
  | trace
  deriving DecidableEq, Repr

/-- The name of a level. -/
def LogLevel.name : LogLevel → String
  | error => "ERROR"
  | warn => "WARN"
  | info => "INFO"
  | debug => "DEBUG"
  | trace => "TRACE"

/-- The name of a level inside a filter. -/
def LogLevel.filterName : LogLevel → String
  | error => "error"
  | warn => "warn"
  | info => "info"
  | debug => "debug"
  | trace => "trace"

/-! ## Logging of a run -/

/-- What a run logs. -/
structure LogSettings where
  level : LogLevel
  /-- Whether each rule is logged. -/
  rules : Bool
  /-- Whether each failing row is logged. -/
  rows : Bool
  /-- The number of bytes to which values are cut. -/
  maxLength : Nat
  deriving DecidableEq, Repr

namespace LogSettings

/-- Rules, but no rows. -/
def balanced : LogSettings := ⟨.info, true, false, 256⟩

/-- Rules and rows. -/
def verbose : LogSettings := ⟨.debug, true, true, 1024⟩

/-- Neither rules nor rows. -/
def production : LogSettings := ⟨.warn, false, false, 128⟩

end LogSettings

/-! ## Logging of a program -/

/-- The name under which the events of runs are filtered. -/
def engineTarget : String := "rule_guard"

/-- What a program logs: events of runs, and all other events. -/
structure LogOutput where
  level : LogLevel
  engineLevel : LogLevel
  json : Bool
  /-- A filter that replaces the levels. -/
  override : Option String
  deriving DecidableEq, Repr

namespace LogOutput

/-- The common choice. -/
def standard : LogOutput := ⟨.info, .debug, false, none⟩

/-- For programs in use. -/
def production : LogOutput := ⟨.warn, .info, true, none⟩

/-- For programs under development. -/
def development : LogOutput := ⟨.debug, .debug, false, none⟩

/-- The filter text. -/
def filter (o : LogOutput) : String :=
  o.override.getD
    (o.level.filterName ++ "," ++ engineTarget ++ "=" ++ o.engineLevel.filterName)

end LogOutput

/-! ## Runs -/

/-- The settings of a run. -/
structure Settings where
  /-- How many rules are evaluated at once at most. -/
  maxConcurrency : Nat
  /-- Whether aggregations are shared between rows and rules. -/
  memoize : Bool
  /-- Whether moments are compared with the time of day. -/
  timeAware : Bool
  /-- Whether a check that breaks off becomes a finding. -/
  catchPanics : Bool
  log : LogSettings
  deriving DecidableEq, Repr

namespace Settings

/-- One rule at a time. -/
def sequential : Settings := ⟨1, true, false, true, .balanced⟩

/-- Everything is logged and computed anew, and nothing is caught. -/
def debugging : Settings := ⟨1, false, false, false, .verbose⟩

/-- Sets how many rules are evaluated at once; there is at least one. -/
def withMaxConcurrency (s : Settings) (n : Nat) : Settings := { s with maxConcurrency := max n 1 }

end Settings

end RowAudit
