import RowAudit.Formula.Fault
import RowAudit.Json.Misfit

/-!
# Problems

A `Problem` is anything that keeps an operation of the library from its result. `Problem.message`
words it on its own, `Problem.finding` inside a finding, where the rule is named already, and
`Problem.within` puts a context in front of it.
-/

namespace RowAudit

/-- Why an operation has no result. -/
inductive Problem where
  /-- A rule cannot be used as it is. -/
  | configuration (rule message : String)
  | evaluation (fault : Formula.Fault)
  | unreadable (message : String)
  | misfit (m : Misfit)
  | typeMismatch (expected found : String)
  /-- A store refused an operation. -/
  | store (operation message : String)
  | notFound (what : String)
  | internal (message : String)

namespace Problem

/-- The wording of a problem. -/
def message : Problem → String
  | configuration rule message => "Configuration error in rule '" ++ rule ++ "': " ++ message
  | evaluation fault => "Evaluation error: " ++ fault.message
  | unreadable message => "Parse error: " ++ message
  | misfit m => "Serialization error: " ++ m.message.getD "malformed text"
  | typeMismatch expected found =>
    "Type mismatch: expected " ++ expected ++ ", found " ++ found
  | store operation message => "Repository error during " ++ operation ++ ": " ++ message
  | notFound what => "Not found: " ++ what
  | internal message => "Internal error: " ++ message

/-- The wording of a problem in a finding. -/
def finding : Problem → String
  | configuration _ message => "Configuration error: " ++ message
  | evaluation fault => fault.message
  | p => p.message

/-- Whether a rule is at fault and not the data. -/
def isConfiguration : Problem → Bool
  | configuration _ _ => true
  | _ => false

/-- A problem with a context in front of it. Apart from the faults of rules it becomes an internal
problem. -/
def within (context : String) : Problem → Problem
  | configuration rule message => configuration rule (context ++ ": " ++ message)
  | internal message => internal (context ++ ": " ++ message)
  | p => internal (context ++ ": " ++ p.message)

end Problem

end RowAudit
