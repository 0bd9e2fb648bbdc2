import RowAudit.Json.Decode

/-!
# Connectives

A connective joins a condition of a rule to the next one. It decides from the verdict so far whether
the next condition matters at all.
-/

namespace RowAudit

/-- Conjunction or disjunction. -/
inductive Connective where
  | and
  | or
  deriving DecidableEq, Repr

namespace Connective

/-- The name of a connective. -/
def name : Connective → String
  | and => "AND"
  | or => "OR"

/-- The verdict if it stands whatever the next condition says. -/
def settled? : Connective → Bool → Option Bool
  | and, false => some false
  | or, true => some true
  | _, _ => none

/-- The verdict on two conditions. -/
def combine : Connective → Bool → Bool → Bool
  | and, a, b => a && b
  | or, a, b => a || b

/-- The words that name connectives. -/
def choices : Document.Choices Connective :=
  [(["&&", "AND", "and"], and), (["OR", "or", "||"], or)]

/-- Reads a connective. -/
def read : Reader Connective := Document.asChoice choices

/-- A connective as JSON. -/
def toJson (c : Connective) : Json := .text c.name

/-- A settled verdict is not changed by the next one. -/
theorem combine_of_settled {c : Connective} {a v : Bool} (h : c.settled? a = some v) (b : Bool) :
    c.combine a b = v := by
  cases c <;> cases a <;> simp_all [settled?, combine]

end Connective

end RowAudit
