import RowAudit.Text.Case

/-!
# Sets of characters

The sets that classes denote, built from ranges and tables by the operations of the pattern
language. `CharSet.contains` is what a set means.
-/

namespace RowAudit.Pattern

open RowAudit.Text

/-- A set of characters. -/
inductive CharSet where
  /-- The code points between two bounds, both included. -/
  | range (first last : Nat)
  /-- The characters of a table. -/
  | table (spans : List Span)
  | union (left right : CharSet)
  | inter (left right : CharSet)
  | diff (left right : CharSet)
  | symmDiff (left right : CharSet)
  | compl (set : CharSet)
  /-- The characters equal to one of the set up to case. -/
  | folded (set : CharSet)
  /-- The characters equal to one of the set up to the case of ASCII letters. -/
  | asciiFolded (set : CharSet)
  deriving DecidableEq, Repr

namespace CharSet

/-- No characters. -/
def none : CharSet := table []

/-- All characters. -/
def all : CharSet := compl none

/-- A single character. -/
def single (c : Char) : CharSet := range c.toNat c.toNat

/-- The characters of some ranges. -/
def ranges (rs : List (Nat × Nat)) : CharSet := table (rs.map fun r => ⟨r.1, r.2, 1⟩)

/-- The characters that belong to one of several sets. -/
def unions (sets : List CharSet) : CharSet := sets.foldr union none

/-- The ASCII letter that differs from a character in case alone. -/
def asciiPartner (c : Char) : Char := if c.isUpper then c.toLower else c.toUpper

/-- Membership. -/
def contains : CharSet → Char → Bool
  | range first last, c => first ≤ c.toNat && c.toNat ≤ last
  | table spans, c => covers spans c
  | union s t, c => s.contains c || t.contains c
  | inter s t, c => s.contains c && t.contains c
  | diff s t, c => s.contains c && !t.contains c
  | symmDiff s t, c => s.contains c != t.contains c
  | compl s, c => !s.contains c
  | folded s, c => s.contains c || (foldClass c).any s.contains
  | asciiFolded s, c => s.contains c || s.contains (asciiPartner c)

/-- The complement of a set, if it is negated. -/
def negatedIf (negated : Bool) (s : CharSet) : CharSet := if negated then compl s else s

/-- Whether a set of bytes holds ASCII characters alone. -/
def isAsciiOnly (s : CharSet) : Bool :=
  (List.range 128).all fun n => !s.contains (Char.ofNat (n + 128))

end CharSet

end RowAudit.Pattern
