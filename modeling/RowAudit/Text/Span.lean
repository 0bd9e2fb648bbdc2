/-!
# Spans of characters

Properties of characters are kept as lists of spans: arithmetic progressions of code points. A
`Shift` carries a span onto another one with the same step, as the case maps do. The two lookups,
`covers` over a list of spans and `Shift.image?` over a list of shifts, are linear scans, so they
reduce in the kernel.
-/

namespace RowAudit.Text

/-- The code points `first`, `first + step`, …, none beyond `last`. -/
structure Span where
  first : Nat
  last : Nat
  step : Nat
  deriving DecidableEq, Repr

/-- Membership of a code point. -/
def Span.has (s : Span) (n : Nat) : Bool :=
  s.first ≤ n && n ≤ s.last && (n - s.first) % s.step == 0

/-- The members of a span. -/
def Span.members (s : Span) : List Nat :=
  if s.first ≤ s.last then
    (List.range ((s.last - s.first) / s.step + 1)).map fun i => s.first + i * s.step
  else []

/-- Membership of a character in a list of spans. -/
def covers (spans : List Span) (c : Char) : Bool :=
  spans.any (·.has c.toNat)

/-- A span carried onto the span of the same shape that starts at `target`. -/
structure Shift where
  span : Span
  target : Nat
  deriving DecidableEq, Repr

/-- The span that a shift carries its span onto. -/
def Shift.onto (s : Shift) : Span :=
  ⟨s.target, s.target + (s.span.last - s.span.first), s.span.step⟩

/-- The image of a code point that one of the shifts moves. -/
def Shift.image? (shifts : List Shift) (n : Nat) : Option Nat :=
  (shifts.find? (·.span.has n)).map fun s => s.target + (n - s.span.first)

/-- The code points that the shifts move to `n`. -/
def Shift.preimages (shifts : List Shift) (n : Nat) : List Nat :=
  shifts.filterMap fun s =>
    if s.target ≤ n && s.span.has (s.span.first + (n - s.target)) then
      some (s.span.first + (n - s.target))
    else none

end RowAudit.Text
