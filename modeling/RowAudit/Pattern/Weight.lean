import RowAudit.Pattern.Expr

/-!
# The weight of a pattern

A pattern is refused when the program for it takes too many bytes of memory. The program reads a
text byte by byte in UTF-8, so a set of characters costs what the byte ranges cost that spell it:
its characters make `CharSet.runs`, the runs have `spellings`, and spellings in a row share the
states of the bytes with which they begin. `Expr.weight` adds the costs up; a counted part costs as
much as its copies.
-/

namespace RowAudit.Pattern

open RowAudit.Text

/-! ## Runs -/

/-- Adds a range to ranges before it, last one first; one that overlaps or meets the last is joined
with it. -/
def addRun : List (Nat × Nat) → Nat × Nat → List (Nat × Nat)
  | (first, last) :: done, (lo, hi) =>
    if lo ≤ last + 1 then (first, max last hi) :: done else (lo, hi) :: (first, last) :: done
  | [], run => [run]

/-- Ranges in order, those that overlap or meet joined. -/
def joinRuns (runs : List (Nat × Nat)) : List (Nat × Nat) :=
  ((runs.mergeSort fun r s => r.1 ≤ s.1).foldl addRun []).reverse

/-- The last code point. -/
def lastCodePoint : Nat := 0x10FFFF

/-- The ranges that ranges in order leave open from a code point on. -/
def gaps : Nat → List (Nat × Nat) → List (Nat × Nat)
  | start, [] => if start ≤ lastCodePoint then [(start, lastCodePoint)] else []
  | start, (lo, hi) :: rest => (if start < lo then [(start, lo - 1)] else []) ++ gaps (hi + 1) rest

/-- The ranges of a span. -/
def spanRuns (s : Span) : List (Nat × Nat) :=
  if s.step ≤ 1 then [(s.first, s.last)] else s.members.map fun n => (n, n)

/-- The code points that differ from others in case alone. -/
def casedCodePoints : List Nat :=
  Table.fold.flatMap fun shift => shift.span.members ++ shift.onto.members

/-- Whether a code point lies in one of several ranges. -/
def inRuns (runs : List (Nat × Nat)) (n : Nat) : Bool := runs.any fun r => r.1 ≤ n && n ≤ r.2

/-- The ranges of the characters of a set, in order and as few as there can be. -/
def CharSet.runs : CharSet → List (Nat × Nat)
  | range first last => if first ≤ last then [(first, last)] else []
  | table spans => joinRuns (spans.flatMap spanRuns)
  | union s t => joinRuns (s.runs ++ t.runs)
  | inter s t => gaps 0 (joinRuns (gaps 0 s.runs ++ gaps 0 t.runs))
  | diff s t => gaps 0 (joinRuns (gaps 0 s.runs ++ t.runs))
  | symmDiff s t =>
    let both := gaps 0 (joinRuns (gaps 0 s.runs ++ gaps 0 t.runs))
    gaps 0 (joinRuns (gaps 0 (joinRuns (s.runs ++ t.runs)) ++ both))
  | compl s => gaps 0 s.runs
  | folded s =>
    let cased := (casedCodePoints.filter (inRuns s.runs)).flatMap fun n => foldClass (Char.ofNat n)
    joinRuns (s.runs ++ cased.map fun c => (c.toNat, c.toNat))
  | asciiFolded s =>
    let ascii := (List.range 128).map Char.ofNat
    let cased := ascii.filter fun c => c.isAlpha && inRuns s.runs c.toNat
    joinRuns (s.runs ++ cased.map fun c => ((asciiPartner c).toNat, (asciiPartner c).toNat))

/-! ## Spellings -/

/-- Code points that are spelled with the same number of bytes. -/
structure Plane where
  first : Nat
  last : Nat
  /-- The number of bytes after the leading one. -/
  trailing : Nat
  /-- What the leading byte holds beside its digit. -/
  lead : Nat

/-- All code points but the surrogates. -/
def planes : List Plane :=
  [⟨0, 0x7F, 0, 0⟩, ⟨0x80, 0x7FF, 1, 0xC0⟩, ⟨0x800, 0xD7FF, 2, 0xE0⟩, ⟨0xE000, 0xFFFF, 2, 0xE0⟩,
   ⟨0x10000, lastCodePoint, 3, 0xF0⟩]

/-- The numbers between two bounds by their digits to base 64, of which `k` follow the leading one.
Each item lists a range for every digit, and all choices of digits from the ranges are numbers
between the bounds. -/
def digitRanges : Nat → Nat → Nat → List (List (Nat × Nat))
  | 0, lo, hi => [[(lo, hi)]]
  | k + 1, lo, hi =>
    let unit := Nat.pow 64 (k + 1)
    let a := lo / unit
    let b := hi / unit
    if a == b then (digitRanges k (lo % unit) (hi % unit)).map ((a, a) :: ·)
    else
      let low :=
        if lo % unit == 0 then []
        else (digitRanges k (lo % unit) (unit - 1)).map ((a, a) :: ·)
      let high :=
        if hi % unit == unit - 1 then []
        else (digitRanges k 0 (hi % unit)).map ((b, b) :: ·)
      let first := if low.isEmpty then a else a + 1
      let last := if high.isEmpty then b else b - 1
      let whole := if first ≤ last then [(first, last) :: List.replicate (k + 1) (0, 63)] else []
      low ++ whole ++ high

/-- Digits with what the leading byte holds beside the first of them. -/
def withLead (lead : Nat) : List (Nat × Nat) → List (Nat × Nat)
  | (lo, hi) :: rest => (lead + lo, lead + hi) :: rest
  | [] => []

/-- The spellings of a range of characters, each a range for every byte. -/
def spellings (run : Nat × Nat) : List (List (Nat × Nat)) :=
  planes.flatMap fun p =>
    let first := max run.1 p.first
    let last := min run.2 p.last
    if first ≤ last then (digitRanges p.trailing first last).map (withLead p.lead) else []

/-- The number of items with which two lists begin in common. -/
def commonLength : List (Nat × Nat) → List (Nat × Nat) → Nat
  | x :: xs, y :: ys => if x == y then commonLength xs ys + 1 else 0
  | _, _ => 0

/-- The number of byte ranges in a list of spellings, those left out that a spelling shares with
the one before it. -/
def distinctBytes : List (Nat × Nat) → List (List (Nat × Nat)) → Nat
  | _, [] => 0
  | before, s :: rest => s.length - commonLength before s + distinctBytes s rest

/-! ## Weights -/

/-- The number of bytes of a state of a program. -/
def stateWeight : Nat := 32

/-- The number of bytes of a way out of a state beside the first. -/
def branchWeight : Nat := 4

/-- The number of bytes that the program for a set takes. The bytes of a single character follow
each other; ASCII ranges leave one state together; of other spellings each leaves the same state and
has a state for every byte range of its own. -/
def CharSet.weight (s : CharSet) : Nat :=
  let several (runs : List (Nat × Nat)) : Nat :=
    if runs.all (·.2 < 128) then 2 * stateWeight + 2 * branchWeight * runs.length
    else
      let ways := runs.flatMap spellings
      2 * stateWeight + branchWeight * ways.length + stateWeight * distinctBytes [] ways
  match s.runs with
  | [(first, last)] =>
    if first == last then stateWeight * (Char.ofNat first).utf8Size else several [(first, last)]
  | runs => several runs

namespace Expr

/-- Whether an expression matches the empty text somewhere. -/
def isNullable {σ η : Type} : Expr σ η → Bool
  | empty => true
  | step _ => false
  | hold _ => true
  | both a b => a.isNullable && b.isNullable
  | either a b => a.isNullable || b.isNullable
  | repetition least _ a => least == 0 || a.isNullable
  | capture a => a.isNullable

/-- What the states before and after alternatives weigh together. -/
def forkWeight : Nat := 2 * stateWeight

/-- What an alternative has of its own already, if it consists of alternatives itself. -/
def ownFork {σ η : Type} : Expr σ η → Nat
  | either _ _ => forkWeight + branchWeight
  | _ => 0

/-- What it costs to go round a part once more. -/
def loopWeight : Nat := stateWeight + 2 * branchWeight

/-- The number of bytes that the program for an expression takes: it repeats the program of a part
as often as a count asks for it. -/
def weight : Expr CharSet Look → Nat
  | empty => stateWeight
  | step s => s.weight
  | hold _ => stateWeight
  | both a b => a.weight + b.weight
  | either a b =>
    (a.weight - ownFork a) + (b.weight - ownFork b) + forkWeight + 2 * branchWeight
  | repetition least (some most) a =>
    if least == most then max stateWeight (least * a.weight)
    else if least == 0 && most == 1 then a.weight + loopWeight + stateWeight
    else
      max stateWeight (least * a.weight) + stateWeight + (most - least) * (a.weight + loopWeight)
  | repetition least none a =>
    max 1 least * a.weight + loopWeight
      + (if least == 0 && a.isNullable then loopWeight + stateWeight else 0)
  | capture a => a.weight + 2 * stateWeight

end Expr

end RowAudit.Pattern
