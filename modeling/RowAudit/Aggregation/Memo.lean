import RowAudit.Aggregation.Compute

/-!
# Remembering aggregations

A `Memo` keeps the values of aggregations under the name of the table and the call site, and counts
how often it was asked with and without success. An entry never changes once it is there, and a
fault leaves no entry.
-/

namespace RowAudit

/-- What a value is kept under: the table and the call site. -/
structure MemoKey where
  table : String
  site : String
  deriving DecidableEq, Repr

/-- Remembered values, and the numbers of questions answered with and without them. -/
structure Memo where
  entries : List (MemoKey × Aggregation.Result)
  hits : Nat
  misses : Nat

namespace Memo

/-- Nothing remembered, nothing asked. -/
def empty : Memo := ⟨[], 0, 0⟩

/-- The value under a key. -/
def find? (m : Memo) (key : MemoKey) : Option Aggregation.Result :=
  (m.entries.find? (·.1 = key)).map Prod.snd

/-- Keeps a value under a key that has none. -/
def keep (m : Memo) (key : MemoKey) (value : Aggregation.Result) : Memo :=
  match m.find? key with
  | some _ => m
  | none => { m with entries := m.entries ++ [(key, value)] }

/-- Forgets all values; the counts stay. -/
def clear (m : Memo) : Memo := { m with entries := [] }

/-- The key of an aggregation over a table. -/
def keyOf (table : String) (a : Aggregation) : MemoKey := ⟨table, a.callSite⟩

/-- The value of an aggregation over the rows of a table: the remembered one, or else a computed
one, which is kept. -/
def fetch (table : String) (rows : List Row) (a : Aggregation) :
    Formula.Run Memo Aggregation.Result := fun m =>
  match m.find? (keyOf table a) with
  | some value => (.ok value, { m with hits := m.hits + 1 })
  | none =>
    let m := { m with misses := m.misses + 1 }
    match a.compute rows with
    | .ok value => (.ok value, m.keep (keyOf table a) value)
    | .error fault => (.error fault, m)

/-- The share of questions that were answered from memory. -/
def hitRate (m : Memo) : Float :=
  if m.hits + m.misses = 0 then 0.0
  else Aggregation.ofCount m.hits / Aggregation.ofCount (m.hits + m.misses)

end Memo

end RowAudit
