import RowAudit.Finding.Basic

/-!
# Buffers of findings

A `Buffer` collects findings in order. A pushed finding is always added; an upserted one replaces
the upserted finding with the same key, at its place, if there is one. The index of a buffer holds
the place of every upserted finding. Merging writes the entries of one buffer into another.
-/

namespace RowAudit

/-- A finding in a buffer, and whether it was upserted. -/
structure Entry where
  finding : Finding
  keyed : Bool
  deriving DecidableEq, Repr

/-- Collected findings. -/
structure Buffer where
  entries : Array Entry
  /-- The places of the upserted findings by key. -/
  index : List (FindingKey × Nat)

namespace Buffer

/-- A buffer without findings. -/
def empty : Buffer := ⟨#[], []⟩

/-- The number of findings. -/
def size (b : Buffer) : Nat := b.entries.size

/-- The place of the upserted finding with a key. -/
def place? (b : Buffer) (key : FindingKey) : Option Nat :=
  (b.index.find? (·.1 = key)).map Prod.snd

/-- Adds a finding. -/
def push (b : Buffer) (f : Finding) : Buffer := { b with entries := b.entries.push ⟨f, false⟩ }

/-- Replaces the upserted finding with the same key, or adds one. -/
def upsert (b : Buffer) (f : Finding) : Buffer :=
  match b.place? f.key with
  | some i => { b with entries := b.entries.setIfInBounds i ⟨f, true⟩ }
  | none => ⟨b.entries.push ⟨f, true⟩, (f.key, b.size) :: b.index⟩

/-- Writes an entry as it was written before. -/
def write (b : Buffer) (e : Entry) : Buffer :=
  if e.keyed then b.upsert e.finding else b.push e.finding

/-- Writes the entries of another buffer. -/
def merge (b other : Buffer) : Buffer := other.entries.toList.foldl write b

/-- The findings in their order. -/
def findings (b : Buffer) : List Finding := b.entries.toList.map Entry.finding

end Buffer

end RowAudit
