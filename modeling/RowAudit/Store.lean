import RowAudit.Problem
import RowAudit.Rule.Basic
import RowAudit.Table

/-!
# Stores

A `Store` keeps records by their id in the order in which they were added. `Store.serve` answers a
`Request`; one that is refused leaves the store as it was.
-/

namespace RowAudit

/-- What a store can keep. -/
class Record (α : Type) where
  /-- How messages name the kind of record. -/
  kind : String
  id : α → String

instance : Record Rule := ⟨"rule", Rule.id⟩

instance : Record ValueList := ⟨"value list", ValueList.id⟩

/-- Kept records. -/
structure Store (α : Type) where
  records : List α

/-- What can be asked of a store. -/
inductive Request (α : Type) where
  | add (r : α)
  | update (r : α)
  | delete (id : String)
  | get (id : String)
  | contains (id : String)
  | list
  | clear

/-- What a store answers. -/
inductive Answer (α : Type) where
  | done
  /-- The record that has been removed. -/
  | removed (r : α)
  /-- The record that was asked for, if there is one. -/
  | found (r : Option α)
  | verdict (b : Bool)
  | listed (rs : List α)
  | refused (p : Problem)

namespace Store

variable {α : Type} [Record α]

/-- A record as messages name it. -/
def describe (α : Type) [Record α] (id : String) : String := Record.kind α ++ " '" ++ id ++ "'"

/-- A store without records. -/
def empty : Store α := ⟨[]⟩

/-- The record with an id. -/
def get? (s : Store α) (id : String) : Option α := s.records.find? (Record.id · == id)

/-- Whether there is a record with an id. -/
def contains (s : Store α) (id : String) : Bool := s.records.any (Record.id · == id)

/-- The ids in the order of the records. -/
def ids (s : Store α) : List String := s.records.map Record.id

/-- The number of records. -/
def size (s : Store α) : Nat := s.records.length

/-- Adds a record whose id is new. -/
def add (s : Store α) (r : α) : Except Problem (Store α) :=
  if s.contains (Record.id r) then
    .error (.store "add" (describe α (Record.id r) ++ " already exists"))
  else .ok ⟨s.records ++ [r]⟩

/-- Puts a record in the place of the first one with its id. -/
def replaceFirst (r : α) : List α → List α
  | [] => []
  | x :: rest => if Record.id x == Record.id r then r :: rest else x :: replaceFirst r rest

/-- Replaces the record with the id of a given one. -/
def update (s : Store α) (r : α) : Except Problem (Store α) :=
  if s.contains (Record.id r) then .ok ⟨replaceFirst r s.records⟩
  else .error (.notFound (describe α (Record.id r)))

/-- Removes the first record with an id. -/
def removeFirst (id : String) : List α → List α
  | [] => []
  | x :: rest => if Record.id x == id then rest else x :: removeFirst id rest

/-- Removes and returns the record with an id. -/
def delete (s : Store α) (id : String) : Except Problem (α × Store α) :=
  match s.get? id with
  | some r => .ok (r, ⟨removeFirst id s.records⟩)
  | none => .error (.notFound (describe α id))

/-- The store of a list of records; of two records with one id the earlier counts. -/
def ofList (rs : List α) : Store α :=
  rs.foldl (fun s r => if s.contains (Record.id r) then s else ⟨s.records ++ [r]⟩) empty

/-- Serves a request. -/
def serve (s : Store α) : Request α → Answer α × Store α
  | .add r =>
    match s.add r with
    | .ok t => (.done, t)
    | .error p => (.refused p, s)
  | .update r =>
    match s.update r with
    | .ok t => (.done, t)
    | .error p => (.refused p, s)
  | .delete id =>
    match s.delete id with
    | .ok (r, t) => (.removed r, t)
    | .error p => (.refused p, s)
  | .get id => (.found (s.get? id), s)
  | .contains id => (.verdict (s.contains id), s)
  | .list => (.listed s.records, s)
  | .clear => (.done, empty)

end Store

end RowAudit
