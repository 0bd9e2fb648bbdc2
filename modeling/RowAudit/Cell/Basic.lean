import RowAudit.Moment.Reader
import RowAudit.Json.Decode

/-!
# Cells

A cell of a row is null, a truth value, a number, a text, a moment, or a list or record of cells. A
cell is *absent* if it is null or the empty text. The other definitions here are the readings that
rules make of a cell: as a number, as a moment, as a truth value, as a text and as a join key. Texts
that spell a number or a moment have those readings too.
-/

namespace RowAudit

/-- The value of one column in one row. -/
inductive Cell where
  | null
  | bool (b : Bool)
  | number (x : Float)
  | text (s : String)
  | moment (m : Moment)
  | list (items : List Cell)
  | record (fields : List (String × Cell))

instance : Inhabited Cell := ⟨.null⟩

namespace Cell

/-- Null. -/
def isNull : Cell → Bool
  | null => true
  | _ => false

/-- Null or the empty text. -/
def isAbsent : Cell → Bool
  | null => true
  | text s => s == ""
  | _ => false

/-- The kind of a cell as messages name it. -/
def kind : Cell → String
  | null => "null"
  | bool _ => "boolean"
  | number _ => "number"
  | text _ => "string"
  | moment _ => "date"
  | list _ => "array"
  | record _ => "object"

/-- The reading as a number: a finite number, or a text that spells one. -/
def number? : Cell → Option Float
  | number x => if Number.isFinite x then some x else none
  | text s => Number.ofText? s
  | _ => none

/-- The reading as a moment: a moment, or a text of ISO shape. -/
def moment? : Cell → Option Moment
  | moment m => some m
  | text s => Moment.ofText? s
  | _ => none

/-- The reading as a truth value: a truth value, or one of the two words in any case. -/
def bool? : Cell → Option Bool
  | bool b => some b
  | text s =>
    if Text.eqIgnoringAsciiCase s "true" then some true
    else if Text.eqIgnoringAsciiCase s "false" then some false
    else none
  | _ => none

/-- Whether a cell counts as true: false, null, zero, not-a-number and the empty text do not. -/
def truthy : Cell → Bool
  | null => false
  | bool b => b
  | number x => !Number.isZero x && !Number.isNaN x
  | text s => s != ""
  | moment _ => true
  | list _ => true
  | record _ => true

/-! ## JSON -/

/-- A number in JSON: an integer if it is one below `2 ^ 53`, null if it is not finite. -/
def numberJson (x : Float) : Json :=
  match Number.integer? x with
  | some n => if n.natAbs < Nat.pow 2 53 then .integer n else .float x
  | none => if Number.isFinite x then .float x else .null

mutual

/-- The JSON of a cell. Moments are written as their texts. -/
def toJson : Cell → Json
  | null => .null
  | bool b => .bool b
  | number x => numberJson x
  | text s => .text s
  | moment m => .text m.text
  | list items => .array (itemsJson items)
  | record fields => .object (fieldsJson fields)

/-- `toJson` over the items of a list. -/
def itemsJson : List Cell → List Json
  | [] => []
  | c :: rest => toJson c :: itemsJson rest

/-- `toJson` over the fields of a record. -/
def fieldsJson : List (String × Cell) → List (String × Json)
  | [] => []
  | (name, c) :: rest => (name, toJson c) :: fieldsJson rest

end

/-- The double nearest to an integer. -/
def ofInteger (n : Int) : Float :=
  if n < 0 then -(UInt64.ofNat n.natAbs).toFloat else (UInt64.ofNat n.natAbs).toFloat

mutual

/-- The cell of a JSON value. -/
def ofJson : Json → Cell
  | .null => null
  | .bool b => bool b
  | .integer n => number (ofInteger n)
  | .float x => number x
  | .text s => text s
  | .array items => list (ofItems items)
  | .object fields => record (ofFields fields)

/-- `ofJson` over the items of an array. -/
def ofItems : List Json → List Cell
  | [] => []
  | j :: rest => ofJson j :: ofItems rest

/-- `ofJson` over the fields of an object. -/
def ofFields : List (String × Json) → List (String × Cell)
  | [] => []
  | (name, j) :: rest => (name, ofJson j) :: ofFields rest

end

/-- Reads a cell from any document. -/
def read : Reader Cell := fun d => (Document.asJson d).map ofJson

/-! ## Texts and keys -/

/-- The text of a cell. Lists and records are shown as JSON. -/
def display : Cell → String
  | null => "null"
  | bool b => if b then "true" else "false"
  | number x => Number.text x
  | text s => s
  | moment m => m.text
  | list items => Json.compact (.array (itemsJson items))
  | record fields => Json.compact (.object (fieldsJson fields))

/-- The key under which cells of two tables are matched. Numbers and texts that spell the same
number have one key; an absent cell has none. -/
def key? (c : Cell) : Option String :=
  if c.isAbsent then none
  else
    match c.number? with
    | some x => some (Number.text x)
    | none => some c.display

/-- A cell has no join key exactly if it is absent. -/
theorem key?_eq_none_iff {c : Cell} : c.key? = none ↔ c.isAbsent = true := by
  unfold key?
  split
  · next h => exact iff_of_true rfl h
  · next h =>
    refine iff_of_false ?_ h
    cases c.number? <;> simp

/-- A cell has a join key exactly if it is present. -/
theorem key?_isSome_iff {c : Cell} : c.key?.isSome = true ↔ c.isAbsent = false := by
  rw [Option.isSome_iff_ne_none, ne_eq, key?_eq_none_iff, Bool.not_eq_true]

mutual

/-- Equality of cells, with the equality of numbers: not-a-number differs from itself. -/
def same : Cell → Cell → Bool
  | null, null => true
  | bool a, bool b => a == b
  | number x, number y => x == y
  | text s, text t => s == t
  | moment m, moment n => m = n
  | list as, list bs => sameItems as bs
  | record as, record bs => sameFields as bs
  | _, _ => false

/-- `same` over the items of two lists. -/
def sameItems : List Cell → List Cell → Bool
  | [], [] => true
  | a :: as, b :: bs => same a b && sameItems as bs
  | _, _ => false

/-- `same` over the fields of two records. -/
def sameFields : List (String × Cell) → List (String × Cell) → Bool
  | [], [] => true
  | (m, a) :: as, (n, b) :: bs => m == n && same a b && sameFields as bs
  | _, _ => false

end

end Cell

end RowAudit
