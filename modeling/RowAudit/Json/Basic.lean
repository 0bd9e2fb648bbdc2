import RowAudit.Number.Text
import RowAudit.Text.Basic
import RowAudit.Fields

/-!
# JSON values

`Json` is the tree of a JSON document. Integers and other numbers are kept apart, since a document
may ask for one of them. `Json.compact` and `Json.pretty` print a tree; the fields of an object are
printed in the order in which they stand.
-/

namespace RowAudit

/-- A JSON value. -/
inductive Json where
  | null
  | bool (b : Bool)
  | integer (n : Int)
  | float (x : Float)
  | text (s : String)
  | array (items : List Json)
  | object (fields : List (String × Json))

instance : Inhabited Json := ⟨.null⟩

namespace Json

open RowAudit.Text

/-- An optional value, or null. -/
def ofOption {α : Type} (f : α → Json) : Option α → Json
  | some a => f a
  | none => .null

/-- An array of texts. -/
def ofTexts (ss : List String) : Json := .array (ss.map .text)

/-- Two lower-case hexadecimal digits of a control character. -/
def hexPair (n : Nat) : List Char := [Nat.digitChar (n / 16), Nat.digitChar (n % 16)]

/-- The form of a character inside a JSON text. -/
def escaped (c : Char) : List Char :=
  if c == '"' then ['\\', '"']
  else if c == '\\' then ['\\', '\\']
  else if c.toNat == 8 then ['\\', 'b']
  else if c.toNat == 12 then ['\\', 'f']
  else if c == '\n' then ['\\', 'n']
  else if c == '\r' then ['\\', 'r']
  else if c == '\t' then ['\\', 't']
  else if c.toNat < 32 then ['\\', 'u', '0', '0'] ++ hexPair c.toNat
  else [c]

/-- A JSON text with its quotes. -/
def quote (s : String) : String := String.ofList ('"' :: s.toList.flatMap escaped ++ ['"'])

/-- A number that is no integer; what is not finite has no number in JSON. -/
def floatText (x : Float) : String :=
  if Number.isFinite x then Number.render Number.Style.document x else "null"

/-- Joins texts with commas. -/
def commas (texts : List String) : String := String.intercalate "," texts

mutual

/-- The text of a value without blanks. -/
def compact : Json → String
  | .null => "null"
  | .bool b => if b then "true" else "false"
  | .integer n => toString n
  | .float x => floatText x
  | .text s => quote s
  | .array items => "[" ++ commas (compactItems items) ++ "]"
  | .object fields => "\x7b" ++ commas (compactFields fields) ++ "\x7d"

/-- `compact` over the items of an array. -/
def compactItems : List Json → List String
  | [] => []
  | j :: rest => compact j :: compactItems rest

/-- `compact` over the fields of an object. -/
def compactFields : List (String × Json) → List String
  | [] => []
  | (name, j) :: rest => (quote name ++ ":" ++ compact j) :: compactFields rest

end

/-- Lines one level deeper, separated by commas, between two brackets. -/
def block (indent : Nat) (opening closing : String) (lines : List String) : String :=
  if lines.isEmpty then opening ++ closing
  else
    let inner := String.ofList (List.replicate (indent + 2) ' ')
    let outer := String.ofList (List.replicate indent ' ')
    opening ++ "\n" ++ inner ++ String.intercalate (",\n" ++ inner) lines ++ "\n" ++ outer
      ++ closing

mutual

/-- The text of a value on several lines, two blanks a level. -/
def prettyAt (indent : Nat) : Json → String
  | .array items => block indent "[" "]" (prettyItems (indent + 2) items)
  | .object fields => block indent "\x7b" "\x7d" (prettyFields (indent + 2) fields)
  | .null => "null"
  | .bool b => if b then "true" else "false"
  | .integer n => toString n
  | .float x => floatText x
  | .text s => quote s

/-- `prettyAt` over the items of an array. -/
def prettyItems (indent : Nat) : List Json → List String
  | [] => []
  | j :: rest => prettyAt indent j :: prettyItems indent rest

/-- `prettyAt` over the fields of an object. -/
def prettyFields (indent : Nat) : List (String × Json) → List String
  | [] => []
  | (name, j) :: rest => (quote name ++ ": " ++ prettyAt indent j) :: prettyFields indent rest

end

/-- The text of a value on several lines. -/
def pretty (j : Json) : String := prettyAt 0 j

end Json

end RowAudit
