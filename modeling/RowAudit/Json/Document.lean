import RowAudit.Json.Basic
import RowAudit.Json.Numeral

/-!
# Documents as they are read

A `Document` is a JSON value on its way into a typed value. It may come from a `Json` tree or from
text, and text may be malformed: then everything before the first fault is kept, and the fault marks
where reading has to stop. Typed readers walk a document in the order of the text, so of two faults
the earlier one is reported, be it one of form or one of type.
-/

namespace RowAudit

/-- How the items of an array or an object end. -/
inductive Ending where
  /-- The value was built from a tree. -/
  | tree
  /-- The text closes the value. -/
  | closed
  /-- The text has a fault after the items. -/
  | broken
  deriving DecidableEq, Repr

/-- A JSON value in the course of reading. -/
inductive Document where
  | null
  | bool (b : Bool)
  | integer (n : Int)
  | float (x : Float)
  | text (s : String)
  | array (items : List Document) (ending : Ending)
  | object (entries : List (String × Document)) (ending : Ending)
  /-- Text that is well formed but has no value: a number out of range, a half of a surrogate pair,
  too deep a nesting. It can be skipped and not read. -/
  | valueless
  /-- Text that starts no value. -/
  | broken

namespace Document

open RowAudit.Text RowAudit.Number

/-! ## Trees as documents -/

mutual

/-- A tree as a document. -/
def ofJson : Json → Document
  | .null => .null
  | .bool b => .bool b
  | .integer n => .integer n
  | .float x => .float x
  | .text s => .text s
  | .array items => .array (ofItems items) .tree
  | .object fields => .object (ofFields fields) .tree

/-- `ofJson` over the items of an array. -/
def ofItems : List Json → List Document
  | [] => []
  | j :: rest => ofJson j :: ofItems rest

/-- `ofJson` over the fields of an object. -/
def ofFields : List (String × Json) → List (String × Document)
  | [] => []
  | (name, j) :: rest => (name, ofJson j) :: ofFields rest

end

/-! ## Texts as documents -/

/-- The blanks between the parts of a JSON text. -/
def isJsonBlank (c : Char) : Bool := c == ' ' || c == '\n' || c == '\t' || c == '\r'

/-- Drops leading blanks. -/
def skipBlanks (cs : List Char) : List Char := cs.dropWhile isJsonBlank

/-- The value of a hexadecimal digit. -/
def hexValue? (c : Char) : Option Nat :=
  if isAsciiDigit c then some (c.toNat - 48)
  else if 'a' ≤ c ∧ c ≤ 'f' then some (c.toNat - 87)
  else if 'A' ≤ c ∧ c ≤ 'F' then some (c.toNat - 55)
  else none

/-- Four hexadecimal digits. -/
def hexFour? : List Char → Option (Nat × List Char)
  | a :: b :: c :: d :: rest => do
    let a ← hexValue? a
    let b ← hexValue? b
    let c ← hexValue? c
    let d ← hexValue? d
    some (((a * 16 + b) * 16 + c) * 16 + d, rest)
  | _ => none

/-- The character of a one-letter escape. -/
def escapeOf? : Char → Option Char
  | '"' => some '"'
  | '\\' => some '\\'
  | '/' => some '/'
  | 'b' => some (Char.ofNat 8)
  | 'f' => some (Char.ofNat 12)
  | 'n' => some '\n'
  | 'r' => some '\r'
  | 't' => some '\t'
  | _ => none

/-- Reads the characters of a text up to its closing quote. The first component is `none` if the
text has no value because of half a surrogate pair. -/
def textBody? : Nat → List Char → Option (Option (List Char) × List Char)
  | 0, _ => none
  | fuel + 1, cs =>
    match cs with
    | [] => none
    | '"' :: rest => some (some [], rest)
    | '\\' :: 'u' :: rest => do
      let (n, rest) ← hexFour? rest
      if 0xD800 ≤ n ∧ n < 0xDC00 then
        match rest with
        | '\\' :: 'u' :: rest' => do
          let (m, rest') ← hexFour? rest'
          if 0xDC00 ≤ m ∧ m < 0xE000 then
            let c := Char.ofNat (0x10000 + (n - 0xD800) * 0x400 + (m - 0xDC00))
            let (body, rest') ← textBody? fuel rest'
            some (body.map (c :: ·), rest')
          else
            let (_, rest') ← textBody? fuel rest'
            some (none, rest')
        | rest =>
          let (_, rest) ← textBody? fuel rest
          some (none, rest)
      else if 0xDC00 ≤ n ∧ n < 0xE000 then
        let (_, rest) ← textBody? fuel rest
        some (none, rest)
      else
        let (body, rest) ← textBody? fuel rest
        some (body.map (Char.ofNat n :: ·), rest)
    | '\\' :: e :: rest => do
      let c ← escapeOf? e
      let (body, rest) ← textBody? fuel rest
      some (body.map (c :: ·), rest)
    | c :: rest =>
      if c.toNat < 32 then none
      else do
        let (body, rest) ← textBody? fuel rest
        some (body.map (c :: ·), rest)

/-- The rest of the characters after a fixed word. -/
def afterWord? : List Char → List Char → Option (List Char)
  | [], cs => some cs
  | w :: word, c :: cs => if w = c then afterWord? word cs else none
  | _ :: _, [] => none

/-- A text, given the characters after its opening quote, of which there are fewer than `fuel`. -/
def readText (fuel : Nat) (cs : List Char) : Document × Option (List Char) :=
  match textBody? fuel cs with
  | some (some body, rest) => (.text (String.ofList body), some rest)
  | some (none, rest) => (.valueless, some rest)
  | none => (.broken, none)

/-- A number. -/
def readNumber (cs : List Char) : Document × Option (List Char) :=
  match Json.numeral? cs with
  | none => (.broken, none)
  | some (n, rest) =>
    match n.value? with
    | some (.inl i) => (.integer i, some rest)
    | some (.inr x) => (.float x, some rest)
    | none => (.valueless, some rest)

/-- A fixed word with its value. -/
def readWord (word : List Char) (value : Document) (cs : List Char) :
    Document × Option (List Char) :=
  match afterWord? word cs with
  | some rest => (value, some rest)
  | none => (.broken, none)

/-- The deepest nesting of arrays and objects that is read. -/
def maxDepth : Nat := 127

/-- A nested value that lies too deep has no value. -/
def atDepth (depth : Nat) (r : Document × Option (List Char)) : Document × Option (List Char) :=
  match depth, r.2 with
  | 0, some rest => (.valueless, some rest)
  | 0, none => (.broken, none)
  | _ + 1, _ => r

mutual

/-- Reads a value; the second component is what follows it, or `none` after a fault. -/
def read : Nat → Nat → List Char → Document × Option (List Char)
  | 0, _, _ => (.broken, none)
  | fuel + 1, depth, cs =>
    match skipBlanks cs with
    | [] => (.broken, none)
    | '"' :: rest => readText fuel rest
    | 'n' :: rest => readWord ['u', 'l', 'l'] .null rest
    | 't' :: rest => readWord ['r', 'u', 'e'] (.bool true) rest
    | 'f' :: rest => readWord ['a', 'l', 's', 'e'] (.bool false) rest
    | '[' :: rest =>
      atDepth depth <|
        match skipBlanks rest with
        | ']' :: rest => (.array [] .closed, some rest)
        | rest =>
          let (items, ending, rest) := readItems fuel (depth - 1) rest
          (.array items ending, rest)
    | '\x7b' :: rest =>
      atDepth depth <|
        match skipBlanks rest with
        | '\x7d' :: rest => (.object [] .closed, some rest)
        | rest =>
          let (entries, ending, rest) := readEntries fuel (depth - 1) rest
          (.object entries ending, rest)
    | c :: rest => if c == '-' || isAsciiDigit c then readNumber (c :: rest) else (.broken, none)

/-- Reads the items of an array, at least one. -/
def readItems : Nat → Nat → List Char → List Document × Ending × Option (List Char)
  | 0, _, _ => ([], .broken, none)
  | fuel + 1, depth, cs =>
    let (item, rest?) := read fuel depth cs
    match rest?.map skipBlanks with
    | some (',' :: rest) =>
      let (items, ending, rest) := readItems fuel depth rest
      (item :: items, ending, rest)
    | some (']' :: rest) => ([item], .closed, some rest)
    | _ => ([item], .broken, none)

/-- Reads the entries of an object, at least one. -/
def readEntries : Nat → Nat → List Char → List (String × Document) × Ending × Option (List Char)
  | 0, _, _ => ([], .broken, none)
  | fuel + 1, depth, cs =>
    match skipBlanks cs with
    | '"' :: rest =>
      match readText fuel rest with
      | (.text name, some rest) =>
        match skipBlanks rest with
        | ':' :: rest =>
          let (value, rest?) := read fuel depth rest
          match rest?.map skipBlanks with
          | some (',' :: rest) =>
            let (entries, ending, rest) := readEntries fuel depth rest
            ((name, value) :: entries, ending, rest)
          | some ('\x7d' :: rest) => ([(name, value)], .closed, some rest)
          | _ => ([(name, value)], .broken, none)
        | _ => ([(name, .broken)], .broken, none)
      | _ => ([], .broken, none)
    | _ => ([], .broken, none)

end

/-- The document of a text, and whether nothing but blanks follows it. -/
def ofText (s : String) : Document × Bool :=
  let cs := s.toList
  let (d, rest?) := read (2 * cs.length + 2) maxDepth cs
  (d, match rest? with
    | some rest => (skipBlanks rest).isEmpty
    | none => false)

end Document

end RowAudit
