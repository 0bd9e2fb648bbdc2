import RowAudit.Json.Misfit

/-!
# Typed readers of documents

A `Reader` turns a document into a value of some type or says why it cannot. The readers here cover
the plain kinds, lists, free-form objects, choices named by a word, and records with named fields.
A record may also be written as the list of its fields in their order. Fields that a record does not
know are skipped; a field that occurs twice is a fault.
-/

namespace RowAudit

/-- Reads a document as a value. -/
abbrev Reader (α : Type) := Document → Except Misfit α

namespace Document

open RowAudit.Text RowAudit.Number

/-! ## Plain kinds -/

/-- The kind of a document, with its value if it is plain, as messages name it. -/
def describe : Document → String
  | .null => "null"
  | .bool b => "boolean `" ++ (if b then "true" else "false") ++ "`"
  | .integer n => "integer `" ++ toString n ++ "`"
  | .float x => "floating point `" ++ Json.floatText x ++ "`"
  | .text s => "string " ++ quoted s
  | .array _ _ => "sequence"
  | .object _ _ => "map"
  | .valueless => ""
  | .broken => ""

/-- Refuses a document of the wrong kind; one without a value is malformed. -/
def refuse {α : Type} (expected : String) : Reader α
  | .valueless => .error .malformed
  | .broken => .error .malformed
  | d => .error (.wrongType d.describe expected)

/-- A text. -/
def asText : Reader String
  | .text s => .ok s
  | d => refuse "a string" d

/-- A truth value. -/
def asBool : Reader Bool
  | .bool b => .ok b
  | d => refuse "a boolean" d

/-- A count of a type with a given name. -/
def asCount (type : String) : Reader Nat
  | .integer n =>
    if 0 ≤ n then .ok n.toNat else .error (.wrongValue (describe (.integer n)) type)
  | d => refuse type d

/-- Null, or a value of another type. -/
def asOption {α : Type} (r : Reader α) : Reader (Option α)
  | .null => .ok none
  | d => (r d).map some

/-- The end of a list or an object: the text must close it. -/
def closes : Ending → Except Misfit Unit
  | .broken => .error .malformed
  | _ => .ok ()

/-! ## Lists and free-form objects -/

/-- Reads the items of a list one after the other. -/
def readAll {α : Type} (r : Reader α) : List Document → Except Misfit (List α)
  | [] => .ok []
  | d :: rest => do
    let a ← r d
    let as ← readAll r rest
    .ok (a :: as)

/-- A list. -/
def asList {α : Type} (r : Reader α) : Reader (List α)
  | .array items ending => do
    let as ← readAll r items
    closes ending
    .ok as
  | d => refuse "a sequence" d

/-- Reads the values of an object one after the other. -/
def readEach {α : Type} (r : Reader α) :
    List (String × Document) → Except Misfit (List (String × α))
  | [] => .ok []
  | (name, d) :: rest => do
    let a ← r d
    let as ← readEach r rest
    .ok ((name, a) :: as)

/-- A free-form object as its pairs. -/
def asPairs {α : Type} (r : Reader α) : Reader (List (String × α))
  | .object entries ending => do
    let as ← readEach r entries
    closes ending
    .ok as
  | d => refuse "a map" d

/-- A free-form object; of two equal names the later counts. -/
def asFields {α : Type} (r : Reader α) : Reader (Fields α) := fun d =>
  (asPairs r d).map Fields.ofList

/-! ## Any value -/

mutual

/-- The tree of a document. The fields of its objects are in ascending order. -/
def asJson : Document → Except Misfit Json
  | .null => .ok .null
  | .bool b => .ok (.bool b)
  | .integer n => .ok (.integer n)
  | .float x => .ok (.float x)
  | .text s => .ok (.text s)
  | .array items ending => do
    let items ← asJsonItems items
    closes ending
    .ok (.array items)
  | .object entries ending => do
    let entries ← asJsonFields entries
    closes ending
    .ok (.object (Fields.ofList entries))
  | .valueless => .error .malformed
  | .broken => .error .malformed

/-- `asJson` over the items of an array. -/
def asJsonItems : List Document → Except Misfit (List Json)
  | [] => .ok []
  | d :: rest => do
    let j ← asJson d
    let js ← asJsonItems rest
    .ok (j :: js)

/-- `asJson` over the entries of an object. -/
def asJsonFields : List (String × Document) → Except Misfit (List (String × Json))
  | [] => .ok []
  | (name, d) :: rest => do
    let j ← asJson d
    let js ← asJsonFields rest
    .ok ((name, j) :: js)

end

mutual

/-- Skips a document. -/
def skip : Document → Except Misfit Unit
  | .array items ending => do
    skipItems items
    closes ending
  | .object entries ending => do
    skipEntries entries
    closes ending
  | .broken => .error .malformed
  | .null => .ok ()
  | .bool _ => .ok ()
  | .integer _ => .ok ()
  | .float _ => .ok ()
  | .text _ => .ok ()
  | .valueless => .ok ()

/-- `skip` over the items of an array. -/
def skipItems : List Document → Except Misfit Unit
  | [] => .ok ()
  | d :: rest => do
    skip d
    skipItems rest

/-- `skip` over the entries of an object. -/
def skipEntries : List (String × Document) → Except Misfit Unit
  | [] => .ok ()
  | (_, d) :: rest => do
    skip d
    skipEntries rest

end

/-! ## Choices -/

/-- A choice of a fixed set: the words that name it, and its value. -/
abbrev Choices (α : Type) := List (List String × α)

/-- All words of a set of choices. -/
def Choices.words {α : Type} (cs : Choices α) : List String := cs.flatMap Prod.fst

/-- The choice that a word names. -/
def Choices.named? {α : Type} (cs : Choices α) (word : String) : Option α :=
  (cs.find? (·.1.contains word)).map Prod.snd

/-- The choice that a word names, or the fault. -/
def Choices.named {α : Type} (cs : Choices α) (word : String) : Except Misfit α :=
  match cs.named? word with
  | some a => .ok a
  | none => .error (.unknownChoice word cs.words)

/-- The null that may stand beside the name of a choice. -/
def asUnit : Reader Unit
  | .null => .ok ()
  | d => refuse "unit" d

/-- A choice: a word, or an object with the word as its only name and null beside it. -/
def asChoice {α : Type} (cs : Choices α) : Reader α
  | .text word => cs.named word
  | .object [(word, d)] ending => do
    let a ← cs.named word
    asUnit d
    closes ending
    .ok a
  | .object [] _ => .error .notASinglePair
  | .object ((word, d) :: _ :: _) ending =>
    if ending = .tree then .error .notASinglePair
    else do
      let _ ← cs.named word
      asUnit d
      .error .malformed
  | .valueless => .error .malformed
  | .broken => .error .malformed
  | d => .error (.notAChoice d.describe)

/-! ## Records -/

/-- A field of a record: its name, its other names, and the reader that checks it. -/
structure Slot where
  name : String
  aliases : List String
  check : Reader Unit

/-- A field that holds a value of a given type. -/
def slot {α : Type} (name : String) (r : Reader α) : Slot :=
  ⟨name, [], fun d => (r d).map fun _ => ()⟩

/-- A field with one more name. -/
def aliasedSlot {α : Type} (name other : String) (r : Reader α) : Slot :=
  ⟨name, [other], fun d => (r d).map fun _ => ()⟩

/-- The fields of a record that have been found, by name or by position. -/
inductive Record where
  | named (found : List (String × Document))
  | listed (title : String) (slots : List Slot) (items : List Document) (ending : Ending)

/-- Collects the known fields of an object in the order in which they stand. -/
def collect (slots : List Slot) :
    List (String × Document) → List (String × Document) → Except Misfit (List (String × Document))
  | _, [] => .ok []
  | seen, (name, d) :: rest =>
    match slots.find? fun s => s.name == name || s.aliases.contains name with
    | none => do
      skip d
      collect slots seen rest
    | some s =>
      if seen.any (·.1 == s.name) then .error (.duplicateField s.name)
      else do
        s.check d
        let more ← collect slots ((s.name, d) :: seen) rest
        .ok ((s.name, d) :: more)

/-- The fields of a record with a title and slots. -/
def asRecord (title : String) (slots : List Slot) : Reader Record
  | .object entries ending => do
    let found ← collect slots [] entries
    closes ending
    .ok (.named found)
  | .array items ending => .ok (.listed title slots items ending)
  | d => refuse ("struct " ++ title) d

namespace Record

/-- What a list of the fields of a record is expected to be. -/
def expectation (title : String) (slots : List Slot) : String :=
  "struct " ++ title ++ " with " ++ toString slots.length
    ++ (if slots.length = 1 then " element" else " elements")

/-- A field of the record; `absent` says what happens if it is missing. -/
def field {α : Type} (rec : Record) (name : String) (r : Reader α)
    (absent : Misfit → Except Misfit α) : Except Misfit α :=
  match rec with
  | .named found =>
    match found.find? (·.1 == name) with
    | some (_, d) => r d
    | none => absent (.missingField name)
  | .listed title slots items ending =>
    let i := slots.findIdx (·.name == name)
    match items[i]? with
    | some d => r d
    | none =>
      if ending = .broken then .error .malformed
      else absent (.tooShort i (expectation title slots))

/-- A field that must be there. -/
def require {α : Type} (rec : Record) (name : String) (r : Reader α) : Except Misfit α :=
  rec.field name r .error

/-- A field with a default. -/
def optional {α : Type} (rec : Record) (name : String) (r : Reader α) (default : α) :
    Except Misfit α :=
  rec.field name r fun _ => .ok default

/-- A field that may be missing from an object, but not from a list of fields. -/
def nullable {α : Type} (rec : Record) (name : String) (r : Reader α) :
    Except Misfit (Option α) :=
  rec.field name (asOption r) fun m =>
    match m with
    | .missingField _ => .ok none
    | m => .error m

/-- The end of a record: a list of fields must not go on. -/
def finish : Record → Except Misfit Unit
  | .named _ => .ok ()
  | .listed _ slots items ending =>
    if slots.length < items.length then .error (.tooLong items.length) else closes ending

end Record

/-! ## Whole documents -/

/-- Reads a tree. -/
def decode {α : Type} (r : Reader α) (j : Json) : Except Misfit α := r (.ofJson j)

/-- Reads a text. -/
def decodeText {α : Type} (r : Reader α) (s : String) : Except Misfit α :=
  let (d, complete) := ofText s
  match r d with
  | .ok a => if complete then .ok a else .error .malformed
  | .error m => .error m.inText

end Document

/-- The tree of a text, if it is JSON. -/
def Json.parse? (s : String) : Option Json := (Document.decodeText Document.asJson s).toOption

end RowAudit
