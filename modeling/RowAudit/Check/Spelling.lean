import RowAudit.Check.Draft
import RowAudit.Pattern.Basic
import RowAudit.Text.Case

/-!
# Spelling

Checks of how a cell is written: that its text matches a pattern, that it contains a given text,
that it is of a type, or that it is a date in a given format.
-/

namespace RowAudit

open Document

/-! ## Patterns -/

/-- A pattern that the text of a cell has to match somewhere. -/
structure PatternCheck where
  source : String
  pattern : Pattern

namespace PatternCheck

/-- Reads the pattern and its flags. -/
def read : Reader (String × String) := fun d => do
  let rec ← Parameters.record [slot "pattern" asText, slot "flags" (asOption asText)] d
  let source ← rec.require "pattern" asText
  let flags ← rec.optional "flags" (asOption asText) none
  .ok (source, flags.getD "")

/-- Plans the check. -/
def plan (d : Draft) : Except Problem PatternCheck := do
  let (source, flags) ← d.decode read
  d.requireText "pattern" source
  match Pattern.compile source flags with
  | .ok pattern => .ok ⟨source, pattern⟩
  | .error message => d.fault message

/-- Checks a cell. -/
def judge (check : PatternCheck) (column : String) (value : Cell) : Outcome :=
  .check (check.pattern.occursIn value.display)
    (column ++ " value '" ++ value.display ++ "' does not match pattern " ++ check.source)

end PatternCheck

/-! ## Parts of texts -/

/-- Where a text has to stand inside another. -/
inductive Place where
  | anywhere
  | atStart
  | atEnd
  deriving DecidableEq, Repr

namespace Place

/-- The words that name places. -/
def choices : Choices Place :=
  [(["contains"], anywhere), (["starts-with", "startsWith"], atStart),
   (["ends-with", "endsWith"], atEnd)]

/-- Reads a place. -/
def read : Reader Place := asChoice choices

/-- Whether a text stands at a place inside another. -/
def holds (p : Place) (needle haystack : List Char) : Bool :=
  match p with
  | anywhere => Text.occursIn needle haystack
  | atStart => needle.isPrefixOf haystack
  | atEnd => needle.isSuffixOf haystack

/-- The verb for a place. -/
def verb : Place → String
  | anywhere => "contain"
  | atStart => "start with"
  | atEnd => "end with"

end Place

/-- A text that the text of a cell has to contain. -/
structure Contains where
  search : String
  place : Place
  caseSensitive : Bool

namespace Contains

/-- Reads the parameters. -/
def read : Reader Contains := fun d => do
  let rec ← Parameters.record
    [slot "searchString" asText, slot "matchType" Place.read,
     slot "caseSensitive" Parameters.asFlag] d
  let search ← rec.require "searchString" asText
  let place ← rec.optional "matchType" Place.read .anywhere
  let caseSensitive ← rec.optional "caseSensitive" Parameters.asFlag true
  .ok ⟨search, place, caseSensitive⟩

/-- Plans the check. -/
def plan (d : Draft) : Except Problem Contains := do
  let check ← d.decode read
  if check.search = "" then d.fault "contains requires parameter 'searchString'" else .ok check

/-- A text in the case in which it is compared. -/
def folded (check : Contains) (s : String) : String :=
  if check.caseSensitive then s else Text.lower s

/-- Checks a cell. -/
def judge (check : Contains) (column : String) (value : Cell) : Outcome :=
  let found := check.place.holds (check.folded check.search).toList
    (check.folded value.display).toList
  .check found
    (column ++ " value '" ++ value.display ++ "' must " ++ check.place.verb ++ " '" ++ check.search
      ++ "'")

end Contains

/-! ## Types -/

/-- A type of cells. -/
inductive DataType where
  | text
  | number
  | boolean
  | date
  | record
  | list
  deriving DecidableEq, Repr

namespace DataType

/-- The words that name types. -/
def choices : Choices DataType :=
  [(["string"], text), (["float", "integer", "number"], number), (["bool", "boolean"], boolean),
   (["date", "datetime"], date), (["object"], record), (["array"], list)]

/-- The name of a type in messages. -/
def name : DataType → String
  | text => "string"
  | number => "number"
  | boolean => "boolean"
  | date => "date"
  | record => "object"
  | list => "array"

/-- Whether a cell is of a type. Numbers, truth values and dates may be spelled as texts. -/
def accepts : DataType → Cell → Bool
  | text, .text _ => true
  | number, c => c.number?.isSome
  | boolean, c => c.bool?.isSome
  | date, c => c.moment?.isSome
  | record, .record _ => true
  | list, .list _ => true
  | _, _ => false

/-- Reads the parameters. -/
def read : Reader DataType := fun d => do
  let rec ← Parameters.record [slot "dataType" (asChoice choices)] d
  rec.require "dataType" (asChoice choices)

/-- Plans the check. -/
def plan (d : Draft) : Except Problem DataType := d.decode read

/-- Checks a cell. -/
def judge (check : DataType) (column : String) (value : Cell) : Outcome :=
  .check (check.accepts value)
    (column ++ " must be of type " ++ check.name ++ ", got " ++ value.kind ++ " '" ++ value.display
      ++ "'")

end DataType

/-! ## Dates -/

/-- A way to write dates. -/
inductive DateStyle where
  | iso
  | us
  | eu
  | custom
  | any
  deriving DecidableEq, Repr

namespace DateStyle

/-- The words that name styles. -/
def choices : Choices DateStyle :=
  [(["iso"], iso), (["us"], us), (["eu"], eu), (["custom"], custom), (["any"], any)]

/-- Reads a style. -/
def read : Reader DateStyle := asChoice choices

end DateStyle

namespace Spelling

open Text

/-- What follows a given number of digits. Dates are read by ASCII digits, so other digits need no
place here. -/
def afterDigits? : Nat → List Char → Option (List Char)
  | 0, cs => some cs
  | n + 1, c :: cs => if isAsciiDigit c then afterDigits? n cs else none
  | _ + 1, [] => none

/-- What follows one of some characters. -/
def afterOne? (choices : List Char) : List Char → Option (List Char)
  | c :: cs => if choices.contains c then some cs else none
  | [] => none

/-- What follows a zone: the letter Z, or a sign with hours and minutes, a colon between them or
not. -/
def afterZone? (cs : List Char) : Option (List Char) :=
  match cs with
  | 'Z' :: rest => some rest
  | cs => do
    let cs ← afterOne? ['+', '-'] cs
    let cs ← afterDigits? 2 cs
    let cs := (afterOne? [':'] cs).getD cs
    afterDigits? 2 cs

/-- What follows a second with an optional fraction, or the characters themselves if there is
none. -/
def afterSecond (cs : List Char) : List Char :=
  match (afterOne? [':'] cs).bind (afterDigits? 2) with
  | none => cs
  | some rest =>
    match rest with
    | '.' :: c :: more => if isAsciiDigit c then more.dropWhile isAsciiDigit else rest
    | rest => rest

/-- Whether the characters are those of a time of day after a date: a separator, hour and minute,
and optionally a second and a zone. -/
def isTime (cs : List Char) : Bool :=
  match (afterOne? ['T', ' '] cs).bind fun cs => (afterDigits? 2 cs).bind fun cs =>
      (afterOne? [':'] cs).bind (afterDigits? 2) with
  | none => false
  | some cs =>
    let rest := afterSecond cs
    rest.isEmpty || (afterZone? rest) == some []

/-- Whether the characters are those of an ISO date with an optional time of day. -/
def isIsoShape (cs : List Char) : Bool :=
  match (afterDigits? 4 cs).bind fun cs => (afterOne? ['-'] cs).bind fun cs =>
      (afterDigits? 2 cs).bind fun cs => (afterOne? ['-'] cs).bind (afterDigits? 2) with
  | none => false
  | some rest => rest.isEmpty || isTime rest

/-- The separators of dates that do not start with the year. -/
def dateSeparators : List Char := ['/', '.', '-']

/-- Whether the characters are two digits, two digits and four digits with separators between. -/
def isSlashedShape (cs : List Char) : Bool :=
  match (afterDigits? 2 cs).bind fun cs => (afterOne? dateSeparators cs).bind fun cs =>
      (afterDigits? 2 cs).bind fun cs => (afterOne? dateSeparators cs).bind (afterDigits? 4) with
  | none => false
  | some rest => rest.isEmpty

/-- Whether the characters are a date in a layout with slashes. -/
def isSlashedDate (layout : String) (cs : List Char) : Bool :=
  isSlashedShape cs
    && Layout.accepts (Layout.ofText layout)
      (cs.map fun c => if c == '.' || c == '-' then '/' else c)

end Spelling

/-- A style in which a date has to be written. -/
structure DateSpelling where
  style : DateStyle
  /-- The pattern of a custom style. -/
  pattern : Option String
  required : Bool

namespace DateSpelling

open Spelling

/-- Reads the parameters. -/
def read : Reader DateSpelling := fun d => do
  let rec ← Parameters.record
    [slot "format" DateStyle.read, slot "customFormat" Parameters.asOptionalText,
     slot "required" Parameters.asFlag] d
  let style ← rec.optional "format" DateStyle.read .iso
  let pattern ← rec.optional "customFormat" Parameters.asOptionalText none
  let required ← rec.optional "required" Parameters.asFlag false
  .ok ⟨style, pattern, required⟩

/-- Plans the check. -/
def plan (d : Draft) : Except Problem DateSpelling := do
  let check ← d.decode read
  if check.style = .custom ∧ check.pattern.isNone then
    d.fault "date-format with format 'custom' requires parameter 'customFormat'"
  else .ok check

/-- Whether characters are a date in the style. -/
def accepts (check : DateSpelling) (cs : List Char) : Bool :=
  match check.style with
  | .iso => isIsoShape cs && (Moment.ofChars? cs).isSome
  | .us => isSlashedDate "%m/%d/%Y" cs
  | .eu => isSlashedDate "%d/%m/%Y" cs
  | .custom =>
    check.pattern.any fun p => Layout.accepts (Layout.ofChars (Layout.ofTokens p.toList)) cs
  | .any =>
    (Moment.ofChars? cs).isSome || isSlashedDate "%m/%d/%Y" cs || isSlashedDate "%d/%m/%Y" cs

/-- Whether a cell is a date in the style. A moment is in ISO style. -/
def acceptsCell (check : DateSpelling) : Cell → Bool
  | .moment _ => check.style = .iso || check.style = .any
  | .text s => check.accepts (Text.trimChars s.toList)
  | _ => false

/-- The style in words. -/
def describe (check : DateSpelling) : String :=
  match check.style with
  | .iso => "ISO (YYYY-MM-DD)"
  | .us => "US (MM/DD/YYYY)"
  | .eu => "EU (DD/MM/YYYY)"
  | .custom => check.pattern.getD "custom"
  | .any => "a recognizable date"

/-- Checks a cell. -/
def judge (check : DateSpelling) (column : String) (value : Cell) : Outcome :=
  if value.isAbsent then .check (!check.required) (column ++ " is required")
  else
    .check (check.acceptsCell value)
      (column ++ " value '" ++ value.display ++ "' is not a valid date in format "
        ++ check.describe)

end DateSpelling

end RowAudit
