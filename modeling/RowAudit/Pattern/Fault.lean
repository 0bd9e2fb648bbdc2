/-!
# Faults of patterns

A place in a pattern is a point between two of its characters; an extent reaches from one place to
another. A `Fault` is what is wrong with a pattern and where. Its text shows the pattern, the marks
under the faulty part, and the cause. A pattern of several lines is shown between rules with its
lines numbered, and a fault that spans lines is described by its ends.
-/

namespace RowAudit.Pattern

/-! ## Places -/

/-- A point between two characters: how many characters precede it in the pattern, its line, and
its column. Lines and columns count from one. -/
structure Place where
  index : Nat
  line : Nat
  column : Nat
  deriving DecidableEq, Repr

namespace Place

/-- The place before the first character. -/
def first : Place := ⟨0, 1, 1⟩

/-- The place after a character that stands at this one. -/
def after (p : Place) (c : Char) : Place :=
  if c == '\n' then ⟨p.index + 1, p.line + 1, 1⟩ else ⟨p.index + 1, p.line, p.column + 1⟩

end Place

/-- A part of a pattern. -/
structure Extent where
  start : Place
  stop : Place
  deriving DecidableEq, Repr

namespace Extent

/-- Whether the part starts and stops on the same line. -/
def isOneLine (e : Extent) : Bool := e.start.line == e.stop.line

/-- The order of parts: by their starts, then by their stops. -/
def atMost (e f : Extent) : Bool :=
  e.start.index < f.start.index
    || (e.start.index == f.start.index && e.stop.index ≤ f.stop.index)

end Extent

/-! ## Causes -/

/-- What can be wrong with a pattern. -/
inductive Cause where
  /-- An escape sequence that is no character stands inside brackets. -/
  | classEscapeInvalid
  /-- The end of a range precedes its start. -/
  | classRangeInvalid
  /-- A boundary of a range is not a character. -/
  | classRangeLiteral
  /-- A bracket is not closed. -/
  | classUnclosed
  /-- A count is too large. -/
  | decimalInvalid
  /-- Braces hold no hexadecimal digits. -/
  | escapeHexEmpty
  /-- A hexadecimal number names no character. -/
  | escapeHexInvalid
  /-- A hexadecimal number holds another character. -/
  | escapeHexInvalidDigit
  /-- The pattern ends inside an escape sequence. -/
  | escapeUnexpectedEnd
  /-- There is no such escape sequence. -/
  | escapeUnrecognized
  /-- A minus sign among the flags is followed by none. -/
  | flagDanglingNegation
  /-- A flag occurs twice. -/
  | flagDuplicate
  /-- Two minus signs occur among the flags. -/
  | flagRepeatedNegation
  /-- The pattern ends among the flags. -/
  | flagUnexpectedEnd
  /-- There is no such flag. -/
  | flagUnrecognized
  /-- Two groups have one name. -/
  | groupNameDuplicate
  /-- A group has an empty name. -/
  | groupNameEmpty
  /-- The name of a group holds another character. -/
  | groupNameInvalid
  /-- The pattern ends inside the name of a group. -/
  | groupNameUnexpectedEnd
  /-- A group is not closed. -/
  | groupUnclosed
  /-- A group is closed that was not opened. -/
  | groupUnopened
  /-- Groups, brackets and repetitions stand too deep inside each other. -/
  | nestLimitExceeded (limit : Nat)
  /-- The greatest count of a repetition is below the least. -/
  | repetitionCountInvalid
  /-- A count has no digits. -/
  | repetitionCountEmpty
  /-- The braces of a count are not closed. -/
  | repetitionCountUnclosed
  /-- There is nothing to repeat. -/
  | repetitionMissing
  /-- The braces of a word boundary are not closed. -/
  | wordBoundaryUnclosed
  /-- There is no such word boundary. -/
  | wordBoundaryUnrecognized
  /-- The pattern ends after a word boundary and a brace. -/
  | wordBoundaryUnexpectedEnd
  /-- A property has no name. -/
  | propertyInvalid
  /-- A group is referred to. -/
  | backreference
  /-- A group looks around. -/
  | lookAround
  /-- A character beyond ASCII stands where there are bytes alone. -/
  | unicodeNotAllowed
  /-- The pattern could match a part of a character. -/
  | partialCharacter
  /-- There is no such property. -/
  | propertyNotFound
  /-- The property has no such value. -/
  | propertyValueNotFound
  deriving DecidableEq, Repr

/-- The text of a cause. -/
def Cause.message : Cause → String
  | classEscapeInvalid => "invalid escape sequence found in character class"
  | classRangeInvalid => "invalid character class range, the start must be <= the end"
  | classRangeLiteral => "invalid range boundary, must be a literal"
  | classUnclosed => "unclosed character class"
  | decimalInvalid => "decimal literal invalid"
  | escapeHexEmpty => "hexadecimal literal empty"
  | escapeHexInvalid => "hexadecimal literal is not a Unicode scalar value"
  | escapeHexInvalidDigit => "invalid hexadecimal digit"
  | escapeUnexpectedEnd => "incomplete escape sequence, reached end of pattern prematurely"
  | escapeUnrecognized => "unrecognized escape sequence"
  | flagDanglingNegation => "dangling flag negation operator"
  | flagDuplicate => "duplicate flag"
  | flagRepeatedNegation => "flag negation operator repeated"
  | flagUnexpectedEnd => "expected flag but got end of regex"
  | flagUnrecognized => "unrecognized flag"
  | groupNameDuplicate => "duplicate capture group name"
  | groupNameEmpty => "empty capture group name"
  | groupNameInvalid => "invalid capture group character"
  | groupNameUnexpectedEnd => "unclosed capture group name"
  | groupUnclosed => "unclosed group"
  | groupUnopened => "unopened group"
  | nestLimitExceeded limit =>
    "exceeded the maximum number of nested parentheses/brackets (" ++ toString limit ++ ")"
  | repetitionCountInvalid => "invalid repetition count range, the start must be <= the end"
  | repetitionCountEmpty => "repetition quantifier expects a valid decimal"
  | repetitionCountUnclosed => "unclosed counted repetition"
  | repetitionMissing => "repetition operator missing expression"
  | wordBoundaryUnclosed =>
    "special word boundary assertion is either unclosed or contains an invalid character"
  | wordBoundaryUnrecognized =>
    "unrecognized special word boundary assertion, valid choices are: start, end, start-half "
      ++ "or end-half"
  | wordBoundaryUnexpectedEnd =>
    "found either the beginning of a special word boundary or a bounded repetition on a \\b with "
      ++ "an opening brace, but no closing brace"
  | propertyInvalid => "invalid Unicode character class"
  | backreference => "backreferences are not supported"
  | lookAround => "look-around, including look-ahead and look-behind, is not supported"
  | unicodeNotAllowed => "Unicode not allowed here"
  | partialCharacter => "pattern can match invalid UTF-8"
  | propertyNotFound => "Unicode property not found"
  | propertyValueNotFound => "Unicode property value not found"

/-- A cause, the part of the pattern that is at fault, and an earlier part that it clashes with. -/
structure Fault where
  cause : Cause
  extent : Extent
  earlier : Option Extent := none
  deriving DecidableEq, Repr

/-! ## Their text -/

/-- A line without the carriage return at its end. -/
def withoutReturn (line : List Char) : List Char :=
  if line.getLast? == some '\r' then line.dropLast else line

/-- The lines of a text. Nothing after the last line end is no line. -/
def linesFrom : List Char → List Char → List (List Char)
  | [], [] => []
  | line, [] => [line]
  | line, c :: rest =>
    if c == '\n' then withoutReturn line :: linesFrom [] rest else linesFrom (line ++ [c]) rest

namespace Fault

/-- The parts at fault, in their order. -/
def extents (f : Fault) : List Extent :=
  match f.earlier with
  | none => [f.extent]
  | some e => if e.atMost f.extent then [e, f.extent] else [f.extent, e]

/-- The marks under the parts of a line, after `drawn` columns that are already drawn. -/
def marks : Nat → List Extent → List Char
  | _, [] => []
  | drawn, e :: rest =>
    let gap := (e.start.column - 1) - drawn
    let width := max 1 (e.stop.column - e.start.column)
    List.replicate gap ' ' ++ List.replicate width '^' ++ marks (drawn + gap + width) rest

/-- The lines that show the pattern, each with what stands before it and the marks below it. -/
def shownLines (f : Fault) (margin : Nat → List Char) : Nat → List (List Char) → List (List Char)
  | _, [] => []
  | n, line :: rest =>
    let here := f.extents.filter fun e => e.isOneLine && e.start.line == n
    let shown := margin n ++ line
    let below :=
      if here.isEmpty then [] else [List.replicate (margin n).length ' ' ++ marks 0 here]
    shown :: below ++ shownLines f margin (n + 1) rest

/-- The number of a line, aligned to the right, and a colon. -/
def numbered (width n : Nat) : List Char :=
  let digits := Nat.toDigits 10 n
  List.replicate (width - digits.length) ' ' ++ digits ++ [':', ' ']

/-- Where a part that spans lines starts and stops. -/
def ends (e : Extent) : String :=
  "on line " ++ toString e.start.line ++ " (column " ++ toString e.start.column ++ ") through line "
    ++ toString e.stop.line ++ " (column " ++ toString (e.stop.column - 1) ++ ")"

/-- The text of a fault of a pattern. -/
def describe (f : Fault) (pattern : String) : String :=
  let cs := pattern.toList
  let shown := linesFrom [] cs
  let body :=
    if cs.contains '\n' then
      let count := shown.length + (if cs.getLast? == some '\n' then 1 else 0)
      let width := (Nat.toDigits 10 count).length
      let rule := String.ofList (List.replicate 79 '~')
      let spanning := f.extents.filter fun e => !e.isOneLine
      [rule] ++ (f.shownLines (numbered width) 1 shown).map String.ofList ++ [rule]
        ++ spanning.map ends
    else (f.shownLines (fun _ => [' ', ' ', ' ', ' ']) 1 shown).map String.ofList
  "\n".intercalate (["regex parse error:"] ++ body ++ ["error: " ++ f.cause.message])

end Fault

end RowAudit.Pattern
