import RowAudit.Moment.Layout

/-!
# Reading dates and moments

`Moment.ofText?` reads texts of ISO 8601 shape: a timestamp with a zone, a timestamp without one, a
date with dashes or a date with slashes. A zone is checked and dropped, so the result is the local
time as written. `Layout.ofTokens` turns the token syntax of date patterns (`YYYY-MM-DD`) into a
layout text.
-/

namespace RowAudit

open RowAudit.Text RowAudit.Number

namespace Moment

/-- Exactly `width` digits. -/
def digits? (width : Nat) (cs : List Char) : Option (Nat × List Char) :=
  if (cs.take width).length = width ∧ (cs.take width).all isAsciiDigit then
    some (digitsValue 0 (cs.take width), cs.drop width)
  else none

/-- One given character. -/
def char? (c : Char) : List Char → Option (List Char)
  | x :: rest => if x = c then some rest else none
  | [] => none

/-- The sign of a zone, true for a minus. -/
def zoneSign? : List Char → Option (Bool × List Char)
  | '+' :: rest => some (false, rest)
  | '-' :: rest => some (true, rest)
  | c :: rest => if c.toNat = 0x2212 then some (true, rest) else none
  | [] => none

/-- What is left after a zone: the letter Z, or a sign, hours and minutes of less than a day. -/
def afterZone? (cs : List Char) : Option (List Char) :=
  match cs with
  | 'Z' :: rest => some rest
  | 'z' :: rest => some rest
  | cs => do
    let (_, cs) ← zoneSign? cs
    let (hours, cs) ← digits? 2 cs
    let cs ← char? ':' cs
    let (minutes, cs) ← digits? 2 cs
    if minutes ≤ 59 ∧ hours ≤ 23 then some cs else none

/-- A full timestamp with a zone. The date and the time are separated by the letter T or a space. -/
def zoned? (cs : List Char) : Option Moment := do
  let (year, cs) ← digits? 4 cs
  let cs ← char? '-' cs
  let (month, cs) ← digits? 2 cs
  let cs ← char? '-' cs
  let (day, cs) ← digits? 2 cs
  let cs ←
    match cs with
    | 'T' :: r => some r
    | 't' :: r => some r
    | ' ' :: r => some r
    | _ => none
  let (hour, cs) ← digits? 2 cs
  let cs ← char? ':' cs
  let (minute, cs) ← digits? 2 cs
  let cs ← char? ':' cs
  let (second, cs) ← digits? 2 cs
  let (nano, cs) ←
    match cs with
    | '.' :: r => (Layout.nanos? r).map fun (n, r) => (some n, r)
    | r => some (none, r)
  let rest ← afterZone? cs
  if !rest.isEmpty then none
  else
    Layout.Parts.moment?
      { year := some (year : Int), month := some month, day := some day, hour := some hour,
        minute := some minute, second := some second, nano := nano }

/-- The layouts of timestamps without a zone. -/
def timestampLayouts : List (List Layout.Directive) :=
  ["%Y-%m-%dT%H:%M:%S%.f", "%Y-%m-%d %H:%M:%S%.f", "%Y-%m-%dT%H:%M", "%Y-%m-%d %H:%M"].map
    Layout.ofText

/-- The layouts of dates. -/
def dateLayouts : List (List Layout.Directive) := ["%Y-%m-%d", "%Y/%m/%d"].map Layout.ofText

/-- Reads trimmed characters: every accepted shape has eight bytes or more and starts with a year
of four digits. -/
def ofChars? (cs : List Char) : Option Moment :=
  if byteLength cs < 8 ∨ (digits? 4 cs).isNone then none
  else
    (zoned? cs).or
      ((timestampLayouts.findSome? fun l => Layout.moment? l cs).or
        ((dateLayouts.findSome? fun l => Layout.date? l cs).map startOfDay))

/-- Reads a text, white space around it aside. -/
def ofText? (s : String) : Option Moment := ofChars? (trimChars s.toList)

end Moment

namespace Layout

/-- The layout text of a date pattern: the tokens for year, month, day, hour, minute and second
become directives, a percent sign is doubled, and every other character stands for itself. -/
def ofTokens : List Char → List Char
  | [] => []
  | 'Y' :: 'Y' :: 'Y' :: 'Y' :: rest => '%' :: 'Y' :: ofTokens rest
  | 'Y' :: 'Y' :: rest => '%' :: 'y' :: ofTokens rest
  | 'M' :: 'M' :: rest => '%' :: 'm' :: ofTokens rest
  | 'D' :: 'D' :: rest => '%' :: 'd' :: ofTokens rest
  | 'H' :: 'H' :: rest => '%' :: 'H' :: ofTokens rest
  | 'm' :: 'm' :: rest => '%' :: 'M' :: ofTokens rest
  | 's' :: 's' :: rest => '%' :: 'S' :: ofTokens rest
  | '%' :: rest => '%' :: '%' :: ofTokens rest
  | c :: rest => c :: ofTokens rest

end Layout

end RowAudit
