import RowAudit.Moment.Basic
import RowAudit.Number.Reader

/-!
# Date layouts

A layout is a row of directives that a text is read against: parts of a date or a time, blanks and
literal characters. Reading collects the parts and refuses a text in which one part occurs with two
values; `Parts.date?` and `Parts.moment?` then assemble what was collected.
-/

namespace RowAudit.Layout

open RowAudit.Text RowAudit.Number

/-- One element of a layout. -/
inductive Directive where
  | year
  | shortYear
  | month
  | day
  | hour
  | minute
  | second
  | fraction
  | blanks
  | literal (c : Char)
  | unknown
  deriving DecidableEq, Repr

/-- The directive that a letter after a percent sign names. -/
def directiveOf : Char → Directive
  | 'Y' => .year
  | 'y' => .shortYear
  | 'm' => .month
  | 'd' => .day
  | 'H' => .hour
  | 'M' => .minute
  | 'S' => .second
  | '%' => .literal '%'
  | _ => .unknown

/-- The directives of a layout text: letters after percent signs, blanks and literal characters. -/
def ofChars : List Char → List Directive
  | [] => []
  | '%' :: '.' :: 'f' :: rest => .fraction :: ofChars rest
  | '%' :: c :: rest => directiveOf c :: ofChars rest
  | '%' :: [] => [.unknown]
  | c :: rest => (if isBlank c then .blanks else .literal c) :: ofChars rest

/-- The directives of a layout text. -/
def ofText (s : String) : List Directive := ofChars s.toList

/-- The parts of a date and a time that have been read so far. -/
structure Parts where
  year : Option Int := none
  shortYear : Option Nat := none
  month : Option Nat := none
  day : Option Nat := none
  hour : Option Nat := none
  minute : Option Nat := none
  second : Option Nat := none
  nano : Option Nat := none
  deriving DecidableEq, Repr

/-- The value of a part that may have been read before; two readings must agree. -/
def agree {α : Type} [DecidableEq α] (earlier : Option α) (value : α) : Option (Option α) :=
  match earlier with
  | none => some (some value)
  | some v => if v = value then some (some value) else none

/-- One to `width` digits. -/
def number? (width : Nat) (cs : List Char) : Option (Nat × List Char) :=
  let ds := (cs.take width).takeWhile isAsciiDigit
  if ds.isEmpty then none else some (digitsValue 0 ds, cs.drop ds.length)

/-- A year: four digits at most, or any number of them after a sign. -/
def year? (cs : List Char) : Option (Int × List Char) :=
  match cs with
  | '-' :: r => (number? r.length r).map fun (n, r) => (-(n : Int), r)
  | '+' :: r => (number? r.length r).map fun (n, r) => ((n : Int), r)
  | r => (number? 4 r).map fun (n, r) => ((n : Int), r)

/-- Digits after a decimal point as nanoseconds; digits beyond the ninth are dropped. -/
def nanos? (cs : List Char) : Option (Nat × List Char) :=
  let (ds, rest) := spanDigits cs
  if ds.isEmpty then none
  else some (digitsValue 0 (ds.take 9) * Nat.pow 10 (9 - (ds.take 9).length), rest)

/-- Reads one directive. Numbers may have white space in front. -/
def step (d : Directive) (p : Parts) (cs : List Char) : Option (Parts × List Char) :=
  match d with
  | .literal c =>
    match cs with
    | [] => none
    | x :: rest => if x = c then some (p, rest) else none
  | .blanks => some (p, dropBlanks cs)
  | .unknown => none
  | .fraction =>
    match cs with
    | '.' :: rest => do
      let (n, rest) ← nanos? rest
      let v ← agree p.nano n
      some ({ p with nano := v }, rest)
    | rest => some (p, rest)
  | .year => do
    let (n, rest) ← year? (dropBlanks cs)
    let v ← agree p.year n
    some ({ p with year := v }, rest)
  | .shortYear => do
    let (n, rest) ← number? 2 (dropBlanks cs)
    let v ← agree p.shortYear n
    some ({ p with shortYear := v }, rest)
  | .month => do
    let (n, rest) ← number? 2 (dropBlanks cs)
    if n < 1 ∨ 12 < n then none
    else
      let v ← agree p.month n
      some ({ p with month := v }, rest)
  | .day => do
    let (n, rest) ← number? 2 (dropBlanks cs)
    if n < 1 ∨ 31 < n then none
    else
      let v ← agree p.day n
      some ({ p with day := v }, rest)
  | .hour => do
    let (n, rest) ← number? 2 (dropBlanks cs)
    if 23 < n then none
    else
      let v ← agree p.hour n
      some ({ p with hour := v }, rest)
  | .minute => do
    let (n, rest) ← number? 2 (dropBlanks cs)
    if 59 < n then none
    else
      let v ← agree p.minute n
      some ({ p with minute := v }, rest)
  | .second => do
    let (n, rest) ← number? 2 (dropBlanks cs)
    if 60 < n then none
    else
      let v ← agree p.second n
      some ({ p with second := v }, rest)

/-- Reads a whole text against a layout. -/
def parts? : List Directive → Parts → List Char → Option Parts
  | [], p, cs => if cs.isEmpty then some p else none
  | d :: ds, p, cs =>
    match step d p cs with
    | some (p, rest) => parts? ds p rest
    | none => none

namespace Parts

/-- The year that the parts give: the full year, which a two-digit year must not contradict, or a
two-digit year between 1970 and 2069. -/
def fullYear? (p : Parts) : Option Int :=
  match p.year, p.shortYear with
  | some y, none => some y
  | some y, some r => if 0 ≤ y ∧ y % 100 = r then some y else none
  | none, some r => some ((r : Int) + if r < 70 then 2000 else 1900)
  | none, none => none

/-- The date that the parts give. -/
def date? (p : Parts) : Option Date := do
  let year ← p.fullYear?
  let month ← p.month
  let day ← p.day
  Date.of? year month day

/-- The moment that the parts give. Seconds may be missing, but not before a fraction; second 60 is
the leap second. -/
def moment? (p : Parts) : Option Moment := do
  let date ← p.date?
  let hour ← p.hour
  let minute ← p.minute
  if p.second.isNone && p.nano.isSome then none
  else
    let second := p.second.getD 0
    let nano := p.nano.getD 0
    if second = 60 then Moment.of? date hour minute 59 (1000000000 + nano)
    else Moment.of? date hour minute second nano

end Parts

/-- Reads a date. -/
def date? (layout : List Directive) (cs : List Char) : Option Date :=
  (parts? layout {} cs).bind Parts.date?

/-- Reads a moment. -/
def moment? (layout : List Directive) (cs : List Char) : Option Moment :=
  (parts? layout {} cs).bind Parts.moment?

/-- Whether a text follows a layout that gives a date. -/
def accepts (layout : List Directive) (cs : List Char) : Bool :=
  (moment? layout cs).isSome || (date? layout cs).isSome

end RowAudit.Layout
