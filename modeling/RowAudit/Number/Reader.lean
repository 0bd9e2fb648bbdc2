import RowAudit.Number.Exact
import RowAudit.Text.Basic

/-!
# Reading numbers

`ofChars?` reads a decimal literal: an optional sign, digits with an optional point and an optional
power of ten, or one of the names of the special values. The result is the double nearest to the
decimal. `ofText?` reads a cell: white space around the literal is dropped, and only finite results
count.
-/

namespace RowAudit.Number

open RowAudit.Text

/-- The value of a decimal digit. -/
def digitValue (c : Char) : Nat := c.toNat - 48

/-- The value of a row of digits, continuing from `start`. -/
def digitsValue (start : Nat) (ds : List Char) : Nat :=
  ds.foldl (fun n c => 10 * n + digitValue c) start

/-- The leading digits and the rest. -/
def spanDigits (cs : List Char) : List Char × List Char :=
  (cs.takeWhile isAsciiDigit, cs.dropWhile isAsciiDigit)

/-- The double nearest to `mantissa · 10 ^ exponent`. -/
def ofScientific (mantissa : Nat) (exponent : Int) : Float :=
  Float.ofScientific mantissa (exponent < 0) exponent.natAbs

/-- A power of ten at the end of a literal: nothing, or `e` with an optional sign and digits. -/
def exponent? : List Char → Option Int
  | [] => some 0
  | e :: cs =>
    if e == 'e' || e == 'E' then
      let (negative, ds) :=
        match cs with
        | '-' :: r => (true, r)
        | '+' :: r => (false, r)
        | r => (false, r)
      if ds.isEmpty || !ds.all isAsciiDigit then none
      else
        let n : Int := digitsValue 0 ds
        some (if negative then -n else n)
    else none

/-- An unsigned literal with at least one digit before its power of ten. -/
def unsigned? (cs : List Char) : Option Float :=
  let (whole, rest) := spanDigits cs
  let (fraction, rest) :=
    match rest with
    | '.' :: r => spanDigits r
    | r => ([], r)
  if whole.isEmpty && fraction.isEmpty then none
  else
    (exponent? rest).map fun power =>
      ofScientific (digitsValue (digitsValue 0 whole) fraction) (power - fraction.length)

/-- The names of the values that have no digits, in lower case. -/
def special? (cs : List Char) : Option Float :=
  let name := String.ofList (cs.map Char.toLower)
  if name = "inf" ∨ name = "infinity" then some (Float.ofBits 0x7FF0000000000000)
  else if name = "nan" then some (Float.ofBits 0x7FF8000000000000)
  else none

/-- A literal without its sign. -/
def magnitude? (cs : List Char) : Option Float := (special? cs).or (unsigned? cs)

/-- A literal. -/
def ofChars? : List Char → Option Float
  | '-' :: cs => (magnitude? cs).map (-·)
  | '+' :: cs => magnitude? cs
  | cs => magnitude? cs

/-- The finite number that a text spells, white space around it aside. -/
def ofText? (s : String) : Option Float := (ofChars? (trimChars s.toList)).filter isFinite

end RowAudit.Number
