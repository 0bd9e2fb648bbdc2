import RowAudit.Number.Shortest

/-!
# Text forms of numbers

A `Style` says how the shortest decimal of a number is laid out. `plain` is the style of messages
and keys, always positional; `document` is the style of JSON documents, which turns to scientific
notation for large and small numbers and marks integral ones with a decimal point.
-/

namespace RowAudit.Number

/-- How a shortest decimal is laid out. -/
structure Style where
  /-- The choice between two equally near shortest decimals. -/
  tie : Tie
  /-- Whether an integral number ends in a point and a zero. -/
  pointZero : Bool
  /-- Whether a number whose first digit stands at this power of ten is written positionally. -/
  positional : Int → Bool

/-- Always positional, no trailing zero. -/
def Style.plain : Style := ⟨.upward, false, fun _ => true⟩

/-- Positional from `1e-5` up to but excluding `1e16`. -/
def Style.document : Style := ⟨.toEven, true, fun p => -5 ≤ p && p < 16⟩

/-- The decimal digits of a natural number. -/
def digitChars (n : Nat) : List Char := Nat.toDigits 10 n

/-- Digits with the decimal point after the first `point` of them, filled up with zeros. -/
def positionalChars (pointZero : Bool) (digits : List Char) (exponent : Int) : List Char :=
  if 0 ≤ exponent then
    digits ++ List.replicate exponent.toNat '0' ++ (if pointZero then ['.', '0'] else [])
  else
    let places := (-exponent).toNat
    if places < digits.length then
      digits.take (digits.length - places) ++ '.' :: digits.drop (digits.length - places)
    else '0' :: '.' :: List.replicate (places - digits.length) '0' ++ digits

/-- One digit, a point before the others, and a signed power of ten. -/
def scientificChars (digits : List Char) (power : Int) : List Char :=
  digits.take 1 ++ (if digits.length = 1 then [] else '.' :: digits.drop 1)
    ++ 'e' :: (if power < 0 then '-' else '+') :: digitChars power.natAbs

/-- A decimal in a style. -/
def Decimal.chars (style : Style) (d : Decimal) : List Char :=
  let digits := digitChars d.digits
  let power := d.exponent + digits.length - 1
  if style.positional power then positionalChars style.pointZero digits d.exponent
  else scientificChars digits power

/-- The text of a number in a style. -/
def render (style : Style) (x : Float) : String :=
  if isNaN x then "NaN"
  else
    let sign := if isNegative x then ['-'] else []
    let body :=
      if !isFinite x then ['i', 'n', 'f']
      else if isZero x then Decimal.chars style ⟨0, 0⟩
      else Decimal.chars style (shortest style.tie x)
    String.ofList (sign ++ body)

/-- The text of a number as it stands, with the sign of a negative zero. -/
def display (x : Float) : String := render Style.plain x

/-- The text of a number in messages and keys: `display` with one form for both zeros. -/
def text (x : Float) : String := if isZero x then "0" else display x

end RowAudit.Number
