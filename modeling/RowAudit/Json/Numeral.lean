import RowAudit.Number.Reader

/-!
# Numbers of JSON documents

A number without a point and a power of ten is an integer as long as it fits in 64 bits. Any other
number is read in two steps: its leading digits, as many as fit in 64 bits, become a double, which
is then scaled by a power of ten. A number too large for a double has no value.
-/

namespace RowAudit.Json

open RowAudit.Text RowAudit.Number

/-- The largest integer that the leading digits may form. -/
def digitLimit : Nat := Nat.pow 2 64 - 1

/-- Takes digits while the number they form stays within `digitLimit`; the result also counts
them. -/
def leadingDigits : Nat → List Char → Nat × Nat
  | n, [] => (n, 0)
  | n, c :: rest =>
    let next := 10 * n + digitValue c
    if next ≤ digitLimit then
      let (m, taken) := leadingDigits next rest
      (m, taken + 1)
    else (n, 0)

/-- A power of ten up to the 308th. -/
def powerOfTen (k : Nat) : Float := Float.ofScientific 1 false k

/-- Scales a double by a power of ten, in steps of 308 powers; `none` if the result is too large. -/
def scaled : Nat → Float → Int → Option Float
  | 0, x, _ => some x
  | steps + 1, x, exponent =>
    if exponent.natAbs ≤ 308 then
      if 0 ≤ exponent then
        let y := x * powerOfTen exponent.toNat
        if isFinite y then some y else none
      else some (x / powerOfTen exponent.natAbs)
    else if isZero x then some x
    else if 0 ≤ exponent then none
    else scaled steps (x / powerOfTen 308) (exponent + 308)

/-- The double of the leading digits and a power of ten. -/
def ofLeading (negative : Bool) (n : Nat) (exponent : Int) : Option Float :=
  (scaled (exponent.natAbs / 308 + 1) (UInt64.ofNat n).toFloat exponent).map fun x =>
    if negative then -x else x

/-- The parts of a number: its sign, the digits before and after the point, and the power of ten,
each as far as it is written. -/
structure Numeral where
  negative : Bool
  whole : List Char
  fraction : Option (List Char)
  power : Option Int

/-- The value of a number: an integer or a double, and `none` beyond the range of doubles. -/
def Numeral.value? (n : Numeral) : Option (Int ⊕ Float) :=
  let (lead, taken) := leadingDigits 0 n.whole
  let dropped : Int := (n.whole.length - taken : Nat)
  match n.fraction, n.power with
  | none, none =>
    if taken < n.whole.length then (ofLeading n.negative lead dropped).map .inr
    else if !n.negative then some (.inl lead)
    else if lead = 0 ∨ Nat.pow 2 63 < lead then some (.inr (-(UInt64.ofNat lead).toFloat))
    else some (.inl (-(lead : Int)))
  | fraction, power =>
    let (lead, shifted) := leadingDigits lead (fraction.getD [])
    (ofLeading n.negative lead (dropped - shifted + power.getD 0)).map .inr

/-- A power of ten after its letter: an optional sign and digits. -/
def power? (cs : List Char) : Option (Int × List Char) :=
  let (negative, cs) :=
    match cs with
    | '-' :: r => (true, r)
    | '+' :: r => (false, r)
    | r => (false, r)
  let (ds, rest) := spanDigits cs
  if ds.isEmpty then none
  else some (if negative then -(digitsValue 0 ds : Int) else digitsValue 0 ds, rest)

/-- The number at the start of the characters, and what follows it. -/
def numeral? (cs : List Char) : Option (Numeral × List Char) := do
  let (negative, cs) :=
    match cs with
    | '-' :: r => (true, r)
    | r => (false, r)
  let (whole, cs) := spanDigits cs
  if whole.isEmpty then none
  else if whole.length ≠ 1 ∧ whole.head? = some '0' then none
  else
    let (fraction, cs) ←
      match cs with
      | '.' :: r =>
        let (ds, r) := spanDigits r
        if ds.isEmpty then none else some (some ds, r)
      | r => some (none, r)
    let (power, cs) ←
      match cs with
      | 'e' :: r => (power? r).map fun (p, r) => (some p, r)
      | 'E' :: r => (power? r).map fun (p, r) => (some p, r)
      | r => some (none, r)
    some (⟨negative, whole, fraction, power⟩, cs)

end RowAudit.Json
