import RowAudit.Number.Exact

/-!
# The shortest decimal of a number

A finite number stands for all reals that round to it. `shortest` finds, among the decimals in that
interval, one with the fewest digits, and of those the one nearest to the number. For one, two, …,
seventeen digits it tests the two neighbours of the number on the grid of that many digits; the
first grid with a hit wins. All arithmetic is exact.
-/

namespace RowAudit.Number

/-- The decimal `digits · 10 ^ exponent`. -/
structure Decimal where
  digits : Nat
  exponent : Int
  deriving DecidableEq, Repr

/-- Which of two equally near decimals is taken. -/
inductive Tie where
  | upward
  | toEven
  deriving DecidableEq, Repr

/-- The reals that round to a positive number, as three integers over one unit: the two ends and
the number itself. The ends belong to it exactly if the mantissa is even. -/
structure Interval where
  low : Nat
  middle : Nat
  high : Nat
  closed : Bool
  deriving DecidableEq, Repr

/-- The interval of a positive number in units of `2 ^ (exponent - 2)`. Below a power of two the
numbers lie twice as dense, so the lower end is nearer. -/
def interval (x : Float) : Interval :=
  let m := (exact x).mantissa
  let below := if fractionBits x == 0 && exponentBits x > 1 then 1 else 2
  ⟨4 * m - below, 4 * m, 4 * m + 2, m % 2 == 0⟩

namespace Interval

/-- Whether a point lies in the interval. -/
def has (i : Interval) (n : Nat) : Bool :=
  if i.closed then i.low ≤ n && n ≤ i.high else i.low < n && n < i.high

/-- The interval in a finer unit. -/
def scale (i : Interval) (k : Nat) : Interval :=
  ⟨i.low * k, i.middle * k, i.high * k, i.closed⟩

/-- The multiple of `step` next to the middle that lies in the interval, the nearer of two. -/
def hit? (i : Interval) (tie : Tie) (step : Nat) : Option Nat :=
  let c := i.middle / step
  match i.has (c * step), i.has ((c + 1) * step) with
  | true, true =>
    let down := i.middle - c * step
    let up := (c + 1) * step - i.middle
    if down < up then some c
    else if up < down then some (c + 1)
    else
      match tie with
      | .upward => some (c + 1)
      | .toEven => some (if c % 2 = 0 then c else c + 1)
  | true, false => some c
  | false, true => some (c + 1)
  | false, false => none

/-- The first hit on the grids `10 ^ exponent`, `10 ^ (exponent - 1)`, …, for an interval whose
unit is `1 / unit`. -/
def search (i : Interval) (unit : Nat) (tie : Tie) : Int → Nat → Option Decimal
  | _, 0 => none
  | exponent, grids + 1 =>
    let found :=
      if 0 ≤ exponent then i.hit? tie (Nat.pow 10 exponent.toNat * unit)
      else (i.scale (Nat.pow 10 (-exponent).toNat)).hit? tie unit
    match found with
    | some c => some ⟨c, exponent⟩
    | none => search i unit tie (exponent - 1) grids

end Interval

/-- The exponent of the first decimal digit of a positive number, or one more. -/
def leadingExponent (x : Float) : Int :=
  let e := exact x
  let top : Int := (e.mantissa.log2 : Int) + e.exponent
  Int.fdiv (top * 30103) 100000 + 1

/-- Moves trailing zeros of the digits into the exponent. -/
def Decimal.strip (d : Decimal) : Nat → Decimal
  | 0 => d
  | fuel + 1 =>
    if d.digits ≠ 0 ∧ d.digits % 10 = 0 then strip ⟨d.digits / 10, d.exponent + 1⟩ fuel else d

/-- The shortest decimal of a finite positive number. -/
def shortest (tie : Tie) (x : Float) : Decimal :=
  let q := (exact x).exponent - 2
  let found :=
    if 0 ≤ q then ((interval x).scale (Nat.pow 2 q.toNat)).search 1 tie (leadingExponent x) 19
    else (interval x).search (Nat.pow 2 (-q).toNat) tie (leadingExponent x) 19
  match found with
  | some d => d.strip 20
  | none => ⟨0, 0⟩

end RowAudit.Number
