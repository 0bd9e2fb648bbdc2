/-!
# Numbers as exact values

A number of a cell is an IEEE 754 double. `Exact` is its value as a signed integer times a power of
two, which is what every text form and every exact operation below is computed from. The order of
numbers is the usual one: not-a-number is comparable with nothing, and the two zeros are equal.
-/

namespace RowAudit.Number

/-- The value `± mantissa · 2 ^ exponent`. -/
structure Exact where
  negative : Bool
  mantissa : Nat
  exponent : Int
  deriving DecidableEq, Repr

/-- The sign bit. -/
def isNegative (x : Float) : Bool := x.toBits.toNat / Nat.pow 2 63 == 1

/-- The eleven bits of the exponent. -/
def exponentBits (x : Float) : Nat := x.toBits.toNat / Nat.pow 2 52 % 2048

/-- The fifty-two stored bits of the mantissa. -/
def fractionBits (x : Float) : Nat := x.toBits.toNat % Nat.pow 2 52

/-- Neither infinite nor not-a-number. -/
def isFinite (x : Float) : Bool := exponentBits x != 2047

/-- Not-a-number. -/
def isNaN (x : Float) : Bool := exponentBits x == 2047 && fractionBits x != 0

/-- The exact value of a finite number. -/
def exact (x : Float) : Exact :=
  if exponentBits x == 0 then ⟨isNegative x, fractionBits x, -1074⟩
  else ⟨isNegative x, Nat.pow 2 52 + fractionBits x, (exponentBits x : Int) - 1075⟩

/-- Either zero. -/
def isZero (x : Float) : Bool := exponentBits x == 0 && fractionBits x == 0

/-- The integer that a finite number equals. -/
def integer? (x : Float) : Option Int :=
  if !isFinite x then none
  else
    let e := exact x
    let magnitude? : Option Nat :=
      if 0 ≤ e.exponent then some (e.mantissa * Nat.pow 2 e.exponent.toNat)
      else if e.mantissa % Nat.pow 2 (-e.exponent).toNat = 0 then
        some (e.mantissa / Nat.pow 2 (-e.exponent).toNat)
      else none
    magnitude?.map fun n => if e.negative then -(n : Int) else n

/-- The number with a given exact value, provided that one exists. -/
def ofExact (e : Exact) : Float :=
  let sign := if e.negative then Nat.pow 2 63 else 0
  if e.mantissa = 0 then Float.ofBits (UInt64.ofNat sign)
  else
    let lowest : Int := max ((e.mantissa.log2 : Int) - 52 + e.exponent) (-1074)
    let mantissa :=
      if e.exponent ≤ lowest then e.mantissa / Nat.pow 2 (lowest - e.exponent).toNat
      else e.mantissa * Nat.pow 2 (e.exponent - lowest).toNat
    let stored :=
      if Nat.pow 2 52 ≤ mantissa then
        (lowest + 1075).toNat * Nat.pow 2 52 + (mantissa - Nat.pow 2 52)
      else mantissa
    Float.ofBits (UInt64.ofNat (sign + stored))

/-- The remainder of a division toward zero, exact and with the sign of the dividend. -/
def remainder (x y : Float) : Float :=
  let a := exact x
  let b := exact y
  let e := min a.exponent b.exponent
  let dividend := a.mantissa * Nat.pow 2 (a.exponent - e).toNat
  let divisor := b.mantissa * Nat.pow 2 (b.exponent - e).toNat
  ofExact ⟨a.negative, dividend % divisor, e⟩

/-- The order of two numbers, if they have one. -/
def order (x y : Float) : Option Ordering :=
  if x < y then some .lt else if x == y then some .eq else if y < x then some .gt else none

end RowAudit.Number
