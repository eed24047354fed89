/-!
# Finite binary floating-point numbers

A `Magnitude` is a number `mantissa · 2 ^ exponent` of the 64-bit binary format, zero included and
infinity left out. Everything is done in exact natural-number arithmetic: `Magnitude.nearest` rounds
a quotient to the nearest number of the format, a tie going to the even mantissa, and answers
nothing when the quotient is too large for it.

A `Double` is a magnitude with a sign, so there are two zeros.
-/

namespace CallRouting.Decimal

/-- The quotient rounded to the nearest natural number, a tie going to the even one. -/
def roundDiv (num den : Nat) : Nat :=
  let q := num / den
  let r := num % den
  if 2 * r > den || (2 * r == den && q % 2 == 1) then q + 1 else q

/-- The quotient `num / (den · 2 ^ e)` as a quotient of natural numbers. -/
def scaleDown (num den : Nat) (e : Int) : Nat × Nat :=
  if 0 ≤ e then (num, den * Nat.pow 2 e.toNat) else (num * Nat.pow 2 (-e).toNat, den)

/-- A number `mantissa · 2 ^ exponent`. Numbers below `2 ^ -1022` have the exponent `-1074`; from
there on the mantissa has 53 binary digits. -/
structure Magnitude where
  /-- The significant digits, as a whole number. -/
  mantissa : Nat
  /-- The power of two that the mantissa counts. -/
  exponent : Int
  deriving DecidableEq, Repr

namespace Magnitude

/-- The least exponent of the format. -/
def leastExponent : Int := -1074

/-- The greatest exponent of the format. -/
def greatestExponent : Int := 971

/-- Zero. -/
def zero : Magnitude := ⟨0, leastExponent⟩

/-- The number as a quotient of natural numbers. -/
def toQuotient (x : Magnitude) : Nat × Nat :=
  if 0 ≤ x.exponent then (x.mantissa * Nat.pow 2 x.exponent.toNat, 1)
  else (x.mantissa, Nat.pow 2 (-x.exponent).toNat)

/-- The power of two at or below a positive quotient. -/
def binaryOrder (num den : Nat) : Int :=
  let guess : Int := Int.ofNat num.log2 - Int.ofNat den.log2
  let (n, d) := scaleDown num den guess
  if d ≤ n then guess else guess - 1

/-- The number nearest to `num / den`, a tie going to the even mantissa; nothing when that would be
beyond the largest number of the format. -/
def nearest (num den : Nat) : Option Magnitude :=
  if num = 0 then some zero
  else
    let exponent := max (binaryOrder num den - 52) leastExponent
    let (n, d) := scaleDown num den exponent
    let mantissa := roundDiv n d
    let rounded : Magnitude :=
      if mantissa = Nat.pow 2 53 then ⟨Nat.pow 2 52, exponent + 1⟩ else ⟨mantissa, exponent⟩
    if rounded.exponent ≤ greatestExponent then some rounded else none

/-- The product, rounded. -/
def mul (x y : Magnitude) : Option Magnitude :=
  let (a, b) := x.toQuotient
  let (c, d) := y.toQuotient
  nearest (a * c) (b * d)

/-- The quotient, rounded; the divisor is not zero. -/
def div (x y : Magnitude) : Option Magnitude :=
  let (a, b) := x.toQuotient
  let (c, d) := y.toQuotient
  nearest (a * d) (b * c)

/-- The number nearest to `significand · 10 ^ exponent`. -/
def ofDecimal (significand : Nat) (exponent : Int) : Option Magnitude :=
  if 0 ≤ exponent then nearest (significand * Nat.pow 10 exponent.toNat) 1
  else nearest significand (Nat.pow 10 (-exponent).toNat)

end Magnitude

/-- A magnitude with a sign. -/
structure Double where
  /-- Whether the number carries a minus sign. -/
  negative : Bool
  /-- The number without its sign. -/
  magnitude : Magnitude
  deriving DecidableEq, Repr

end CallRouting.Decimal
