import CallRouting.Decimal.Digits
import CallRouting.Decimal.Double

/-!
# The fewest digits that read back

A binary number is written with the fewest significant decimal digits of which it is the nearest
number of its format; among decimals of that length, the one nearest to it is taken, and of two that
are equally near the one with an even last digit. The search goes through the grids of one digit,
two digits and so on. If any point of a grid lies in the interval of reals that round to the number,
one of the two neighbours of the number on that grid does, so only those are tried.

`Style` says how digits and exponent become text: plain positional notation for exponents that are
neither large nor small, and a power of ten otherwise.
-/

namespace CallRouting.Decimal

/-- A positive decimal `digits · 10 ^ exponent`. -/
structure Scaled where
  /-- The significant digits, as a whole number. -/
  digits : Nat
  /-- The power of ten that the digits count. -/
  exponent : Int
  deriving DecidableEq, Repr

namespace Scaled

/-- The same decimal without trailing zeros among its digits. -/
def normalize (digits : Nat) (exponent : Int) : Scaled :=
  if h : digits ≠ 0 ∧ digits % 10 = 0 then normalize (digits / 10) (exponent + 1)
  else ⟨digits, exponent⟩
termination_by digits

/-- The decimal as a quotient of natural numbers. -/
def toQuotient (x : Scaled) : Nat × Nat :=
  if 0 ≤ x.exponent then (x.digits * Nat.pow 10 x.exponent.toNat, 1)
  else (x.digits, Nat.pow 10 (-x.exponent).toNat)

end Scaled

/-- How many zeros follow the point before the first digit of `num / den`, which is positive and
less than one; at most `bound` are looked for. -/
def leadingZeros (num den : Nat) : Nat → Nat
  | 0 => 0
  | bound + 1 => if den ≤ num * 10 then 0 else leadingZeros (num * 10) den bound + 1

/-- The number `p` with `10 ^ (p - 1) ≤ num / den < 10 ^ p`. -/
def decimalOrder (num den : Nat) : Int :=
  if den ≤ num then (digits (num / den)).length else -(leadingZeros num den 400 : Int)

namespace Magnitude

/-- Whether the decimal is one of the reals that round to the number: it is less than half a unit
away, or half a unit away from a number whose mantissa is even. Below a power of two the unit is
half as large. -/
def roundsFrom (x : Magnitude) (s : Scaled) : Bool :=
  let (n, d) := s.toQuotient
  let halved := x.mantissa == Nat.pow 2 52 && leastExponent < x.exponent
  let lower : Magnitude := ⟨4 * x.mantissa - (if halved then 1 else 2), x.exponent - 2⟩
  let upper : Magnitude := ⟨4 * x.mantissa + 2, x.exponent - 2⟩
  let (ln, ld) := lower.toQuotient
  let (un, ud) := upper.toQuotient
  if x.mantissa % 2 == 0 then ln * d ≤ n * ld && n * ud ≤ un * d
  else ln * d < n * ld && n * ud < un * d

/-- The neighbour of the number on the grid of `count` digits that reads back. If both do, it is the
nearer one, and if the number is in the middle the one with an even last digit. -/
def onGrid? (x : Magnitude) (order : Int) (count : Nat) : Option Scaled :=
  let (n, d) := x.toQuotient
  let unit := order - count
  -- the number in units of the grid
  let (gn, gd) := if 0 ≤ unit then (n, d * Nat.pow 10 unit.toNat)
    else (n * Nat.pow 10 (-unit).toNat, d)
  let below : Scaled := ⟨gn / gd, unit⟩
  let above : Scaled := ⟨gn / gd + 1, unit⟩
  match x.roundsFrom below && below.digits != 0, x.roundsFrom above with
  | true, true =>
    let middle := 2 * (gn % gd) = gd
    if 2 * (gn % gd) < gd ∨ (middle ∧ below.digits % 2 = 0) then some below else some above
  | true, false => some below
  | false, true => some above
  | false, false => none

/-- The fewest digits that read back as a number that is not zero. Seventeen always do. -/
def shortest (x : Magnitude) : Scaled :=
  let (n, d) := x.toQuotient
  let order := decimalOrder n d
  let found := (List.range 17).findSome? fun i ↦ x.onGrid? order (i + 1)
  let s := found.getD ⟨0, 0⟩
  Scaled.normalize s.digits s.exponent

end Magnitude

/-! ## From digits to text -/

/-- How a binary number is laid out as text. -/
structure Style where
  /-- The most digits before the point in positional notation. -/
  wholeDigits : Int
  /-- The most zeros after the point in positional notation. -/
  fractionZeros : Int
  /-- Whether a positive power of ten carries a plus sign. -/
  plusSign : Bool

/-- A run of zeros. -/
def zeros (n : Int) : List Char := List.replicate n.toNat '0'

/-- The digits in positional notation if the exponent allows it, and with a power of ten after the
first digit otherwise. There is always a point or a power of ten. -/
def Style.layout (style : Style) (s : Scaled) : List Char :=
  let ds := digits s.digits
  let point := ds.length + s.exponent
  if 0 ≤ s.exponent ∧ point ≤ style.wholeDigits then ds ++ zeros s.exponent ++ ['.', '0']
  else if 0 < point ∧ point ≤ style.wholeDigits then
    ds.take point.toNat ++ '.' :: ds.drop point.toNat
  else if point ≤ 0 ∧ -style.fractionZeros ≤ point then '0' :: '.' :: zeros (-point) ++ ds
  else
    let power := point - 1
    let mark := if 0 ≤ power && style.plusSign then ['e', '+'] else ['e']
    ds.take 1 ++ (if ds.length = 1 then [] else '.' :: ds.drop 1) ++ mark ++ ofInt power

/-- A binary number as text. -/
def Style.render (style : Style) (x : Double) : List Char :=
  let sign := if x.negative then ['-'] else []
  if x.magnitude.mantissa = 0 then sign ++ ['0', '.', '0']
  else sign ++ style.layout x.magnitude.shortest

end CallRouting.Decimal
