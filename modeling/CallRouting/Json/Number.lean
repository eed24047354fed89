import CallRouting.Decimal.Shortest

/-!
# Numbers of JSON

A number is a whole number or a binary number of 64 bits. A literal without fraction and exponent is
a whole number if it lies between `-2 ^ 63` and `2 ^ 64 - 1`; every other literal is a binary
number, and so is `-0`.

A literal's binary number is computed in two roundings: its leading digits, as many as 64 bits hold,
are rounded to the format, and the result is multiplied or divided by a rounded power of ten. A
literal beyond the largest number of the format has no value.
-/

namespace CallRouting.Json

open Decimal (Magnitude Double)

/-- The value of a number. -/
inductive Number where
  /-- A whole number. -/
  | whole (n : Int)
  /-- A binary number. -/
  | binary (x : Double)
  deriving DecidableEq, Repr

/-- The parts of a number as it is written. -/
structure Literal where
  /-- Whether it starts with a minus sign. -/
  negative : Bool
  /-- The digits before the point; at least one. -/
  whole : List Char
  /-- The digits after the point, if there is one; then at least one. -/
  fraction : List Char
  /-- The sign and digits of the exponent, if there is one. -/
  exponent : Option (Bool × List Char)
  deriving DecidableEq, Repr

namespace Literal

/-- The greatest significand that 64 bits hold. -/
def significandBound : Nat := Nat.pow 2 64 - 1

/-- Reads digits into a significand for as long as 64 bits hold it; answers the significand and the
digits that were left over. -/
def fill (significand : Nat) : List Char → Nat × List Char
  | [] => (significand, [])
  | c :: cs =>
    let next := 10 * significand + Decimal.digitValue c
    if next ≤ significandBound then fill next cs else (significand, c :: cs)

/-- The greatest exponent that is told from infinity. -/
def exponentBound : Nat := Nat.pow 2 31 - 1

/-- The largest power of ten of the format. -/
def greatestPower : Int := 308

/-- A power of ten, rounded. -/
def powerOfTen (exponent : Int) : Option Magnitude := Magnitude.ofDecimal 1 exponent

/-- A significand of at most 64 bits times a power of ten, rounded once for the power and once for
the result. A negative power beyond the greatest is taken in two steps, and below that the result
is zero. -/
def timesPowerOfTen (x : Magnitude) (exponent : Int) : Option Magnitude :=
  if 0 ≤ exponent then
    if x.mantissa = 0 then some x
    else if exponent ≤ greatestPower then (powerOfTen exponent).bind x.mul else none
  else if -greatestPower ≤ exponent then (powerOfTen (-exponent)).bind x.div
  else if -2 * greatestPower ≤ exponent then
    ((powerOfTen greatestPower).bind x.div).bind fun y ↦
      (powerOfTen (-(exponent + greatestPower))).bind y.div
  else some Magnitude.zero

/-- The value of a significand and a power of ten. -/
def magnitude (significand : Nat) (exponent : Int) : Option Magnitude :=
  (Magnitude.nearest significand 1).bind fun x ↦ timesPowerOfTen x exponent

/-- The value of a literal; nothing if it is out of range. -/
def value (l : Literal) : Option Number :=
  let (whole, spilled) := fill 0 l.whole
  match l.fraction, l.exponent with
  | [], none =>
    if spilled = [] ∧ l.negative = false then some (.whole whole)
    else if spilled = [] ∧ 0 < whole ∧ whole ≤ Nat.pow 2 63 then some (.whole (-(whole : Int)))
    -- a whole number that no word of 64 bits holds, and a zero with a sign, are binary
    else (magnitude whole spilled.length).map fun x ↦ .binary ⟨l.negative, x⟩
  | fraction, exponent =>
    -- digits that did not fit count by their place only
    let (significand, unread) := fill whole fraction
    let shift : Int := spilled.length - (fraction.length - unread.length : Nat)
    match exponent with
    | none => (magnitude significand shift).map fun x ↦ .binary ⟨l.negative, x⟩
    | some (negative, ds) =>
      let power := Decimal.ofDigits ds
      if exponentBound < power then
        if significand ≠ 0 ∧ negative = false then none
        else some (.binary ⟨l.negative, Magnitude.zero⟩)
      else
        (magnitude significand (if negative then shift - power else shift + power)).map fun x ↦
          .binary ⟨l.negative, x⟩

end Literal

/-- Binary numbers have up to sixteen digits before the point and up to four zeros after it; a
positive power of ten carries its sign. -/
def binaryStyle : Decimal.Style := ⟨16, 4, true⟩

/-- A number as it is written. -/
def Number.render : Number → List Char
  | .whole n => Decimal.ofInt n
  | .binary x => binaryStyle.render x

end CallRouting.Json
