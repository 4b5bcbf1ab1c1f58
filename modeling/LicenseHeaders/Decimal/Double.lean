/-!
# Numbers of 53 significant bits

A `Double` is a number with 53 significant bits and a bounded exponent, as floating-point
arithmetic holds it: a sign, a significand and a power of two, or one of the values that are no
number. `Double.ofDecimal` is the nearest such number to a decimal one. All arithmetic is exact,
on natural numbers.
-/

set_option autoImplicit false
set_option relaxedAutoImplicit false

namespace LicenseHeaders.Decimal

/-- A number of 53 significant bits. -/
inductive Double where
  /-- The number `significand * 2 ^ exponent` with its sign. -/
  | finite (negative : Bool) (significand : Nat) (exponent : Int)
  /-- A number beyond the greatest finite one. -/
  | infinite (negative : Bool)
  /-- No number. -/
  | undefined
deriving DecidableEq, Repr, Inhabited

/-- The exponent of the smallest positive number. -/
def leastExponent : Int := -1074

/-- The exponent of the greatest finite numbers. -/
def greatestExponent : Int := 971

/-- The number of significant bits. -/
def significantBits : Nat := 53

/-- The quotient of two numbers, rounded to the nearest whole number; a half goes to the even
neighbour. -/
def roundQuotient (numerator denominator : Nat) : Nat :=
  let quotient := numerator / denominator
  let twice := 2 * (numerator % denominator)
  if twice < denominator || (twice == denominator && quotient % 2 == 0) then quotient
  else quotient + 1

/-- The fraction `numerator / denominator` divided by `base ^ exponent`. -/
def dividedByPower (base : Nat) (exponent : Int) (numerator denominator : Nat) : Nat × Nat :=
  (numerator * Nat.pow base (-exponent).toNat, denominator * Nat.pow base exponent.toNat)

/-- The greatest power of two that is not above a positive fraction. -/
def floorLog2 (numerator denominator : Nat) : Int :=
  let guess : Int := (numerator.log2 : Int) - denominator.log2
  let (scaled, unit) := dividedByPower 2 guess numerator denominator
  if unit ≤ scaled then guess else guess - 1

namespace Double

/-- The nearest number to a positive fraction. -/
def ofFraction (negative : Bool) (numerator denominator : Nat) : Double :=
  let exponent := max leastExponent (floorLog2 numerator denominator - (significantBits - 1))
  let (scaled, unit) := dividedByPower 2 exponent numerator denominator
  let rounded := roundQuotient scaled unit
  let (significand, exponent) :=
    if rounded = Nat.pow 2 significantBits then (Nat.pow 2 (significantBits - 1), exponent + 1)
    else (rounded, exponent)
  if greatestExponent < exponent then infinite negative
  else finite negative significand exponent

/-- The nearest number to `digits * 10 ^ exponent`, where `digits` is written with `length`
digits. Numbers far out of range are settled by their length alone. -/
def ofDecimal (negative : Bool) (digits length : Nat) (exponent : Int) : Double :=
  if digits = 0 || exponent + length < -400 then finite negative 0 leastExponent
  else if 400 < exponent then infinite negative
  else
    let (numerator, denominator) := dividedByPower 10 (-exponent) digits 1
    ofFraction negative numerator denominator

end Double

end LicenseHeaders.Decimal
