import LicenseHeaders.Decimal.Double

/-!
# The shortest decimal text

A number is written with the fewest digits that read back as the same number. `readsBack` says
which decimal numbers do: those in the interval of reals that round to it. `shortestDigits`
tries one digit, two digits, up to 17, and for each the two neighbours of the number on that
decimal grid; the first grid with a hit wins, and of two hits the nearer. A `Layout` says where
positional notation ends.
-/

set_option autoImplicit false
set_option relaxedAutoImplicit false

namespace LicenseHeaders.Decimal

/-- The most digits that are ever needed. -/
def mostDigits : Nat := 17

/-- Whether `significand * 2 ^ exponent` is at most `digits * 10 ^ power`. -/
def atMostDecimal (significand : Nat) (exponent : Int) (digits : Nat) (power : Int) : Bool :=
  significand * Nat.pow 2 exponent.toNat * Nat.pow 10 (-power).toNat ≤
    digits * Nat.pow 10 power.toNat * Nat.pow 2 (-exponent).toNat

/-- Whether `digits * 10 ^ power` is at most `significand * 2 ^ exponent`. -/
def decimalAtMost (significand : Nat) (exponent : Int) (digits : Nat) (power : Int) : Bool :=
  digits * Nat.pow 10 power.toNat * Nat.pow 2 (-exponent).toNat ≤
    significand * Nat.pow 2 exponent.toNat * Nat.pow 10 (-power).toNat

/-- Whether the decimal number `digits * 10 ^ power` rounds to `significand * 2 ^ exponent`. The
gap to the number below is halved at a power of two, and the ends of the interval belong to it
where the significand is even. -/
def readsBack (significand : Nat) (exponent : Int) (digits : Nat) (power : Int) : Bool :=
  let gapBelow :=
    if significand = Nat.pow 2 (significantBits - 1) && leastExponent < exponent then 1 else 2
  let low := 4 * significand - gapBelow
  let high := 4 * significand + 2
  let quarter := exponent - 2
  if significand % 2 = 0 then
    atMostDecimal low quarter digits power && decimalAtMost high quarter digits power
  else !decimalAtMost low quarter digits power && !atMostDecimal high quarter digits power

/-- The whole part of `significand * 2 ^ exponent / 10 ^ power`. -/
def floorOnGrid (significand : Nat) (exponent power : Int) : Nat :=
  significand * Nat.pow 2 exponent.toNat * Nat.pow 10 (-power).toNat /
    (Nat.pow 2 (-exponent).toNat * Nat.pow 10 power.toNat)

/-- The number of digits in front of the decimal point of a positive number; it is zero or less
for a number below one, by the zeros that follow the point. -/
def integralDigits (significand : Nat) (exponent : Int) : Int :=
  let guess := (exponent + significand.log2) * 30103 / 100000
  let above (power : Int) : Bool := !decimalAtMost significand exponent 1 power
  if above (guess - 1) then guess - 1
  else if above guess then guess
  else if above (guess + 1) then guess + 1
  else guess + 2

/-- The neighbour of a number on the grid of `10 ^ power` that reads back, the nearer of two. -/
def onGrid? (significand : Nat) (exponent power : Int) : Option Nat :=
  let below := floorOnGrid significand exponent power
  match readsBack significand exponent below power,
      readsBack significand exponent (below + 1) power with
  | true, false => some below
  | false, true => some (below + 1)
  | false, false => none
  | true, true =>
    let middle := 2 * below + 1
    let nearerBelow := !decimalAtMost (2 * significand) exponent middle power
    let nearerAbove := !atMostDecimal (2 * significand) exponent middle power
    if nearerBelow then some below
    else if nearerAbove then some (below + 1)
    else some (if below % 2 = 0 then below else below + 1)

/-- The digits of the shortest decimal number that reads back and the power of ten of the last
of them, for a positive number. -/
def shortestDigits (significand : Nat) (exponent : Int) : Nat × Int :=
  let integral := integralDigits significand exponent
  let found := (List.range mostDigits).findSome? fun count ↦
    let power := integral - (count + 1 : Nat)
    (onGrid? significand exponent power).map fun digits ↦ (digits, power)
  found.getD (0, 0)

/-- The digits of a number without the zeros at its end. -/
def significantText (digits : Nat) : List Char :=
  ((toString digits).toList.reverse.dropWhile (· == '0')).reverse

/-- Which numbers are written positionally: those whose exponent is at least `least` and below
`bound`. Other numbers have an exponent of at least `exponentDigits` digits. -/
structure Layout where
  least : Int
  bound : Int
  exponentDigits : Nat
deriving DecidableEq, Repr

namespace Layout

/-- An exponent with its sign. -/
def exponentText (layout : Layout) (exponent : Int) : String :=
  let digits := toString exponent.natAbs
  let zeros := String.ofList (List.replicate (layout.exponentDigits - digits.length) '0')
  (if exponent < 0 then "e-" else "e+") ++ zeros ++ digits

/-- The text of a number with the given significant digits whose decimal point stands after the
first `point` of them. -/
def digitsText (layout : Layout) (digits : List Char) (point : Int) : String :=
  let exponent := point - 1
  if layout.least ≤ exponent && exponent < layout.bound then
    if point ≤ 0 then
      "0." ++ String.ofList (List.replicate (-point).toNat '0' ++ digits)
    else
      let whole := digits.take point.toNat
      let zeros := List.replicate (point.toNat - whole.length) '0'
      let fraction := digits.drop point.toNat
      String.ofList (whole ++ zeros) ++ "." ++
        (if fraction.isEmpty then "0" else String.ofList fraction)
  else
    String.ofList (digits.take 1) ++
      (if digits.length ≤ 1 then "" else "." ++ String.ofList (digits.drop 1)) ++
      layout.exponentText exponent

/-- The text of a number. -/
def text (layout : Layout) : Double → String
  | .undefined => "nan"
  | .infinite negative => if negative then "-inf" else "inf"
  | .finite negative significand exponent =>
    let magnitude :=
      if significand = 0 then layout.digitsText ['0'] 1
      else
        let (digits, power) := shortestDigits significand exponent
        layout.digitsText (significantText digits) (power + (toString digits).length)
    if negative then "-" ++ magnitude else magnitude

end Layout

end LicenseHeaders.Decimal
