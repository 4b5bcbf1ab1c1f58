import LicenseHeaders.Text.WholeNumber
import LicenseHeaders.Toml.Moment
import LicenseHeaders.Toml.Quotation
import LicenseHeaders.Toml.Value

/-!
# TOML numbers

Numbers are written in decimal, with an optional sign, a fraction and an exponent, or as
integers in base 16, 8 or 2. Single underscores may stand between digits. `number` reads the
longest number that the text starts with.
-/

set_option autoImplicit false
set_option relaxedAutoImplicit false

namespace LicenseHeaders.Toml

/-- Why a document is not read. -/
inductive Refusal where
  /-- The text is no TOML document. -/
  | malformed
  /-- An integer has more digits than are read. -/
  | numberTooLong (digits : Nat)
deriving DecidableEq, Repr, Inhabited

/-- The digits at the start of a text and what follows them; single underscores between digits
are dropped. -/
def digitsWith (accepts : Char → Bool) : List Char → List Char × List Char
  | [] => ([], [])
  | '_' :: c :: rest =>
    if accepts c then
      let (digits, rest) := digitsWith accepts rest
      (c :: digits, rest)
    else ([], '_' :: c :: rest)
  | c :: rest =>
    if accepts c then
      let (digits, rest) := digitsWith accepts rest
      (c :: digits, rest)
    else ([], c :: rest)

/-- One digit or more at the start of a text. -/
def someDigits (accepts : Char → Bool) : List Char → Option (List Char × List Char)
  | [] => none
  | c :: rest =>
    if accepts c then
      let (digits, rest) := digitsWith accepts rest
      some (c :: digits, rest)
    else none

/-- The number that digits of any base stand for. -/
def valueInBase (base : Nat) (digits : List Char) : Nat :=
  digits.foldl (fun value digit ↦ base * value + (hexValue? digit).getD 0) 0

/-- The base that a letter after a zero stands for, with its digits. -/
def base? : Char → Option (Nat × (Char → Bool))
  | 'x' => some (16, fun c ↦ (hexValue? c).isSome)
  | 'o' => some (8, fun c ↦ '0' ≤ c && c ≤ '7')
  | 'b' => some (2, fun c ↦ c == '0' || c == '1')
  | _ => none

/-- An integer in base 16, 8 or 2. -/
def basedInteger : List Char → Option (Nat × List Char)
  | '0' :: letter :: rest => do
    let (base, accepts) ← base? letter
    let (digits, rest) ← someDigits accepts rest
    some (valueInBase base digits, rest)
  | _ => none

/-- The sign in front of a number: whether it is negative, and what follows it. -/
def sign : List Char → Bool × List Char
  | '-' :: rest => (true, rest)
  | '+' :: rest => (false, rest)
  | text => (false, text)

/-- The digits of the whole part of a decimal number: a zero stands alone. -/
def wholePart : List Char → Option (List Char × List Char)
  | '0' :: rest => some (['0'], rest)
  | text => someDigits isDigit text

/-- The digits after the decimal point, if there is one. -/
def fraction : List Char → Option (List Char × List Char)
  | '.' :: rest => someDigits isDigit rest
  | _ => none

/-- The exponent of a number, if there is one. -/
def exponent : List Char → Option (Int × List Char)
  | c :: rest =>
    if c == 'e' || c == 'E' then
      let (negative, rest) := sign rest
      (someDigits isDigit rest).map fun (digits, rest) ↦
        let value : Int := valueInBase 10 digits
        (if negative then -value else value, rest)
    else none
  | [] => none

/-- A decimal number. -/
def decimalNumber (text : List Char) : Option (Except Refusal Value × List Char) := do
  let (negative, text) := sign text
  let (whole, text) ← wholePart text
  let afterWhole := fraction text
  let fractionDigits := (afterWhole.map (·.1)).getD []
  let text := (afterWhole.map (·.2)).getD text
  let afterFraction := exponent text
  let power := (afterFraction.map (·.1)).getD 0
  let text := (afterFraction.map (·.2)).getD text
  if afterWhole.isNone && afterFraction.isNone then
    if Text.maxDigits < whole.length then some (.error (.numberTooLong whole.length), text)
    else
      let value : Int := valueInBase 10 whole
      some (.ok (.integer (if negative then -value else value)), text)
  else
    let digits := whole ++ fractionDigits
    some (.ok (.float (Decimal.Double.ofDecimal negative (valueInBase 10 digits) digits.length
      (power - fractionDigits.length))), text)

/-- A number, or the name of an infinite or undefined one. -/
def number (text : List Char) : Option (Except Refusal Value × List Char) :=
  match basedInteger text with
  | some (value, rest) => some (.ok (.integer value), rest)
  | none =>
    match decimalNumber text with
    | some found => some found
    | none =>
      let (negative, unsigned) := sign text
      match unsigned with
      | 'i' :: 'n' :: 'f' :: rest => some (.ok (.float (.infinite negative)), rest)
      | 'n' :: 'a' :: 'n' :: rest => some (.ok (.float .undefined), rest)
      | _ => none

end LicenseHeaders.Toml
