import LicenseHeaders.Text.Blank
import LicenseHeaders.Text.DecimalDigit

/-!
# Whole numbers

Reading a whole number from a text that a person typed: blanks around it are ignored, a sign
may stand in front, the digits may be those of any script, and single underscores may separate
digits. A number of more than 4300 digits is refused.
-/

set_option autoImplicit false
set_option relaxedAutoImplicit false

namespace LicenseHeaders.Text

/-- The greatest number of decimal digits that a number may be read from or written with. -/
def maxDigits : Nat := 4300

/-- The blanks that may surround a number; the information separators may not. -/
def isBlankAroundNumber (c : Char) : Bool :=
  isBlank c && !(0x1C ≤ c.toNat && c.toNat ≤ 0x1F)

/-- The digits of a number, least significant first, after the digits `read`. An underscore
stands only between two digits. -/
def digitsAfter (read : List Nat) : List Char → Option (List Nat)
  | [] => some read
  | '_' :: c :: rest =>
    match decimalValue? c with
    | some digit => digitsAfter (digit :: read) rest
    | none => none
  | c :: rest =>
    match decimalValue? c with
    | some digit => digitsAfter (digit :: read) rest
    | none => none

/-- The digits of an unsigned number, least significant first. -/
def numberDigits? : List Char → Option (List Nat)
  | [] => none
  | c :: rest =>
    match decimalValue? c with
    | some digit => digitsAfter [digit] rest
    | none => none

/-- The number with the given decimal digits, least significant first. -/
def ofDigits (digits : List Nat) : Nat :=
  digits.foldr (fun digit value ↦ digit + 10 * value) 0

/-- The value of an unsigned number. -/
def natural? (text : List Char) : Option Nat :=
  match numberDigits? text with
  | some digits => if digits.length ≤ maxDigits then some (ofDigits digits) else none
  | none => none

/-- The value of a whole number with an optional sign and blanks around it. -/
def wholeNumber? (text : List Char) : Option Int :=
  let core := ((text.dropWhile isBlankAroundNumber).reverse.dropWhile
    isBlankAroundNumber).reverse
  match core with
  | '-' :: digits => (natural? digits).map fun value ↦ -(value : Int)
  | '+' :: digits => (natural? digits).map Int.ofNat
  | digits => (natural? digits).map Int.ofNat

end LicenseHeaders.Text
