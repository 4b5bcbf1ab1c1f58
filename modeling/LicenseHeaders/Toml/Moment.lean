/-!
# TOML dates and times

A moment is a date, a time of day, or a date and a time with an optional offset from universal
time. `moment` says where such a text ends. A date must exist in the calendar of the years 1 to
9999.
-/

set_option autoImplicit false
set_option relaxedAutoImplicit false

namespace LicenseHeaders.Toml

/-- Whether a character is one of the ten digits. -/
def isDigit (c : Char) : Bool :=
  '0' ≤ c && c ≤ '9'

/-- The value of a number of two digits that lies within bounds, and what follows it. -/
def twoDigits (least greatest : Nat) : List Char → Option (Nat × List Char)
  | tens :: ones :: rest =>
    let value := 10 * (tens.toNat - '0'.toNat) + (ones.toNat - '0'.toNat)
    if isDigit tens && isDigit ones && decide (least ≤ value) && decide (value ≤ greatest) then
      some (value, rest)
    else none
  | _ => none

/-- What follows a character that must come next. -/
def skipChar (expected : Char) : List Char → Option (List Char)
  | c :: rest => if c == expected then some rest else none
  | [] => none

/-- What follows a fraction of a second, if there is one. -/
def afterFraction : List Char → List Char
  | '.' :: c :: rest => if isDigit c then rest.dropWhile isDigit else '.' :: c :: rest
  | text => text

/-- What follows a time of day. -/
def afterTime (text : List Char) : Option (List Char) := do
  let (_, text) ← twoDigits 0 23 text
  let text ← skipChar ':' text
  let (_, text) ← twoDigits 0 59 text
  let text ← skipChar ':' text
  let (_, text) ← twoDigits 0 59 text
  some (afterFraction text)

/-- What follows an offset from universal time, if there is one. -/
def afterOffset : List Char → List Char
  | [] => []
  | c :: rest =>
    if c == 'Z' || c == 'z' then rest
    else if c == '+' || c == '-' then
      let offset := do
        let (_, text) ← twoDigits 0 23 rest
        let text ← skipChar ':' text
        let (_, text) ← twoDigits 0 59 text
        some text
      offset.getD (c :: rest)
    else c :: rest

/-- The number of days of a month. -/
def daysOfMonth (year month : Nat) : Nat :=
  if month == 2 then
    if year % 4 == 0 && (year % 100 != 0 || year % 400 == 0) then 29 else 28
  else if month == 4 || month == 6 || month == 9 || month == 11 then 30
  else 31

/-- Whether a date exists, and what follows it. -/
def date (text : List Char) : Option (Bool × List Char) := do
  let (century, text) ← twoDigits 0 99 text
  let (years, text) ← twoDigits 0 99 text
  let text ← skipChar '-' text
  let (month, text) ← twoDigits 1 12 text
  let text ← skipChar '-' text
  let (day, text) ← twoDigits 1 31 text
  let year := 100 * century + years
  some (year != 0 && day ≤ daysOfMonth year month, text)

/-- What follows the time that stands after a date, if there is one. -/
def afterTimeOfDate : List Char → List Char
  | [] => []
  | c :: rest =>
    if c == 'T' || c == 't' || c == ' ' then
      match afterTime rest with
      | some text => afterOffset text
      | none => c :: rest
    else c :: rest

/-- Whether a moment exists, and what follows it. -/
def moment (text : List Char) : Option (Bool × List Char) :=
  match date text with
  | some (isReal, rest) => some (isReal, afterTimeOfDate rest)
  | none => (afterTime text).map fun rest ↦ (true, rest)

end LicenseHeaders.Toml
