/-!
# Separated texts

Cutting a text at a separator. `pieces` cuts at every occurrence and keeps empty pieces, and
`afterLast` keeps what stands behind the last occurrence.
-/

set_option autoImplicit false
set_option relaxedAutoImplicit false

namespace LicenseHeaders.Text

/-- The pieces of a text between the occurrences of a separator, empty ones included. -/
def pieces (separator : Char) : List Char → List (List Char)
  | [] => [[]]
  | c :: rest =>
    if c = separator then [] :: pieces separator rest
    else
      match pieces separator rest with
      | [] => [[c]]
      | piece :: others => (c :: piece) :: others

/-- What stands behind the last occurrence of a separator, or the whole text if there is none. -/
def afterLast (separator : Char) (text : List Char) : List Char :=
  (text.reverse.takeWhile (· != separator)).reverse

/-- What stands in front of the last occurrence of a separator, or the whole text if there is
none. -/
def beforeLast (separator : Char) (text : List Char) : List Char :=
  if text.contains separator then
    ((text.reverse.dropWhile (· != separator)).drop 1).reverse
  else text

/-- What stands in front of the first occurrence of a separator, and what stands behind it. -/
def cutFirst (separator : Char) (text : List Char) : List Char × List Char :=
  (text.takeWhile (· != separator), (text.dropWhile (· != separator)).drop 1)

end LicenseHeaders.Text
