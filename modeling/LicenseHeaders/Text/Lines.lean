/-!
# Lines

Two ways to cut a text into lines. `splitLines` cuts a text held in memory at every character
that ends a line in some convention, form feeds and information separators among them.
`fileLines` reads a file: only line feed, carriage return and the pair of them end a line there.
Neither keeps the line ends, and a line end at the very end of the text starts no further line.
-/

set_option autoImplicit false
set_option relaxedAutoImplicit false

namespace LicenseHeaders.Text

/-- The characters that end a line of a text held in memory. -/
def isLineEnd (c : Char) : Bool :=
  [0x0A, 0x0B, 0x0C, 0x0D, 0x1C, 0x1D, 0x1E, 0x85, 0x2028, 0x2029].contains c.toNat

/-- The characters that end a line of a file. -/
def isFileLineEnd (c : Char) : Bool :=
  c == '\n' || c == '\r'

/-- Cuts a text into lines at the characters that `ends` accepts, taking a carriage return and
the line feed after it as one line end. The line read so far is `line`, last character first. -/
def cutLines (ends : Char → Bool) (line : List Char) : List Char → List (List Char)
  | [] => if line.isEmpty then [] else [line.reverse]
  | '\r' :: '\n' :: rest =>
    if ends '\r' then line.reverse :: cutLines ends [] rest
    else cutLines ends ('\n' :: '\r' :: line) rest
  | c :: rest =>
    if ends c then line.reverse :: cutLines ends [] rest
    else cutLines ends (c :: line) rest

/-- The lines of a text held in memory. -/
def splitLines (text : List Char) : List (List Char) :=
  cutLines isLineEnd [] text

/-- The lines of a file's text. -/
def fileLines (text : List Char) : List (List Char) :=
  cutLines isFileLineEnd [] text

/-- A line without the carriage returns and line feeds at its end. -/
def chomp (line : List Char) : List Char :=
  (line.reverse.dropWhile isFileLineEnd).reverse

end LicenseHeaders.Text
