import LicenseHeaders.Text.CodeRanges

/-!
# Blank characters

The characters that separate words: the standard's white space together with the four
information separators U+001C to U+001F. Blank characters are what trimming takes from the ends
of a text, what decides whether a rule's text is a phrase, and what the class `\s` of a pattern
accepts. The zero-width space U+200B is not one of them.
-/

set_option autoImplicit false
set_option relaxedAutoImplicit false

namespace LicenseHeaders.Text

/-- The blank characters. -/
def blankRanges : CodeRanges :=
  [(0x9, 0xD), (0x1C, 0x20), (0x85, 0x85), (0xA0, 0xA0), (0x1680, 0x1680), (0x2000, 0x200A),
   (0x2028, 0x2029), (0x202F, 0x202F), (0x205F, 0x205F), (0x3000, 0x3000)]

/-- Whether a character is blank. -/
def isBlank (c : Char) : Bool :=
  blankRanges.includes c.toNat

theorem blankRanges_wellFormed : blankRanges.wellFormed = true := by decide

theorem blankRanges_count : blankRanges.count = 29 := by decide

/-! ### Trimming -/

/-- A text without the blank characters at its start. -/
def trimStart (text : List Char) : List Char :=
  text.dropWhile isBlank

/-- A text without the blank characters at its end. -/
def trimEnd (text : List Char) : List Char :=
  (text.reverse.dropWhile isBlank).reverse

/-- A text without the blank characters at its two ends. -/
def trim (text : List Char) : List Char :=
  trimEnd (trimStart text)

/-- A string without the blank characters at its two ends. -/
def trimmed (text : String) : String :=
  String.ofList (trim text.toList)

/-- Whether nothing remains of a string once it is trimmed. -/
def isAllBlank (text : String) : Bool :=
  text.toList.all isBlank

end LicenseHeaders.Text
