import LicenseHeaders.Text.Printable

/-!
# Quoted text

How messages quote a text. The quote is a single one, unless the text holds a single quote and
no double quote, in which case it is a double one. The quote itself and the backslash stand
behind a backslash; line feed, carriage return and tab have letters of their own; any other
character that does not show as itself is written with the fewest of two, four or eight
hexadecimal digits.
-/

set_option autoImplicit false
set_option relaxedAutoImplicit false

namespace LicenseHeaders.Text

/-- The hexadecimal digit of a value below sixteen, in lower case. -/
def hexDigit (value : Nat) : Char :=
  Char.ofNat (if value < 10 then 0x30 + value else 0x57 + value)

/-- The given number of hexadecimal digits of a value, most significant first. -/
def hexDigits : Nat → Nat → List Char
  | 0, _ => []
  | places + 1, value => hexDigits places (value / 16) ++ [hexDigit (value % 16)]

/-- A character by its code, with two, four or eight digits. -/
def codeEscape (code : Nat) : List Char :=
  if code < 0x100 then '\\' :: 'x' :: hexDigits 2 code
  else if code < 0x10000 then '\\' :: 'u' :: hexDigits 4 code
  else '\\' :: 'U' :: hexDigits 8 code

/-- The quote that a text is put in. -/
def quoteFor (text : List Char) : Char :=
  if text.contains '\'' && !text.contains '"' then '"' else '\''

/-- How a character is written between the given quotes. -/
def quotedChar (quote c : Char) : List Char :=
  if c = quote ∨ c = '\\' then ['\\', c]
  else if c = '\n' then ['\\', 'n']
  else if c = '\r' then ['\\', 'r']
  else if c = '\t' then ['\\', 't']
  else if isPrintable c then [c]
  else codeEscape c.toNat

/-- A text in quotes. -/
def quoteChars (text : List Char) : List Char :=
  let quote := quoteFor text
  quote :: text.flatMap (quotedChar quote) ++ [quote]

/-- A string in quotes. -/
def quoted (text : String) : String :=
  String.ofList (quoteChars text.toList)

/-- A string in quotes, or the word that stands for an absent one. -/
def quotedOption : Option String → String
  | none => "None"
  | some text => quoted text

end LicenseHeaders.Text
