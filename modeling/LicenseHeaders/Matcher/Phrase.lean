import LicenseHeaders.Text.Alphanumeric
import LicenseHeaders.Text.LetterCase
import LicenseHeaders.Text.Occurrence

/-!
# Phrases

A phrase is looked for without regard to layout: of the phrase and of every line only letters
and digits count, in lower case, and the lines are read as one text. So a phrase may be wrapped
over several lines and decorated with comment signs. Of what was read before, only the end is
kept that could still be the start of the phrase: one character less than the phrase has.
-/

set_option autoImplicit false
set_option relaxedAutoImplicit false

namespace LicenseHeaders.Matcher

open Text

/-- What counts of a text: its letters and digits, in lower case. -/
def prune (text : List Char) : List Char :=
  lowercase (text.filter isAlphanumeric)

/-- The last characters of a text, at most the given number. -/
def lastChars (count : Nat) (text : List Char) : List Char :=
  text.drop (text.length - count)

/-- A phrase in search of itself. -/
structure Phrase where
  /-- What counts of the phrase. -/
  pruned : List Char
  /-- The end of what was read that could start the phrase. -/
  window : List Char
deriving DecidableEq, Repr

namespace Phrase

/-- A phrase before anything was read. -/
def ofText (text : String) : Phrase :=
  ⟨prune text.toList, []⟩

/-- Reads a line and says whether the phrase is now complete. -/
def read (phrase : Phrase) (line : List Char) : Bool × Phrase :=
  let text := phrase.window ++ prune line
  if occursIn phrase.pruned text then (true, { phrase with window := text })
  else (false, { phrase with window := lastChars (phrase.pruned.length - 1) text })

/-- Forgets what was read. -/
def forget (phrase : Phrase) : Phrase :=
  { phrase with window := [] }

end Phrase

end LicenseHeaders.Matcher
