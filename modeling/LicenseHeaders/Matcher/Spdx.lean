import LicenseHeaders.Text.Blank
import LicenseHeaders.Text.CaseEquivalence

/-!
# License identifier tags

A line may name its licenses with a tag: `SPDX-License-Identifier:` and a license expression up
to the end of the line or the end of the comment. `identifiersOf` gives the identifiers that the
expression of a line mentions, in lower case, without the operators; a plus sign behind an
identifier and brackets are no part of one.
-/

set_option autoImplicit false
set_option relaxedAutoImplicit false

namespace LicenseHeaders.Matcher

open Text

/-- The tag that introduces a license expression. -/
def spdxTag : List Char :=
  "SPDX-License-Identifier:".toList

/-- What stands behind the first tag of a text, without the blanks before it. -/
def afterTag? : List Char → Option (List Char)
  | [] => none
  | c :: rest =>
    match afterWord? spdxTag (c :: rest) with
    | some behind => some (trimStart behind)
    | none => afterTag? rest

/-- A text up to the first occurrence of a piece, or all of it. -/
def upToPiece (piece : List Char) : List Char → List Char
  | [] => []
  | c :: rest =>
    if piece.isPrefixOf (c :: rest) then [] else c :: upToPiece piece rest

/-- The signs that end a comment on the line of the tag, in the order in which they are looked
for. -/
def commentEnds : List (List Char) :=
  ["*/".toList, "-->".toList, "--%>".toList, "%>".toList, ['#', '\x7d']]

/-- The license expression of a line with a tag, up to the end of the comment. -/
def expression? (line : List Char) : Option (List Char) :=
  (afterTag? line).map fun behind ↦
    commentEnds.foldl (fun text piece ↦ upToPiece piece text) (behind.takeWhile (· != '\n'))

/-- Whether a character is part of a license identifier. -/
def isIdentifierChar (c : Char) : Bool :=
  c.isAlphanum || c == '.' || c == '-' || c == ':'

/-- The longest runs of identifier characters, after the run `word` read so far, last character
first. -/
def wordsAfter (word : List Char) : List Char → List (List Char)
  | [] => if word.isEmpty then [] else [word.reverse]
  | c :: rest =>
    if isIdentifierChar c then wordsAfter (c :: word) rest
    else if word.isEmpty then wordsAfter [] rest
    else word.reverse :: wordsAfter [] rest

/-- The words that join identifiers. -/
def operators : List (List Char) :=
  ["and".toList, "or".toList, "with".toList]

/-- The identifiers that a license expression mentions, in lower case. -/
def expressionIdentifiers (expression : List Char) : List (List Char) :=
  ((wordsAfter [] expression).map fun word ↦ word.map Char.toLower).filter
    fun word ↦ !operators.contains word

/-- The identifiers that the tag of a line names. -/
def identifiersOf (line : List Char) : List (List Char) :=
  match expression? line with
  | some expression => expressionIdentifiers expression
  | none => []

end LicenseHeaders.Matcher
