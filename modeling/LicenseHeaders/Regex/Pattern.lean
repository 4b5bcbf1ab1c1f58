import LicenseHeaders.Text.Alphanumeric
import LicenseHeaders.Text.Blank
import LicenseHeaders.Text.CaseEquivalence
import LicenseHeaders.Text.DecimalDigit

/-!
# Patterns

The tree of a regular expression. Flags do not occur in it: each test of a character already
says how it treats case and which characters count as words, and each anchor says whether it
looks at lines. Characters are code points, since a pattern may name a code point that is no
character.
-/

set_option autoImplicit false
set_option relaxedAutoImplicit false

namespace LicenseHeaders.Regex

open Text

/-- How letters are compared: exactly, without regard to case in every script, or without regard
to case among the letters from A to Z. -/
inductive Folding where
  | exact
  | everyScript
  | basicLatin
deriving DecidableEq, Repr

/-- One member of a character class. -/
inductive ClassItem where
  /-- One code point. -/
  | code (code : Nat)
  /-- All code points between two, both included. -/
  | range (first last : Nat)
  /-- The decimal digits, or all else. -/
  | digit (member : Bool)
  /-- The blank characters, or all else. -/
  | blank (member : Bool)
  /-- The word characters, or all else. -/
  | word (member : Bool)
deriving DecidableEq, Repr

/-- A test of a single character. -/
inductive CharTest where
  /-- Any character; a line feed only if `lineFeed`. -/
  | any (lineFeed : Bool)
  /-- The members of a class, or all else if `negated`. With `basic` set, digits, blanks and
  words are those of the basic alphabet. -/
  | oneOf (folding : Folding) (basic negated : Bool) (items : List ClassItem)
deriving DecidableEq, Repr

/-- A condition on a place in the text. -/
inductive Anchor where
  /-- The start of the text, or of a line if `everyLine`. -/
  | start (everyLine : Bool)
  /-- The end of the text or the place before a final line feed; with `everyLine`, the end of
  any line. -/
  | finish (everyLine : Bool)
  /-- The very end of the text. -/
  | textEnd
  /-- A place with a word character on exactly one side. -/
  | wordEdge (basic : Bool)
  /-- Any place of a text with characters that is no edge of a word. -/
  | noWordEdge (basic : Bool)
deriving DecidableEq, Repr

/-- How often a repetition prefers to repeat: as often as possible, as seldom as possible, or as
often as possible without ever giving back. -/
inductive Greed where
  | eager
  | reluctant
  | possessive
deriving DecidableEq, Repr

/-- A regular expression. -/
inductive Pattern where
  /-- The empty text. -/
  | empty
  /-- One character. -/
  | one (test : CharTest)
  /-- A place. -/
  | anchor (condition : Anchor)
  /-- One pattern after another. -/
  | seq (first second : Pattern)
  /-- One pattern or, failing that, another. -/
  | alt (first second : Pattern)
  /-- A pattern whose text is kept under a number. -/
  | group (number : Nat) (body : Pattern)
  /-- A pattern that keeps its first way to match. -/
  | atomic (body : Pattern)
  /-- A pattern at least `least` times and at most `most` times. -/
  | repeated (greed : Greed) (least : Nat) (most : Option Nat) (body : Pattern)
  /-- The text kept under a number. -/
  | sameAs (folding : Folding) (number : Nat)
  /-- One of two patterns, by whether a text is kept under a number. -/
  | ifGroup (number : Nat) (present absent : Pattern)
  /-- A condition on the text that follows. -/
  | ahead (wanted : Bool) (body : Pattern)
  /-- A condition on the text that precedes, of the least and greatest width given. -/
  | behind (wanted : Bool) (least most : Nat) (body : Pattern)
deriving Repr

/-! ### Characters -/

/-- The lower-case letter among the letters from A to Z, and any other code point itself. -/
def lowerBasic (code : Nat) : Nat :=
  if 0x41 ≤ code ∧ code ≤ 0x5A then code + 0x20 else code

/-- The form under which a code point is compared. -/
def Folding.fold : Folding → Nat → Nat
  | .exact, code => code
  | .everyScript, code => lowerRuns.image code
  | .basicLatin, code => lowerBasic code

/-- Whether two code points are the same letter. -/
def Folding.same : Folding → Nat → Nat → Bool
  | .exact, expected, found => expected == found
  | .everyScript, expected, found => sameLetterCode expected found
  | .basicLatin, expected, found => lowerBasic expected == lowerBasic found

/-- The capitals that the runs map to a lower-case letter. -/
def capitalsOf (lower : Nat) : List Nat :=
  lowerRuns.filterMap fun (first, last, step, start) ↦
    if start ≤ lower ∧ lower - start ≤ last - first ∧ (lower - start) % step = 0 then
      some (first + (lower - start))
    else none

/-- The code points that are the same letter as the given one. -/
def lettersLike (folding : Folding) (code : Nat) : List Nat :=
  match folding with
  | .exact => [code]
  | .everyScript =>
    let lower := lowerRuns.image code
    (lower :: twinsOf lower).flatMap fun letter ↦ letter :: capitalsOf letter
  | .basicLatin =>
    let lower := lowerBasic code
    if 0x61 ≤ lower ∧ lower ≤ 0x7A then [lower, lower - 0x20] else [lower]

/-- Whether a range holds the same letter as the given code point. A range that leaves the basic
plane also holds a letter whose capital it holds. -/
def rangeHolds (folding : Folding) (first last code : Nat) : Bool :=
  (lettersLike folding code).any (fun letter ↦ decide (first ≤ letter) && decide (letter ≤ last)) ||
    (folding != .exact && decide (0xFFFF < last) &&
      (let capital := upperRuns.image (folding.fold code)
       decide (first ≤ capital) && decide (capital ≤ last)))

/-- Whether a code point is a decimal digit. -/
def isDigitCode (basic : Bool) (code : Nat) : Bool :=
  if basic then decide (0x30 ≤ code) && decide (code ≤ 0x39) else decimalDigitRanges.includes code

/-- Whether a code point is blank. -/
def isBlankCode (basic : Bool) (code : Nat) : Bool :=
  if basic then (decide (0x09 ≤ code) && decide (code ≤ 0x0D)) || code == 0x20
  else blankRanges.includes code

/-- Whether a code point belongs to a word. -/
def isWordCode (basic : Bool) (code : Nat) : Bool :=
  code == 0x5F ||
    (alphanumericRanges.includes code && (!basic || decide (code < 0x80)))

/-- Whether a class member accepts a code point. -/
def ClassItem.accepts (folding : Folding) (basic : Bool) (code : Nat) : ClassItem → Bool
  | .code expected => folding.same expected code
  | .range first last => rangeHolds folding first last code
  | .digit member => isDigitCode basic (folding.fold code) == member
  | .blank member => isBlankCode basic (folding.fold code) == member
  | .word member => isWordCode basic (folding.fold code) == member

/-- Whether a test accepts a character. -/
def CharTest.accepts (c : Char) : CharTest → Bool
  | .any lineFeed => lineFeed || c != '\n'
  | .oneOf folding basic negated items =>
    (items.any fun item ↦ item.accepts folding basic c.toNat) != negated

/-! ### Widths -/

/-- A bound that no number of repetitions reaches. -/
def repeatLimit : Nat := 4294967295

/-- The least and the greatest width of the texts that a pattern matches. -/
abbrev Width := Nat × Nat

/-- A width held below the bound on repetitions. -/
def cappedWidth (least most : Nat) : Width :=
  (min least (repeatLimit - 1), min most repeatLimit)

/-- The width of a pattern, given the widths of the groups it refers to. -/
def Pattern.width (groupWidth : Nat → Width) : Pattern → Width
  | .empty => (0, 0)
  | .one _ => (1, 1)
  | .anchor _ => (0, 0)
  | .seq first second =>
    let (firstLeast, firstMost) := first.width groupWidth
    let (secondLeast, secondMost) := second.width groupWidth
    cappedWidth (firstLeast + secondLeast) (firstMost + secondMost)
  | .alt first second =>
    let (firstLeast, firstMost) := first.width groupWidth
    let (secondLeast, secondMost) := second.width groupWidth
    cappedWidth (min firstLeast secondLeast) (max firstMost secondMost)
  | .group _ body => body.width groupWidth
  | .atomic body => body.width groupWidth
  | .repeated _ least most body =>
    let (bodyLeast, bodyMost) := body.width groupWidth
    cappedWidth (bodyLeast * least) (bodyMost * most.getD repeatLimit)
  | .sameAs _ number => groupWidth number
  | .ifGroup _ present absent =>
    let (presentLeast, presentMost) := present.width groupWidth
    let (absentLeast, absentMost) := absent.width groupWidth
    cappedWidth (min presentLeast absentLeast) (max presentMost absentMost)
  | .ahead .. => (0, 0)
  | .behind .. => (0, 0)

/-- Whether every condition on preceding text has one width. -/
def Pattern.looksBackFixed : Pattern → Bool
  | .seq first second | .alt first second => first.looksBackFixed && second.looksBackFixed
  | .group _ body | .atomic body | .repeated _ _ _ body | .ahead _ body => body.looksBackFixed
  | .ifGroup _ present absent => present.looksBackFixed && absent.looksBackFixed
  | .behind _ least most body => least == most && body.looksBackFixed
  | .empty | .one _ | .anchor _ | .sameAs .. => true

end LicenseHeaders.Regex
