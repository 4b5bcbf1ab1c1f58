import LicenseHeaders.Fault
import LicenseHeaders.Regex.Match
import LicenseHeaders.Regex.Parser
import LicenseHeaders.Text.Blank
import LicenseHeaders.Verdict

/-!
# Copyright notices

A notice is a copyright sign and, behind it, a date, an owner, or both in either order. The sign
is the letter c in brackets, the sign ©, or the word `copyright`, all without regard to case.
What is configured as start, stop and owner are pieces of pattern text; they are put into the
text of one or two patterns, and what stands behind the first sign of a line has to start with
one of those. Without an owner and a date any year of four digits will do.
-/

set_option autoImplicit false
set_option relaxedAutoImplicit false

namespace LicenseHeaders.Matcher

open Text Regex

variable [CharacterNames]

/-- What a copyright notice has to say. -/
structure Notice where
  /-- The first year, or the only one. -/
  start : Option String := none
  /-- The last year; without a first one it says nothing. -/
  stop : Option String := none
  /-- The owner. -/
  owner : Option String := none
deriving DecidableEq, Repr

namespace Notice

/-- A piece of pattern text without the blanks around it, or nothing. -/
def piece (text : Option String) : List Char :=
  trim (text.getD "").toList

/-- The pattern text of the date: empty without a first year. -/
def dateText (notice : Notice) : List Char :=
  let start := piece notice.start
  let stop := piece notice.stop
  if start.isEmpty then []
  else if stop.isEmpty then start
  else start ++ "\\s*-\\s*".toList ++ stop

/-- The pattern text of blanks and an optional second sign with blanks after it. -/
def leadText : List Char :=
  "\\s+((\\([Cc]\\)|©)\\s+)?".toList

/-- The pattern text of a year. -/
def yearText : List Char :=
  "[0-9]\x7b4\x7d".toList

/-- The pattern text of what separates a date and an owner. -/
def separatorText : List Char :=
  ",?\\s+".toList

/-- The texts of the patterns for what stands behind the sign. With an owner and a date there
are two, one for either order. -/
def patternTexts (notice : Notice) : List (List Char) :=
  let date := notice.dateText
  let owner := piece notice.owner
  if owner.isEmpty then
    [leadText ++ if date.isEmpty then yearText else date]
  else if date.isEmpty then [leadText ++ owner]
  else
    [leadText ++ date ++ separatorText ++ owner, leadText ++ owner ++ separatorText ++ date]

/-- The flags under which the patterns of a notice are read. -/
def flags : Flags :=
  ⟨true, false, false, false, false⟩

/-- The fault that a pattern text raises. The message shows the owner without the blanks around
it and the years as they were given. -/
def fault (notice : Notice) : PatternFault → Fault
  | .invalid =>
    .of (.copyrightPattern (some (String.ofList (piece notice.owner))) notice.start notice.stop)
      "" "copyright"
  | .countTooLarge => .crash .repetitionTooLarge
  | .countTooLong digits => .value (.numberTooLong digits)

/-- The patterns for what stands behind the sign. -/
def patterns (notice : Notice) : Except Fault (List Pattern) :=
  notice.patternTexts.mapM fun text ↦
    match Pattern.parse flags text with
    | .ok pattern => .ok pattern
    | .error cause => .error (notice.fault cause)

end Notice

/-! ### The sign -/

/-- What stands behind a copyright sign that starts the text. -/
def afterSignHere? (text : List Char) : Option (List Char) :=
  match afterWord? ['(', 'c', ')'] text with
  | some rest => some rest
  | none =>
    match text with
    | '©' :: rest => some rest
    | _ =>
      match afterWord? "copyright".toList text with
      | some rest =>
        match rest with
        | c :: _ => if isWordChar c then none else some rest
        | [] => some rest
      | none => none

/-- What stands behind the first copyright sign of a text. -/
def afterSign? : List Char → Option (List Char)
  | [] => none
  | c :: rest =>
    match afterSignHere? (c :: rest) with
    | some behind => some behind
    | none => afterSign? rest

/-- Whether a line holds a copyright notice that starts with one of the patterns. -/
def hasNotice (patterns : List Pattern) (line : List Char) : Bool :=
  match afterSign? line with
  | some behind => patterns.any fun pattern ↦ pattern.matchesStart behind
  | none => false

/-- The verdict on a copyright notice after one more line. -/
def stepNotice (patterns : List Pattern) (verdict : Verdict) (line : List Char) : Verdict :=
  match verdict with
  | .unknown => verdict.latch (hasNotice patterns line)
  | settled => settled

end LicenseHeaders.Matcher
