import LicenseHeaders.Matcher.Copyright
import LicenseHeaders.Matcher.Phrase
import LicenseHeaders.Matcher.Spdx

/-!
# Matchers

A matcher is read the lines of a header one by one and holds a verdict. A leaf looks for one
thing, and once it has found it reads no further. Conjunctions, disjunctions and negations
combine matchers; a conjunction reads a line to its members only up to the first that fails, a
disjunction only up to the first that holds. A reference holds a copy of another matcher, made
when the reference was made. A matcher that was declared under an identifier is marked as
`registered`: it is the one matcher of that name, wherever it is mentioned.

`Matcher.feed` reads one line, `Matcher.verdict` is the verdict so far, `Matcher.finish` says
that no line follows, and `Matcher.reset` forgets all lines. Reading a line and finishing return
the verdict together with the matcher afterwards.
-/

set_option autoImplicit false
set_option relaxedAutoImplicit false

namespace LicenseHeaders

open Text Regex

variable [CharacterNames]

/-- What a leaf looks for. -/
inductive Criterion where
  /-- A text, within one line and character by character. -/
  | literal (text : String)
  /-- A phrase, across lines and without regard to layout. -/
  | phrase (phrase : Matcher.Phrase)
  /-- A copyright notice, with the patterns it was made into. -/
  | notice (notice : Matcher.Notice) (patterns : List Pattern)
  /-- A license identifier, in lower case, in a tag. -/
  | identifier (key : List Char)
deriving Repr

namespace Criterion

/-- Reads a line and says whether it completes what is looked for. -/
def read (line : List Char) : Criterion → Bool × Criterion
  | literal text => (occursIn text.toList line, literal text)
  | phrase sought =>
    let (hit, sought) := sought.read line
    (hit, phrase sought)
  | notice sought patterns => (Matcher.hasNotice patterns line, notice sought patterns)
  | identifier key => ((Matcher.identifiersOf line).contains key, identifier key)

/-- Forgets the lines that were read. -/
def forget : Criterion → Criterion
  | phrase sought => phrase sought.forget
  | criterion => criterion

/-- The name of the class of leaves that look for such a thing. -/
def className : Criterion → String
  | literal _ => "SimpleTextMatcher"
  | phrase _ => "FullTextMatcher"
  | notice .. => "CopyrightMatcher"
  | identifier _ => "SpdxMatcher"

end Criterion

/-- A matcher with the verdict it has reached. -/
inductive Matcher where
  /-- Looks for one thing. -/
  | leaf (id : Option String) (criterion : Criterion) (verdict : Verdict)
  /-- Has a set verdict, and counts the lines and the resets. -/
  | probe (id : Option String) (verdict : Verdict) (fed resets : Nat)
  /-- Holds if every member does. -/
  | all (id : Option String) (members : List Matcher)
  /-- Holds if some member does. -/
  | any (id : Option String) (members : List Matcher)
  /-- Holds if its member fails. -/
  | negation (id : Option String) (member : Matcher)
  /-- Holds if its copy of the matcher of the given name does. -/
  | reference (id : Option String) (name : String) (copy : Matcher)
  /-- The one matcher declared under a name. -/
  | registered (name : String) (matcher : Matcher)
deriving Repr

namespace Matcher

/-- The identifier of a matcher. -/
def id? : Matcher → Option String
  | leaf id _ _ | probe id _ _ _ | all id _ | any id _ | negation id _ | reference id _ _ => id
  | registered _ matcher => matcher.id?

mutual

/-- The verdict so far. -/
def verdict : Matcher → Verdict
  | leaf _ _ verdict => verdict
  | probe _ verdict _ _ => verdict
  | all _ members => .all (verdicts members)
  | any _ members => .any (verdicts members)
  | negation _ member => member.verdict.negate
  | reference _ _ copy => copy.verdict
  | registered _ matcher => matcher.verdict

/-- The verdicts so far of several matchers. -/
def verdicts : List Matcher → List Verdict
  | [] => []
  | matcher :: rest => matcher.verdict :: verdicts rest

end

mutual

/-- Reads a line to a matcher. -/
def feed (line : List Char) : Matcher → Verdict × Matcher
  | leaf id criterion .unknown =>
    let (hit, criterion) := criterion.read line
    let verdict := Verdict.unknown.latch hit
    (verdict, leaf id criterion verdict)
  | leaf id criterion verdict => (verdict, leaf id criterion verdict)
  | probe id verdict fed resets => (verdict, probe id verdict (fed + 1) resets)
  | all id members =>
    let (stopped, members) := feedUntil .fails line members
    (if stopped then .fails else (all id members).verdict, all id members)
  | any id members =>
    let (stopped, members) := feedUntil .holds line members
    (if stopped then .holds else (any id members).verdict, any id members)
  | negation id member =>
    let (verdict, member) := member.feed line
    (verdict.negate, negation id member)
  | reference id name copy =>
    let (verdict, copy) := copy.feed line
    (verdict, reference id name copy)
  | registered name matcher =>
    let (verdict, matcher) := matcher.feed line
    (verdict, registered name matcher)

/-- Reads a line to one matcher after the other up to the first that returns the given verdict,
and says whether one did. -/
def feedUntil (stop : Verdict) (line : List Char) : List Matcher → Bool × List Matcher
  | [] => (false, [])
  | matcher :: rest =>
    let (verdict, matcher) := matcher.feed line
    if verdict = stop then (true, matcher :: rest)
    else
      let (stopped, rest) := feedUntil stop line rest
      (stopped, matcher :: rest)

end

mutual

/-- Tells a matcher that no line follows. -/
def finish : Matcher → Verdict × Matcher
  | leaf id criterion verdict => (verdict.settle, leaf id criterion verdict.settle)
  | probe id verdict fed resets => (verdict.settle, probe id verdict fed resets)
  | all id members =>
    let (verdicts, members) := finishEach members
    (.all verdicts, all id members)
  | any id members =>
    let (verdicts, members) := finishEach members
    (.any verdicts, any id members)
  | negation id member =>
    let (verdict, member) := member.finish
    (verdict.negate, negation id member)
  | reference id name copy =>
    let (verdict, copy) := copy.finish
    (verdict, reference id name copy)
  | registered name matcher =>
    let (verdict, matcher) := matcher.finish
    (verdict, registered name matcher)

/-- Tells several matchers that no line follows. -/
def finishEach : List Matcher → List Verdict × List Matcher
  | [] => ([], [])
  | matcher :: rest =>
    let (verdict, matcher) := matcher.finish
    let (verdicts, rest) := finishEach rest
    (verdict :: verdicts, matcher :: rest)

end

mutual

/-- Forgets the lines that were read. -/
def reset : Matcher → Matcher
  | leaf id criterion _ => leaf id criterion.forget .unknown
  | probe id verdict fed resets => probe id verdict fed (resets + 1)
  | all id members => all id (resetEach members)
  | any id members => any id (resetEach members)
  | negation id member => negation id member.reset
  | reference id name copy => reference id name copy.reset
  | registered name matcher => registered name matcher.reset

/-- Forgets the lines that were read to several matchers. -/
def resetEach : List Matcher → List Matcher
  | [] => []
  | matcher :: rest => matcher.reset :: resetEach rest

end

/-! ### Copies

A copy shares nothing with what it was copied from, not even within the references in it, so
nothing in it is the one matcher of a name any more. -/

mutual

/-- A matcher of its own that is like the given one. -/
def copied : Matcher → Matcher
  | leaf id criterion verdict => leaf id criterion verdict
  | probe id verdict fed resets => probe id verdict fed resets
  | all id members => all id (copiedEach members)
  | any id members => any id (copiedEach members)
  | negation id member => negation id member.copied
  | reference id name copy => reference id name copy.copied
  | registered _ matcher => matcher.copied

/-- Matchers of their own that are like the given ones. -/
def copiedEach : List Matcher → List Matcher
  | [] => []
  | matcher :: rest => matcher.copied :: copiedEach rest

end

/-- A matcher of its own that is like the given one and has read nothing. -/
def fresh (matcher : Matcher) : Matcher :=
  matcher.copied.reset

/-! ### The matchers of a name

A matcher with a name can be mentioned in several places and is the same in all of them. So
what happens to it in one place has to be seen in the others, a reference that holds it included.
A mark under a name of its own says of any matcher at all that it is one and the same. -/

mutual

/-- The registered matchers within a matcher, with their names. -/
def named : Matcher → List (String × Matcher)
  | leaf .. | probe .. => []
  | all _ members => namedEach members
  | any _ members => namedEach members
  | negation _ member => member.named
  | reference _ _ copy => copy.named
  | registered name matcher => (name, matcher) :: matcher.named

/-- The registered matchers within several matchers, with their names. -/
def namedEach : List Matcher → List (String × Matcher)
  | [] => []
  | matcher :: rest => matcher.named ++ namedEach rest

end

mutual

/-- A matcher in which the registered matchers are those of the given table, as far as it names
them. -/
def renewed (table : List (String × Matcher)) : Matcher → Matcher
  | leaf id criterion verdict => leaf id criterion verdict
  | probe id verdict fed resets => probe id verdict fed resets
  | all id members => all id (renewedEach table members)
  | any id members => any id (renewedEach table members)
  | negation id member => negation id (member.renewed table)
  | reference id name copy => reference id name (copy.renewed table)
  | registered name matcher =>
    match table.lookup name with
    | some current => registered name current
    | none => registered name (matcher.renewed table)

/-- Matchers in which the registered matchers are those of the given table. -/
def renewedEach (table : List (String × Matcher)) : List Matcher → List Matcher
  | [] => []
  | matcher :: rest => matcher.renewed table :: renewedEach table rest

end

/-! ### Description -/

/-- A combination in words. -/
def describeMembers (className : String) (id : Option String) (members : List String) : String :=
  className ++ "(id=" ++ quotedOption id ++ ", children=[" ++ commaSeparated members ++ "])"

mutual

/-- A matcher in words: its class, its identifier, and its verdict or its members. -/
def describe : Matcher → String
  | leaf id criterion verdict =>
    criterion.className ++ "(id=" ++ quotedOption id ++ ", state=" ++ verdict.word ++ ")"
  | probe _ verdict fed resets => s!"Fixed({verdict.word}, fed={fed}, resets={resets})"
  | all id members => describeMembers "AndMatcher" id (describeEach members)
  | any id members => describeMembers "OrMatcher" id (describeEach members)
  | negation id member => describeMembers "NotMatcher" id [member.describe]
  | reference _ name _ => "MatcherRef(refid=" ++ quoted name ++ ")"
  | registered _ matcher => matcher.describe

/-- Several matchers in words. -/
def describeEach : List Matcher → List String
  | [] => []
  | matcher :: rest => matcher.describe :: describeEach rest

end

/-! ### Making matchers -/

/-- An identifier, unless it is empty. -/
def identifier? : Option String → Option String
  | some id => if id.isEmpty then none else some id
  | none => none

/-- Looks for a text within one line. -/
def ofLiteral (text : String) (id : Option String) : Except Fault Matcher :=
  if text.isEmpty then .error (.value .emptyText)
  else .ok (.leaf (identifier? id) (.literal text) .unknown)

/-- Looks for a phrase across lines. -/
def ofPhrase (text : String) (id : Option String) : Except Fault Matcher :=
  let phrase := Phrase.ofText text
  if phrase.pruned.isEmpty then .error (.value (.nothingToMatch text))
  else .ok (.leaf (identifier? id) (.phrase phrase) .unknown)

/-- Looks for a text: as a phrase if it has a blank in it, and within one line otherwise. -/
def ofText (text : String) (id : Option String) : Except Fault Matcher :=
  if text.toList.any isBlank then ofPhrase text id else ofLiteral text id

/-- Looks for a copyright notice. -/
def ofNotice (notice : Notice) (id : Option String) : Except Fault Matcher := do
  let patterns ← notice.patterns
  return .leaf (identifier? id) (.notice notice patterns) .unknown

/-- Looks for a license identifier. -/
def ofIdentifier (name : String) (id : Option String) : Except Fault Matcher :=
  let name := trim name.toList
  if name.isEmpty then .error (.value .blankIdentifier)
  else .ok (.leaf (identifier? id) (.identifier (lowercase name)) .unknown)

/-- Holds if every one of the members does. -/
def ofAll (members : List Matcher) (id : Option String) : Except Fault Matcher :=
  if members.isEmpty then .error (.value (.noMembers "AndMatcher"))
  else .ok (.all (identifier? id) members)

/-- Holds if some of the members does. -/
def ofAny (members : List Matcher) (id : Option String) : Except Fault Matcher :=
  if members.isEmpty then .error (.value (.noMembers "OrMatcher"))
  else .ok (.any (identifier? id) members)

/-- Holds if the only member fails. -/
def ofNegation (members : List Matcher) (id : Option String) : Except Fault Matcher :=
  match members with
  | [] => .error (.value (.noMembers "NotMatcher"))
  | [member] => .ok (.negation (identifier? id) member)
  | members => .error (.value (.notOneMember members.length))

/-- Refers to a matcher by its name, with a copy of it as it is now. -/
def ofReference (name : String) (target : Matcher) (id : Option String) : Matcher :=
  .reference id name target.fresh

/-- Has a set verdict. -/
def ofProbe (verdict : Verdict) (id : Option String) : Matcher :=
  .probe id verdict 0 0

end Matcher

end LicenseHeaders
