import LicenseHeaders.Regex.Pattern

/-!
# Matching

A pattern is matched by trying its ways in order of preference and going back where what comes
after does not match. `Pattern.run` takes what comes after as a function: it hands each place
that the pattern can reach to that function, in order, until one succeeds. A repetition stops
once a round beyond the required ones has read nothing, so the number of further rounds is at
most one more than the number of characters left, and no search runs forever.
-/

set_option autoImplicit false
set_option relaxedAutoImplicit false

namespace LicenseHeaders.Regex

/-- A place in the text, with what was kept on the way to it. -/
structure Place where
  /-- The characters before the place, nearest first. -/
  before : List Char
  /-- The characters after the place. -/
  rest : List Char
  /-- Where each group last began, latest first. -/
  starts : List (Nat × Nat)
  /-- Where each group last ended, latest first. -/
  ends : List (Nat × Nat)
deriving DecidableEq, Repr

namespace Place

/-- The first place of a text. -/
def first (text : List Char) : Place :=
  ⟨[], text, [], []⟩

/-- How many characters stand before the place. -/
def offset (place : Place) : Nat :=
  place.before.length

/-- The text kept under a number. A group that began anew after it last ended keeps nothing,
unless it began at the very place where it ended. -/
def kept? (place : Place) (number : Nat) : Option (List Char) :=
  match place.starts.lookup number, place.ends.lookup number with
  | some start, some finish =>
    if start ≤ finish then
      some (((place.before.reverse ++ place.rest).drop start).take (finish - start))
    else none
  | _, _ => none

/-- Marks the start of a group. -/
def opened (number : Nat) (place : Place) : Place :=
  { place with starts := (number, place.offset) :: place.starts }

/-- Marks the end of a group. -/
def closed (number : Nat) (place : Place) : Place :=
  { place with ends := (number, place.offset) :: place.ends }

/-- The place with what another place has kept. -/
def keeping (place other : Place) : Place :=
  { place with starts := other.starts, ends := other.ends }

/-- The place a number of characters back, if there are so many. -/
def back? : Nat → Place → Option Place
  | 0, place => some place
  | count + 1, place =>
    match place.before with
    | c :: before => back? count { place with before := before, rest := c :: place.rest }
    | [] => none

/-- The place after reading the given text, compared letter by letter. -/
def after? (folding : Folding) : List Char → Place → Option Place
  | [], place => some place
  | expected :: text, place =>
    match place.rest with
    | found :: rest =>
      if folding.fold expected.toNat = folding.fold found.toNat then
        after? folding text { place with before := found :: place.before, rest := rest }
      else none
    | [] => none

/-- Whether the character before the place belongs to a word. -/
def wordBefore (basic : Bool) (place : Place) : Bool :=
  match place.before with
  | c :: _ => isWordCode basic c.toNat
  | [] => false

/-- Whether the character after the place belongs to a word. -/
def wordAfter (basic : Bool) (place : Place) : Bool :=
  match place.rest with
  | c :: _ => isWordCode basic c.toNat
  | [] => false

/-- Whether the text has no characters at all. -/
def isBare (place : Place) : Bool :=
  place.before.isEmpty && place.rest.isEmpty

end Place

/-- Whether an anchor holds at a place. In a text without characters no place is an edge of a
word, and none is the contrary either. -/
def Anchor.holdsAt (place : Place) : Anchor → Bool
  | .start everyLine =>
    place.before.isEmpty || (everyLine && place.before.head? == some '\n')
  | .finish everyLine =>
    place.rest.isEmpty || place.rest == ['\n'] || (everyLine && place.rest.head? == some '\n')
  | .textEnd => place.rest.isEmpty
  | .wordEdge basic =>
    !place.isBare && place.wordBefore basic != place.wordAfter basic
  | .noWordEdge basic =>
    !place.isBare && place.wordBefore basic == place.wordAfter basic

/-- What is to be matched after a pattern. -/
abbrev Continuation := Place → Option Place

/-- A search from a place, with what is to be matched after it. -/
abbrev Search := Place → Continuation → Option Place

/-- The first of two attempts that succeeds. -/
def orElse (attempt : Option Place) (other : Unit → Option Place) : Option Place :=
  match attempt with
  | some place => some place
  | none => other ()

/-- A given number of rounds. -/
def rounds (round : Search) : Nat → Search
  | 0, place, next => next place
  | count + 1, place, next => round place fun reached ↦ rounds round count reached next

/-- Up to a number of further rounds, as many as possible. -/
def eagerly (round : Search) : Nat → Search
  | 0, place, next => next place
  | count + 1, place, next =>
    orElse
      (round place fun reached ↦
        if reached.offset = place.offset then next reached else eagerly round count reached next)
      fun _ ↦ next place

/-- Up to a number of further rounds, as few as possible. -/
def reluctantly (round : Search) : Nat → Search
  | 0, place, next => next place
  | count + 1, place, next =>
    orElse (next place) fun _ ↦
      round place fun reached ↦
        if reached.offset = place.offset then next reached
        else reluctantly round count reached next

/-- The place after a given number of rounds, each matched in its first way. -/
def roundsOnce (round : Search) : Nat → Place → Option Place
  | 0, place => some place
  | count + 1, place =>
    match round place some with
    | some reached => roundsOnce round count reached
    | none => none

/-- The place after as many rounds as possible, each matched in its first way. -/
def possessively (round : Search) : Nat → Place → Place
  | 0, place => place
  | count + 1, place =>
    match round place some with
    | some reached =>
      if reached.offset = place.offset then reached else possessively round count reached
    | none => place

/-- How many rounds beyond the required ones can make a difference. -/
def furtherRounds (least : Nat) (most : Option Nat) (place : Place) : Nat :=
  match most with
  | none => place.rest.length + 1
  | some most => min (most - least) (place.rest.length + 1)

/-- Matches a pattern at a place, followed by what is to be matched after it. -/
def Pattern.run : Pattern → Search
  | .empty, place, next => next place
  | .one test, place, next =>
    match place.rest with
    | c :: rest =>
      if test.accepts c then next { place with before := c :: place.before, rest := rest }
      else none
    | [] => none
  | .anchor condition, place, next => if condition.holdsAt place then next place else none
  | .seq first second, place, next => first.run place fun reached ↦ second.run reached next
  | .alt first second, place, next =>
    orElse (first.run place next) fun _ ↦ second.run place next
  | .group number body, place, next =>
    body.run (place.opened number) fun reached ↦ next (reached.closed number)
  | .atomic body, place, next =>
    match body.run place some with
    | some reached => next reached
    | none => none
  | .repeated .eager least most body, place, next =>
    rounds body.run least place fun reached ↦
      eagerly body.run (furtherRounds least most reached) reached next
  | .repeated .reluctant least most body, place, next =>
    rounds body.run least place fun reached ↦
      reluctantly body.run (furtherRounds least most reached) reached next
  | .repeated .possessive least most body, place, next =>
    match roundsOnce body.run least place with
    | some reached => next (possessively body.run (furtherRounds least most reached) reached)
    | none => none
  | .sameAs folding number, place, next =>
    match place.kept? number with
    | some text =>
      match place.after? folding text with
      | some reached => next reached
      | none => none
    | none => none
  | .ifGroup number present absent, place, next =>
    if (place.kept? number).isSome then present.run place next else absent.run place next
  | .ahead wanted body, place, next =>
    match body.run place some with
    | some reached => if wanted then next (place.keeping reached) else none
    | none => if wanted then none else next place
  | .behind wanted least _ body, place, next =>
    match place.back? least with
    | some earlier =>
      match body.run earlier some with
      | some reached => if wanted then next (place.keeping reached) else none
      | none => if wanted then none else next place
    | none => if wanted then none else next place

/-- Whether a pattern matches at the start of a text. -/
def Pattern.matchesStart (pattern : Pattern) (text : List Char) : Bool :=
  (pattern.run (Place.first text) some).isSome

end LicenseHeaders.Regex
