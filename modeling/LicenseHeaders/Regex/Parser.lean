import LicenseHeaders.Regex.Pattern
import LicenseHeaders.Text.CharacterName
import LicenseHeaders.Text.Identifier
import LicenseHeaders.Text.WholeNumber

/-!
# Reading patterns

The notation of regular expressions: literals and escapes, classes, groups with and without
names, references to groups, repetitions of the three kinds, conditions on the text before and
after, choices by group, comments, and flags that hold inside a group. `Pattern.parse` reads a
text that stands under given flags. A text that is no pattern has no other reading, so the
faults are few: the text is invalid, a repetition count is beyond the bound, or a count has more
digits than a number may have.

The reader works on tokens, where a backslash and the character after it are one token. Each
step of the reader consumes a token, so the number of tokens bounds its work.
-/

set_option autoImplicit false
set_option relaxedAutoImplicit false

namespace LicenseHeaders.Regex

open Text

variable [CharacterNames]

/-- Why a text is not accepted as a pattern. -/
inductive PatternFault where
  /-- The text breaks the rules of the notation. -/
  | invalid
  /-- A repetition count is not below the bound. -/
  | countTooLarge
  /-- A repetition count has the given number of digits, which is more than may be read. -/
  | countTooLong (digits : Nat)
deriving DecidableEq, Repr

/-- The flags under which a part of a pattern is read. -/
structure Flags where
  /-- Letters are compared without regard to case. -/
  ignoreCase : Bool
  /-- Digits, blanks and words are those of the basic alphabet. -/
  basic : Bool
  /-- Anchors look at lines. -/
  everyLine : Bool
  /-- The dot accepts a line feed. -/
  dotAll : Bool
  /-- Blanks and comments are skipped. -/
  verbose : Bool
deriving DecidableEq, Repr

/-- How letters are compared under the flags. -/
def Flags.folding (flags : Flags) : Folding :=
  if flags.ignoreCase then
    if flags.basic then .basicLatin else .everyScript
  else .exact

/-- A character that stands for itself or for an operator, or one behind a backslash. -/
inductive Token where
  | plain (c : Char)
  | escaped (c : Char)
deriving DecidableEq, Repr

/-- The characters of a token. -/
def Token.chars : Token → List Char
  | .plain c => [c]
  | .escaped c => ['\\', c]

/-- The tokens of a text; a backslash at the end has nothing to escape. -/
def tokens? : List Char → Option (List Token)
  | [] => some []
  | '\\' :: c :: rest => (tokens? rest).map (.escaped c :: ·)
  | ['\\'] => none
  | c :: rest => (tokens? rest).map (.plain c :: ·)

/-- What has been read so far of the whole pattern. -/
structure Progress where
  /-- The tokens still to be read. -/
  rest : List Token
  /-- The number of the next group. -/
  nextGroup : Nat
  /-- The numbers of the named groups. -/
  names : List (String × Nat)
  /-- The widths of the groups that are closed. -/
  widths : List (Nat × Width)
  /-- The greatest group number that a choice has asked about. -/
  asked : Nat
  /-- Inside a condition on preceding text: the first group number that belongs to it. -/
  lookingBack : Option Nat

/-- A part of the reader. -/
abbrev Reading := StateT Progress (Except PatternFault)

namespace Reading

/-- Refuses the pattern. -/
def refuse {α : Type} : Reading α :=
  throw .invalid

/-- The next token, without reading it. -/
def peek : Reading (Option Token) :=
  return (← get).rest.head?

/-- Reads the next token. -/
def next : Reading (Option Token) := do
  let progress ← get
  match progress.rest with
  | [] => return none
  | token :: rest =>
    set { progress with rest := rest }
    return some token

/-- Reads the given character if it comes next. -/
def accept (c : Char) : Reading Bool := do
  let progress ← get
  match progress.rest with
  | .plain found :: rest =>
    if found = c then
      set { progress with rest := rest }
      return true
    else return false
  | _ => return false

/-- Reads the given character or refuses the pattern. -/
def expect (c : Char) : Reading Unit := do
  if !(← accept c) then refuse

/-- Reads characters of a kind, at most a given number. -/
def upTo (wanted : Char → Bool) : Nat → Reading (List Char)
  | 0 => return []
  | count + 1 => do
    let progress ← get
    match progress.rest with
    | .plain c :: rest =>
      if wanted c then
        set { progress with rest := rest }
        return c :: (← upTo wanted count)
      else return []
    | _ => return []

/-- Reads all characters of a kind that come next. -/
def every (wanted : Char → Bool) : Reading (List Char) := do
  upTo wanted (← get).rest.length

/-- The tokens before the given character, and those after it. -/
def splitAt? (stop : Char) : List Token → Option (List Char × List Token)
  | [] => none
  | token :: rest =>
    if token = .plain stop then some ([], rest)
    else (splitAt? stop rest).map fun (text, after) ↦ (token.chars ++ text, after)

/-- Reads a non-empty text up to the given character, and that character. -/
def textUntil (stop : Char) : Reading (List Char) := do
  match splitAt? stop (← get).rest with
  | some (text, rest) =>
    if text.isEmpty then refuse
    modify fun progress ↦ { progress with rest := rest }
    return text
  | none => refuse

end Reading

open Reading

/-! ### Characters and classes -/

/-- Whether a character is an octal digit. -/
def isOctal (c : Char) : Bool :=
  '0' ≤ c && c ≤ '7'

/-- Whether a character is a hexadecimal digit. -/
def isHex (c : Char) : Bool :=
  c.isDigit || ('a' ≤ c && c ≤ 'f') || ('A' ≤ c && c ≤ 'F')

/-- The value of a hexadecimal digit. -/
def hexValue (c : Char) : Nat :=
  if c.isDigit then c.toNat - 0x30
  else if 'a' ≤ c then c.toNat - 0x57
  else c.toNat - 0x37

/-- The number that digits of a base up to sixteen stand for. -/
def numberOf (base : Nat) (digits : List Char) : Nat :=
  digits.foldl (fun value digit ↦ value * base + hexValue digit) 0

/-- The character that an escape with a letter stands for. -/
def letterEscape? : Char → Option Nat
  | 'a' => some 7
  | 'b' => some 8
  | 'f' => some 12
  | 'n' => some 10
  | 'r' => some 13
  | 't' => some 9
  | 'v' => some 11
  | '\\' => some 0x5C
  | _ => none

/-- The class that an escape with a letter stands for. -/
def classEscape? : Char → Option ClassItem
  | 'd' => some (.digit true)
  | 'D' => some (.digit false)
  | 's' => some (.blank true)
  | 'S' => some (.blank false)
  | 'w' => some (.word true)
  | 'W' => some (.word false)
  | _ => none

/-- Reads the given number of hexadecimal digits. -/
def hexCode (places : Nat) : Reading Nat := do
  let digits ← upTo isHex places
  if digits.length ≠ places then refuse
  return numberOf 16 digits

/-- Reads what follows the letter of an escape that names a code point. -/
def codeEscapeAfter (letter : Char) : Reading (Option Nat) := do
  match letter with
  | 'x' => return some (← hexCode 2)
  | 'u' => return some (← hexCode 4)
  | 'U' =>
    let code ← hexCode 8
    if code > 0x10FFFF then refuse
    return some code
  | 'N' =>
    expect '\x7b'
    match CharacterNames.code? (← textUntil '\x7d') with
    | some code => return some code
    | none => refuse
  | _ => return none

/-- Reads the escape of a class member from the character after the backslash on. -/
def classMember (c : Char) : Reading ClassItem := do
  if let some code := letterEscape? c then return .code code
  if let some item := classEscape? c then return item
  if let some code ← codeEscapeAfter c then return .code code
  if isOctal c then
    let code := numberOf 8 (c :: (← upTo isOctal 2))
    if code > 0o377 then refuse
    return .code code
  if c.isDigit || c.isAlpha then refuse
  return .code c.toNat

/-- Reads the members of a class from the given token on, after the members `items`. A bracket
that comes first is a member. -/
def classItems : Nat → List ClassItem → Reading (List ClassItem)
  | 0, _ => refuse
  | fuel + 1, items => do
    let some token ← next | refuse
    if token = .plain ']' ∧ items ≠ [] then return items
    let first ← match token with
      | .escaped c => classMember c
      | .plain c => pure (.code c.toNat)
    if ← accept '-' then
      let some token ← next | refuse
      if token = .plain ']' then return items ++ [first, .code '-'.toNat]
      let last ← match token with
        | .escaped c => classMember c
        | .plain c => pure (.code c.toNat)
      match first, last with
      | .code low, .code high =>
        if high < low then refuse
        classItems fuel (items ++ [.range low high])
      | _, _ => refuse
    else classItems fuel (items ++ [first])

/-- Reads a class after its opening bracket. -/
def charClass (flags : Flags) : Reading CharTest := do
  let negated ← accept '^'
  let items ← classItems ((← get).rest.length + 1) []
  return .oneOf flags.folding flags.basic negated items

/-! ### Groups -/

/-- The test that accepts one letter. -/
def letterTest (flags : Flags) (code : Nat) : CharTest :=
  .oneOf flags.folding flags.basic false [.code code]

/-- Refuses a reference, inside a condition on preceding text, to a group that is open or
belongs to that condition. -/
def checkLookingBack (number : Nat) : Reading Unit := do
  let progress ← get
  if let some first := progress.lookingBack then
    if (progress.widths.lookup number).isNone || first ≤ number then refuse

/-- The reference to a group, which has to be closed. -/
def groupReference (flags : Flags) (number : Nat) : Reading Pattern := do
  if ((← get).widths.lookup number).isNone then refuse
  checkLookingBack number
  return .sameAs flags.folding number

/-- Reads what follows a backslash and a digit other than nought: three octal digits are a
character, all else is the number of a group. -/
def numberEscape (flags : Flags) (c : Char) : Reading Pattern := do
  let digits ← upTo Char.isDigit 1
  match digits with
  | second :: _ =>
    if isOctal c && isOctal second then
      if let third :: _ ← upTo isOctal 1 then
        let code := numberOf 8 [c, second, third]
        if code > 0o377 then refuse
        return .one (letterTest flags code)
    groupReference flags (numberOf 10 [c, second])
  | [] => groupReference flags (numberOf 10 [c])

/-- The anchor that an escape with a letter stands for. -/
def anchorEscape? (flags : Flags) : Char → Option Anchor
  | 'A' => some (.start false)
  | 'Z' => some .textEnd
  | 'b' => some (.wordEdge flags.basic)
  | 'B' => some (.noWordEdge flags.basic)
  | _ => none

/-- What a part of a sequence is, as far as a repetition sign after it is concerned. -/
inductive Shape where
  | plain
  | anchor
  | repetition
deriving DecidableEq, Repr

/-- A part of a sequence. -/
abbrev Item := Shape × Pattern

/-- Reads an escape outside of a class from the character after the backslash on. -/
def escape (flags : Flags) (c : Char) : Reading Item := do
  if let some anchor := anchorEscape? flags c then return (.anchor, .anchor anchor)
  if let some item := classEscape? c then
    return (.plain, .one (.oneOf flags.folding flags.basic false [item]))
  if let some code := letterEscape? c then return (.plain, .one (letterTest flags code))
  if let some code ← codeEscapeAfter c then return (.plain, .one (letterTest flags code))
  if c = '0' then
    let code := numberOf 8 (← upTo isOctal 2)
    return (.plain, .one (letterTest flags code))
  if c.isDigit then return (.plain, ← numberEscape flags c)
  if c.isAlpha then refuse
  return (.plain, .one (letterTest flags c.toNat))

/-- Opens a group and gives its number. -/
def openGroup (name : Option (List Char)) : Reading Nat := do
  let progress ← get
  let number := progress.nextGroup
  match name with
  | none => set { progress with nextGroup := number + 1 }
  | some name =>
    let name := String.ofList name
    if (progress.names.lookup name).isSome then refuse
    set { progress with nextGroup := number + 1, names := (name, number) :: progress.names }
  return number

/-- The width of a closed group. -/
def Progress.groupWidth (progress : Progress) (number : Nat) : Width :=
  (progress.widths.lookup number).getD (0, 0)

/-- Closes a group. -/
def closeGroup (number : Nat) (body : Pattern) : Reading Unit :=
  modify fun progress ↦
    { progress with widths := (number, body.width progress.groupWidth) :: progress.widths }

/-- The flags with the one of the given letter set or cleared. -/
def Flags.with? (value : Bool) (flags : Flags) : Char → Option Flags
  | 'i' => some { flags with ignoreCase := value }
  | 'm' => some { flags with everyLine := value }
  | 's' => some { flags with dotAll := value }
  | 'x' => some { flags with verbose := value }
  | _ => none

/-- Reads the letters of the flags that are cleared, up to the colon. None of them may be among
those that are set. -/
def clearedFlags (set : List Char) : Nat → Flags → Reading Flags
  | 0, _ => refuse
  | fuel + 1, flags => do
    let some (.plain c) ← next | refuse
    match flags.with? false c with
    | some flags =>
      if set.contains c then refuse
      if ← accept ':' then return flags else clearedFlags set fuel flags
    | none => refuse

/-- Reads the letters of flags from the letter `c` on, up to the colon of the group. Flags for
the rest of the pattern have no place here, so a closing bracket is refused. At most one of the
letters for the alphabet may occur. -/
def setFlags (letters : List Char) : Nat → Flags → Char → Reading Flags
  | 0, _, _ => refuse
  | fuel + 1, flags, c => do
    let flags ← match c with
      | 'a' => if letters.contains 'u' then refuse else pure { flags with basic := true }
      | 'u' => if letters.contains 'a' then refuse else pure { flags with basic := false }
      | _ =>
        match flags.with? true c with
        | some flags => pure flags
        | none => refuse
    let letters := c :: letters
    let some (.plain next) ← next | refuse
    if next = ':' then return flags
    else if next = '-' then clearedFlags letters fuel flags
    else setFlags letters fuel flags next

/-- Reads the flags of a group from their first character on. -/
def groupFlags (flags : Flags) (c : Char) : Reading Flags := do
  let bound := (← get).rest.length + 1
  if c = '-' then clearedFlags [] bound flags else setFlags [] bound flags c

/-- Reads the name or number of the group that a choice asks about. -/
def askedGroup : Reading Nat := do
  let text ← textUntil ')'
  if isIdentifier text then
    match (← get).names.lookup (String.ofList text) with
    | some number => return number
    | none => refuse
  else
    match wholeNumber? text with
    | some (.ofNat number) =>
      if number = 0 then refuse
      modify fun progress ↦ { progress with asked := max progress.asked number }
      return number
    | _ => refuse

/-- Skips a comment up to the closing bracket. -/
def skipComment : Reading Unit := do
  match splitAt? ')' (← get).rest with
  | some (_, rest) => modify fun progress ↦ { progress with rest := rest }
  | none => refuse

/-- Skips a remark up to the end of the line. -/
def skipRemark : Reading Unit := do
  match splitAt? '\n' (← get).rest with
  | some (_, rest) => modify fun progress ↦ { progress with rest := rest }
  | none => modify fun progress ↦ { progress with rest := [] }

/-! ### Repetitions -/

/-- The count that decimal digits stand for. -/
def repeatCount (digits : List Char) : Reading Nat := do
  if digits.length > maxDigits then throw (.countTooLong digits.length)
  let count := numberOf 10 digits
  if repeatLimit ≤ count then throw .countTooLarge
  return count

/-- Reads the bounds of a repetition after an opening brace; without bounds and a closing brace
the opening brace stands for itself, and nothing is read. -/
def braces? : Reading (Option (Nat × Option Nat)) := do
  let before ← get
  let low ← every Char.isDigit
  let high ← if ← accept ',' then every Char.isDigit else pure low
  if ← accept '\x7d' then
    if low.isEmpty && high.isEmpty && before.rest.head? == some (.plain '\x7d') then
      set before
      return none
    let least ← if low.isEmpty then pure 0 else repeatCount low
    if high.isEmpty then return some (least, none)
    let most ← repeatCount high
    if most < least then refuse
    return some (least, some most)
  else
    set before
    return none

/-- Reads the bounds that a repetition sign stands for. -/
def repetition? (sign : Char) : Reading (Option (Nat × Option Nat)) :=
  match sign with
  | '?' => return some (0, some 1)
  | '*' => return some (0, none)
  | '+' => return some (1, none)
  | '\x7b' => braces?
  | _ => return none

/-- Reads the sign of a repetition's greed. -/
def greed : Reading Greed := do
  if ← accept '?' then return .reluctant
  if ← accept '+' then return .possessive
  return .eager

/-- Repeats the last part of a sequence, given in reverse order. -/
def repeatLast (least : Nat) (most : Option Nat) : List Item → Reading (List Item)
  | (.plain, body) :: before => do
    return (.repetition, .repeated (← greed) least most body) :: before
  | _ => refuse

/-- The pattern of a sequence whose parts are given in reverse order. -/
def sequencePattern (items : List Item) : Pattern :=
  items.foldl (fun pattern item ↦ .seq item.2 pattern) .empty

/-- Whether a character is skipped where blanks are. -/
def isSkipped (c : Char) : Bool :=
  [' ', '\t', '\n', '\r', '\x0b', '\x0c'].contains c

/-! ### The reader -/

mutual

/-- Reads alternatives up to a closing bracket or the end. -/
def alternatives : Nat → Flags → Reading Pattern
  | 0, _ => refuse
  | fuel + 1, flags => do
    let first ← sequence fuel flags []
    if ← accept '|' then
      return .alt first (← alternatives fuel flags)
    else return first

/-- Reads a sequence after the parts `items`, which are in reverse order, up to a bar, a closing
bracket or the end. -/
def sequence : Nat → Flags → List Item → Reading Pattern
  | 0, _, _ => refuse
  | fuel + 1, flags, items => do
    match ← peek with
    | none => return sequencePattern items
    | some (.escaped c) =>
      let _ ← next
      sequence fuel flags ((← escape flags c) :: items)
    | some (.plain c) =>
      if c = '|' || c = ')' then return sequencePattern items
      let _ ← next
      if flags.verbose && isSkipped c then sequence fuel flags items
      else if flags.verbose && c = '#' then
        skipRemark
        sequence fuel flags items
      else if c = '[' then
        sequence fuel flags ((.plain, .one (← charClass flags)) :: items)
      else if c = '.' then
        sequence fuel flags ((.plain, .one (.any flags.dotAll)) :: items)
      else if c = '^' then
        sequence fuel flags ((.anchor, .anchor (.start flags.everyLine)) :: items)
      else if c = '$' then
        sequence fuel flags ((.anchor, .anchor (.finish flags.everyLine)) :: items)
      else if c = '(' then
        match ← bracket fuel flags with
        | some body => sequence fuel flags ((.plain, body) :: items)
        | none => sequence fuel flags items
      else
        match ← repetition? c with
        | some (least, most) => sequence fuel flags (← repeatLast least most items)
        | none => sequence fuel flags ((.plain, .one (letterTest flags c.toNat)) :: items)

/-- Reads what follows an opening bracket; a comment is no part of the sequence. -/
def bracket : Nat → Flags → Reading (Option Pattern)
  | 0, _ => refuse
  | fuel + 1, flags => do
    if !(← accept '?') then return some (← numbered fuel flags none)
    let some (.plain c) ← next | refuse
    match c with
    | 'P' =>
      let some (.plain c) ← next | refuse
      match c with
      | '<' =>
        let name ← textUntil '>'
        if !isIdentifier name then refuse
        return some (← numbered fuel flags (some name))
      | '=' =>
        let name ← textUntil ')'
        match (← get).names.lookup (String.ofList name) with
        | some number => return some (← groupReference flags number)
        | none => refuse
      | _ => refuse
    | ':' => return some (← body fuel flags)
    | '#' =>
      skipComment
      return none
    | '>' => return some (.atomic (← body fuel flags))
    | '=' => return some (.ahead true (← body fuel flags))
    | '!' => return some (.ahead false (← body fuel flags))
    | '<' =>
      let some (.plain c) ← next | refuse
      match c with
      | '=' => return some (← lookingBack fuel flags true)
      | '!' => return some (← lookingBack fuel flags false)
      | _ => refuse
    | '(' =>
      let number ← askedGroup
      checkLookingBack number
      let present ← sequence fuel flags []
      let absent ← if ← accept '|' then sequence fuel flags [] else pure .empty
      expect ')'
      return some (.ifGroup number present absent)
    | _ => return some (← body fuel (← groupFlags flags c))

/-- Reads alternatives and the closing bracket after them. -/
def body : Nat → Flags → Reading Pattern
  | 0, _ => refuse
  | fuel + 1, flags => do
    let pattern ← alternatives fuel flags
    expect ')'
    return pattern

/-- Reads a group whose text is kept. -/
def numbered : Nat → Flags → Option (List Char) → Reading Pattern
  | 0, _, _ => refuse
  | fuel + 1, flags, name => do
    let number ← openGroup name
    let pattern ← body fuel flags
    closeGroup number pattern
    return .group number pattern

/-- Reads a condition on preceding text. Groups that it opens cannot be referred to inside. -/
def lookingBack : Nat → Flags → Bool → Reading Pattern
  | 0, _, _ => refuse
  | fuel + 1, flags, wanted => do
    let outer := (← get).lookingBack
    modify fun progress ↦
      { progress with lookingBack := some (outer.getD progress.nextGroup) }
    let pattern ← body fuel flags
    modify fun progress ↦ { progress with lookingBack := outer }
    let (least, most) := pattern.width (← get).groupWidth
    return .behind wanted least most pattern

end

/-- The pattern that a text denotes under the given flags. -/
def Pattern.parse (flags : Flags) (text : List Char) : Except PatternFault Pattern := do
  match tokens? text with
  | none => throw .invalid
  | some tokens =>
    let start : Progress := ⟨tokens, 1, [], [], 0, none⟩
    let (pattern, progress) ← StateT.run (alternatives (5 * tokens.length + 5) flags) start
    if !progress.rest.isEmpty || progress.nextGroup ≤ progress.asked then throw .invalid
    if !pattern.looksBackFixed then throw .invalid
    return pattern

end LicenseHeaders.Regex
