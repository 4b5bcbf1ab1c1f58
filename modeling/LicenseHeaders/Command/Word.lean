import LicenseHeaders.Text.DecimalDigit
import LicenseHeaders.Text.Occurrence
import LicenseHeaders.Text.Separated

/-!
# Words of a command line

A command line is a sequence of words. A word that starts with a dash is an option if it is the
name of one, the beginning of the name of exactly one, or several one-letter options in a row; a
value may stand behind an equals sign. `Word.classify` says what a word is in front of a set of
options, and `Word.classifyAll` goes through the words up to the first double dash, after which
every word stands for itself.
-/

set_option autoImplicit false
set_option relaxedAutoImplicit false

namespace LicenseHeaders.Command

open Text

/-- What an option asks for. -/
inductive Flag where
  | help
  | config
  | rules
  | noDefaults
  | approve
  | headerLines
  | verbose
  | quiet
  | jsonLog
  | json
deriving DecidableEq, Repr, Inhabited

/-- An option that can be given. -/
structure Switch where
  names : List String
  flag : Flag
  /-- Whether a value belongs to the option. -/
  hasValue : Bool := false
deriving DecidableEq, Repr, Inhabited

/-- What a word of a command line is. -/
inductive Word where
  /-- A word that stands for itself. -/
  | plain
  /-- The double dash behind which every word stands for itself. -/
  | divider
  /-- Options without a value. -/
  | flags (flags : List Flag)
  /-- Options without a value, and behind them one whose value is the next word. -/
  | awaiting (flags : List Flag) (last : Flag)
  /-- Options without a value, and behind them one with its value. -/
  | setting (flags : List Flag) (last : Flag) (value : String)
  /-- Something that looks like an option but is none. -/
  | unknown
  /-- An option with a value that it does not take. -/
  | surplus
deriving DecidableEq, Repr, Inhabited

namespace Word

/-- The option of a name. -/
def switchNamed? (switches : List Switch) (name : List Char) : Option Switch :=
  switches.find? fun switch ↦ switch.names.any (·.toList == name)

/-- A word with one more option without a value in front. -/
def preceded (flag : Flag) : Word → Word
  | flags others => flags (flag :: others)
  | awaiting others last => awaiting (flag :: others) last
  | setting others last value => setting (flag :: others) last value
  | word => word

/-- An option with nothing behind it. -/
def bare (switch : Switch) : Word :=
  if switch.hasValue then awaiting [] switch.flag else flags [switch.flag]

/-- A one-letter option with characters behind it: its value, or further one-letter options. -/
def cluster (switches : List Switch) (switch : Switch) : List Char → Word
  | [] => bare switch
  | c :: rest =>
    if switch.hasValue then setting [] switch.flag (String.ofList (c :: rest))
    else
      match switchNamed? switches ['-', c] with
      | some next => preceded switch.flag (cluster switches next rest)
      | none => surplus

/-- Whether a word starts with two dashes. -/
def isLong : List Char → Bool
  | '-' :: '-' :: _ => true
  | _ => false

/-- An option with a value given to it. -/
def withValue (switches : List Switch) (switch : Switch) (isLong : Bool) (value : List Char) :
    Word :=
  if switch.hasValue then setting [] switch.flag (String.ofList value)
  else if isLong || value.isEmpty then surplus
  else cluster switches switch value

/-- The options that a word can stand for though it is the name of none, with the value that each
of them would have. -/
def candidates (switches : List Switch) (word : List Char) :
    List (Switch × Option (List Char)) :=
  let (stem, value) :=
    if isLong word && word.contains '=' then
      let (stem, value) := cutFirst '=' word
      (stem, some value)
    else (word, none)
  switches.flatMap fun switch ↦ switch.names.filterMap fun name ↦
    if !isLong word && name.toList == word.take 2 then some (switch, some (word.drop 2))
    else if stem.isPrefixOf name.toList then some (switch, value)
    else none

/-- Whether a text is a number with a minus sign in front; a line feed may stand behind it. -/
def isNegativeNumber : List Char → Bool
  | '-' :: rest =>
    let body := if rest.getLast? = some '\n' then rest.dropLast else rest
    let whole := body.takeWhile isDecimalDigit
    match body.drop whole.length with
    | [] => !whole.isEmpty
    | '.' :: fraction => !fraction.isEmpty && fraction.all isDecimalDigit
    | _ => false
  | _ => false

/-- What a word is that is not the name of an option. -/
def classifyOther (switches : List Switch) (word : List Char) : Option Word :=
  match candidates switches word with
  | [(switch, none)] => some (bare switch)
  | [(switch, some value)] => some (withValue switches switch (isLong word) value)
  | [] =>
    if isNegativeNumber word || word.contains ' ' then some plain else some unknown
  | _ => none

/-- What a word is. There is no answer if it can stand for more than one option. -/
def classify (switches : List Switch) (word : List Char) : Option Word :=
  if word.head? != some '-' then some plain
  else
    match switchNamed? switches word with
    | some switch => some (bare switch)
    | none =>
      if word.length = 1 then some plain
      else
        let (name, value) := cutFirst '=' word
        match word.contains '=', switchNamed? switches name with
        | true, some switch => some (withValue switches switch (isLong name) value)
        | _, _ => classifyOther switches word

/-- What the words of a command line are, each with its text. There is no answer if one of them
can stand for more than one option. -/
def classifyAll (switches : List Switch) : List String → Option (List (String × Word))
  | [] => some []
  | "--" :: rest => some (("--", divider) :: rest.map fun text ↦ (text, plain))
  | text :: rest => do
    let word ← classify switches text.toList
    return (text, word) :: (← classifyAll switches rest)

end Word

end LicenseHeaders.Command
