import LicenseHeaders.Command.Word
import LicenseHeaders.Fault
import LicenseHeaders.Path
import LicenseHeaders.Text.WholeNumber

/-!
# Arguments

What a command line asks for: first options that concern the rules, the settings and the log,
then what to do, with options of its own. `Arguments.parse` reads the words one by one. A
command line that asks for nothing sensible is refused, and one that asks for help is not
carried out.
-/

set_option autoImplicit false
set_option relaxedAutoImplicit false

namespace LicenseHeaders.Command

open Text

/-- What to do. -/
inductive Task where
  /-- Check the headers of files. -/
  | check (files : List Path) (json : Bool)
  /-- List the licenses. -/
  | licenses (json : Bool)
deriving DecidableEq, Repr, Inhabited

/-- The options in front of what to do. -/
structure Choices where
  config : Option Path := none
  rules : List String := []
  noDefaults : Bool := false
  approve : List String := []
  window : Option Int := none
  verbose : Bool := false
  quiet : Bool := false
  jsonLog : Bool := false
deriving DecidableEq, Repr, Inhabited

/-- What a command line asks for. -/
structure Arguments where
  choices : Choices
  task : Task
deriving DecidableEq, Repr, Inhabited

/-- Why a command line is not carried out. -/
inductive Refusal where
  /-- It asks for help. -/
  | help
  /-- It is malformed. -/
  | misuse
  /-- An option has a double dash for a value. -/
  | value (fault : ValueFault)
deriving DecidableEq, Repr

/-- The option that asks for help. -/
def helpSwitch : Switch :=
  { names := ["-h", "--help"], flag := .help }

/-- The options in front of what to do. -/
def mainSwitches : List Switch :=
  [helpSwitch,
   { names := ["--config"], flag := .config, hasValue := true },
   { names := ["--rules"], flag := .rules, hasValue := true },
   { names := ["--no-defaults"], flag := .noDefaults },
   { names := ["--approve"], flag := .approve, hasValue := true },
   { names := ["--header-lines"], flag := .headerLines, hasValue := true },
   { names := ["-v", "--verbose"], flag := .verbose },
   { names := ["-q", "--quiet"], flag := .quiet },
   { names := ["--json-log"], flag := .jsonLog }]

/-- The options behind what to do. -/
def taskSwitches : List Switch :=
  [helpSwitch, { names := ["--json"], flag := .json }]

/-! ### What to do -/

/-- The words of a task as far as they have been read. -/
structure TaskState where
  json : Bool := false
  /-- The names of files, last one first, once there is any. -/
  files : List String := []
  /-- Whether a further name would be separated from the others by an option. -/
  isClosed : Bool := false
  /-- Whether a word has turned up that does not belong here. -/
  hasExtra : Bool := false
deriving DecidableEq, Repr

namespace TaskState

/-- Takes options. -/
def take (state : TaskState) : List Flag → Except Refusal TaskState
  | [] => .ok { state with isClosed := !state.files.isEmpty }
  | .help :: _ => .error .help
  | .json :: rest => take { state with json := true } rest
  | _ :: _ => .error .misuse

/-- Reads words. Names of files stand together if there may be any, and a double dash may stand
in front of any of them. -/
def read (hasFiles : Bool) (state : TaskState) :
    List (String × Word) → Except Refusal TaskState
  | [] => .ok state
  | (text, .plain) :: rest =>
    if hasFiles && !state.isClosed then
      read hasFiles { state with files := text :: state.files } rest
    else read hasFiles { state with hasExtra := true } rest
  | (_, .divider) :: rest =>
    if hasFiles && !state.isClosed then read hasFiles state rest
    else read hasFiles { state with hasExtra := true } rest
  | (_, .flags flags) :: rest =>
    match state.take flags with
    | .ok state => read hasFiles state rest
    | .error refusal => .error refusal
  | (_, .unknown) :: rest =>
    read hasFiles { state with hasExtra := true, isClosed := !state.files.isEmpty } rest
  | _ => .error .misuse

end TaskState

/-- Reads the words behind the name of a task. -/
def readTask (hasFiles : Bool) (words : List String) : Except Refusal TaskState := do
  match Word.classifyAll taskSwitches words with
  | none => throw .misuse
  | some words =>
    let state ← TaskState.read hasFiles {} words
    if hasFiles && state.files.isEmpty then throw .misuse
    return state

/-- Reads what to do, and says whether a word has turned up that does not belong there. -/
def Task.ofWords (name : String) (words : List String) : Except Refusal (Task × Bool) := do
  match name with
  | "check" =>
    let state ← readTask true words
    return (.check (state.files.reverse.map Path.ofText) state.json, state.hasExtra)
  | "licenses" =>
    let state ← readTask false words
    return (.licenses state.json, state.hasExtra)
  | _ => throw .misuse

/-! ### The whole command line -/

namespace Choices

/-- Takes an option without a value. -/
def take (choices : Choices) : List Flag → Except Refusal Choices
  | [] => .ok choices
  | .help :: _ => .error .help
  | .noDefaults :: rest => take { choices with noDefaults := true } rest
  | .verbose :: rest => take { choices with verbose := true } rest
  | .quiet :: rest => take { choices with quiet := true } rest
  | .jsonLog :: rest => take { choices with jsonLog := true } rest
  | _ :: _ => .error .misuse

/-- Takes an option with its value. -/
def takeValue (choices : Choices) (flag : Flag) (value : String) : Except Refusal Choices :=
  match flag with
  | .config => .ok { choices with config := some (.ofText value) }
  | .rules => .ok { choices with rules := choices.rules ++ [value] }
  | .approve => .ok { choices with approve := choices.approve ++ [value] }
  | .headerLines =>
    match wholeNumber? value.toList with
    | some number => .ok { choices with window := some number }
    | none => .error .misuse
  | _ => .error .misuse

end Choices

/-- Reads words behind the given choices, where the value of an option may be due. -/
def readWords (choices : Choices) (due : Option Flag) (hasExtra : Bool) :
    List (String × Word) → Except Refusal Arguments
  | [] => .error .misuse
  | (text, word) :: rest =>
    match due, word with
    | some flag, .plain => do
      readWords (← choices.takeValue flag text) none hasExtra rest
    | some _, _ => .error .misuse
    | none, .plain => do
      let (task, hasMore) ← Task.ofWords text (rest.map (·.1))
      if hasExtra || hasMore then throw .misuse
      return { choices, task }
    | none, .flags flags => do
      readWords (← choices.take flags) none hasExtra rest
    | none, .awaiting flags last => do
      readWords (← choices.take flags) (some last) hasExtra rest
    | none, .setting flags last value => do
      let choices ← choices.take flags
      if value = "--" then throw (.value .noOptionValue)
      readWords (← choices.takeValue last value) none hasExtra rest
    | none, .unknown => readWords choices none true rest
    | none, .divider => .error .misuse
    | none, .surplus => .error .misuse

/-- Reads a command line. -/
def Arguments.parse (words : List String) : Except Refusal Arguments :=
  match Word.classifyAll mainSwitches words with
  | some words => readWords {} none false words
  | none => .error .misuse

end LicenseHeaders.Command
