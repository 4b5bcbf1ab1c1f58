import LicenseHeaders.Command.Arguments
import LicenseHeaders.Report.Results
import LicenseHeaders.Settings.Find

/-!
# Running the command

`Command.run` carries out what a command line asks for in a file tree. The outcome is an exit
code and the text that is printed: zero if every file is approved, one if some file is not, two
if the command line, the settings or the rules are wrong. What happens on the way is noted.
-/

set_option autoImplicit false
set_option relaxedAutoImplicit false

namespace LicenseHeaders.Command

open Text

variable [Installation]

/-- What comes of a command. -/
structure Outcome where
  exitCode : Nat
  output : String := ""
deriving DecidableEq, Repr

/-- The outcome of a command that could not be carried out. -/
def Outcome.wrong : Outcome := { exitCode := 2 }

/-- A step of a command. What has been noted is kept if it fails. -/
abbrev Running := ExceptT Fault (StateM (List Event))

/-- Notes that something happened. -/
def note (events : List Event) : Running Unit :=
  modify (· ++ events)

namespace Choices

/-- Settings with what the command line says on top of them. -/
def onto (choices : Choices) (settings : Settings) : Except Fault Settings := do
  let window ←
    match choices.window with
    | none => pure settings.window
    | some window =>
      if window < 1 then throw (.of .windowOptionNotPositive) else pure window
  return { settings with
    rules := settings.rules ++ choices.rules
    useDefaults := settings.useDefaults && !choices.noDefaults
    approve := settings.approve ++ choices.approve
    window }

/-- The settings of a command: those of the file that it names or else of the nearest one, with
what the command line says on top of them. -/
def settings (choices : Choices) (tree : FileTree) : Except Fault Settings := do
  let path ←
    match choices.config with
    | some path => pure (some path)
    | none => Settings.find tree { start := .root, names := tree.working }
  let settings ←
    match path with
    | some path => Settings.load tree path
    | none => pure {}
  choices.onto settings

/-- The least level of the events that are shown. -/
def level (choices : Choices) : Level :=
  if choices.quiet then .warning else if choices.verbose then .debug else .info

end Choices

/-! ### Checking files -/

/-- The report on a path that leads to no header. -/
def unreadable (path : Path) : Report :=
  { source := path.text }

/-- Checks a file. What leads to no file that can be opened is not approved. -/
def checkFile (tree : FileTree) (analyser : Analyser) (path : Path) : Running Report :=
  match tree.find path with
  | .ok (.file bytes) => do
    let report ← analyser.analyseBytes bytes path.text
    note [report.event]
    return report
  | .ok (.locked reason) => do
    note [.fileUnreadable (path.shown tree.working) reason]
    return unreadable path
  | .error .tooLong => throw (.crash .pathTooLong)
  | _ => do
    note [.notAFile (path.shown tree.working)]
    return unreadable path

/-- Checks files in order. -/
def checkFiles (tree : FileTree) (analyser : Analyser) : List Path → Running (List Report)
  | [] => pure []
  | path :: rest => do
    let report ← checkFile tree analyser path
    return report :: (← checkFiles tree analyser rest)

/-- The outcome of reports on files. -/
def Outcome.ofReports (json : Bool) (reports : List Report) : Outcome :=
  { exitCode := if reports.all (·.approved) then 0 else 1
    output :=
      (if json then Report.records (some 2) reports else Report.table reports) ++ "\n" }

/-- The outcome of listing the licenses. -/
def Outcome.ofLicenses (json : Bool) (engine : Engine) : Outcome :=
  { exitCode := 0
    output := if json then engine.records ++ "\n" else engine.table }

/-! ### The whole command -/

/-- The engine of a command. -/
def engine (tree : FileTree) (catalogue : Catalogue) (choices : Choices) : Running Engine := do
  let settings ← choices.settings tree
  let (result, events) := Engine.build tree catalogue settings
  note events
  result

/-- Does what is asked for with the engine. -/
def perform (tree : FileTree) (engine : Engine) : Task → Running Outcome
  | .licenses json => pure (.ofLicenses json engine)
  | .check files json => do
    let analyser ← Analyser.ofLicenses engine.licenses engine.policy engine.window
    return .ofReports json (← checkFiles tree analyser files)

/-- Carries out what a command line asks for. Wrong settings and rules are noted. -/
def execute (tree : FileTree) (catalogue : Catalogue) (arguments : Arguments) :
    Running Outcome := do
  let built ← tryCatch (some <$> engine tree catalogue arguments.choices) fun fault ↦
    match fault with
    | .configuration error => do
      note [.configurationError error.message]
      return none
    | fault => throw fault
  match built with
  | none => return .wrong
  | some engine => perform tree engine arguments.task

/-- Runs a command line in a file tree, and says what happened on the way. -/
def run (tree : FileTree) (catalogue : Catalogue) (words : List String) :
    Except Fault Outcome × List Event :=
  match Arguments.parse words with
  | .ok arguments =>
    let (outcome, events) := (execute tree catalogue arguments).run.run []
    (outcome, events.filter (·.level.reaches arguments.choices.level))
  | .error .help => (.ok { exitCode := 0 }, [])
  | .error .misuse => (.ok .wrong, [])
  | .error (.value fault) => (.error (.value fault), [])

end LicenseHeaders.Command
