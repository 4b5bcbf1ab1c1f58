import LicenseHeaders.Command.Run
import LicenseHeaders.Sample

/-!
# The program

The outermost layer: it collects the files that a command line concerns into a file tree, runs
the command in it, and prints the outcome and what happened on the way. What is done with the
files is decided elsewhere. The sample installation is what the program finds installed.
-/

set_option autoImplicit false
set_option relaxedAutoImplicit false

namespace LicenseHeaders.Program

open Text Command

/-! ### Collecting files -/

/-- The text of an absolute path with the given names. -/
def textOf (names : List String) : String :=
  Path.text { start := .root, names }

/-- What names lead to, if they lead to anything. Of a directory it is only said that it is
one. -/
def look (names : List String) : IO (Option FileNode) :=
  try
    let bytes ← IO.FS.readBinFile (textOf names)
    return some (.file bytes.toList)
  catch
    | .inappropriateType .. => return some (.directory [])
    | .permissionDenied _ _ reason => return some (.locked reason)
    | _ => return none

/-- A tree with what is found at places, each of which is inside the one before it. The first
one that is no directory is the last one that counts. -/
def withPlaces (tree : FileTree) : List (List String) → IO FileTree
  | [] => return tree
  | names :: rest => do
    match tree.find { start := .root, names }, ← look names with
    | .ok _, some (.directory _) => withPlaces tree rest
    | _, some (.directory _) =>
      withPlaces { tree with root := (FileNode.directory []).insert names tree.root } rest
    | _, some node => return { tree with root := node.insert names tree.root }
    | _, none => return tree

/-- The places that a path passes through, from the outside to the inside. -/
def placesOn (working : Path.Directory) (path : Path) : List (List String) :=
  (List.range (path.names.length + 1)).map fun count ↦
    { path with names := path.names.take count : Path }.resolvedNames working

/-- A tree with what a path leads to. -/
def withPath (tree : FileTree) (path : Path) : IO FileTree :=
  withPlaces tree (placesOn tree.working path)

/-- A tree with what several paths lead to. -/
def withPaths (tree : FileTree) : List Path → IO FileTree
  | [] => return tree
  | path :: rest => do withPaths (← withPath tree path) rest

/-- The files that may hold the settings of a directory. -/
def settingsFiles (working : Path.Directory) : List Path :=
  (Path.upwards working).flatMap fun names ↦
    [Settings.fileName, Settings.projectFileName].map fun name ↦
      { start := .root, names := names ++ [name] }

/-- The files that rule documents are read from. -/
def ruleFiles (rules : List String) : List Path :=
  rules.filterMap fun rule ↦ (Source.name rule).file?

/-- The files that a task concerns. -/
def taskFiles : Task → List Path
  | .check files _ => files
  | .licenses _ => []

/-- The files and directories that a command line concerns. -/
def collect (working : Path.Directory) (words : List String) : IO FileTree := do
  let tree ← withPlaces { working } (List.range (working.length + 1) |>.map working.take)
  match Arguments.parse words with
  | .error _ => return tree
  | .ok { choices, task } =>
    let tree ← withPaths tree (settingsFiles working ++ choices.config.toList)
    let rules := ((choices.settings tree).toOption.map (·.rules)).getD []
    withPaths tree (ruleFiles rules ++ taskFiles task)

/-! ### Printing -/

/-- The value of a field as it is written to the log. -/
def datum : Field → Datum
  | .text value => .text value
  | .number value => .number value
  | .truth value => .truth value
  | .texts values => .list (values.map .text)
  | .nothing => .nothing

/-- A line of the log as a record. -/
def recordLine (event : Event) : String :=
  let fields := event.fields.map fun (name, value) ↦ (name, datum value)
  Datum.write none <| .record <| fields ++
    [("event", .text event.name), ("level", .text event.level.name),
     ("logger", .text event.logger)]

/-- A line of the log for a reader. -/
def plainLine (event : Event) : String :=
  let fields := event.fields.map fun (name, value) ↦
    " " ++ name ++ "=" ++ Datum.write none (datum value)
  "[" ++ event.level.name ++ "] " ++ event.name ++ String.join fields

/-- Whether the log is asked for as records. -/
def wantsRecords (words : List String) : Bool :=
  match Arguments.parse words with
  | .ok arguments => arguments.choices.jsonLog
  | .error _ => false

end LicenseHeaders.Program

open LicenseHeaders Sample in
/-- Runs the program. -/
def main (words : List String) : IO UInt32 := do
  let working := (Path.ofText (toString (← IO.currentDir))).names
  let tree ← Program.collect working words
  let (result, events) := Command.run tree {} words
  let line := if Program.wantsRecords words then Program.recordLine else Program.plainLine
  for event in events do
    IO.eprintln (line event)
  match result with
  | .ok outcome =>
    IO.print outcome.output
    return outcome.exitCode.toUInt32
  | .error fault =>
    IO.eprintln (fault.message?.getD "the request cannot be answered")
    return 1
