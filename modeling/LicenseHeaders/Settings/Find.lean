import LicenseHeaders.Settings.Basic
import LicenseHeaders.Text.Occurrence

/-!
# Finding settings

`Settings.find` looks for the nearest file with settings: in a directory, in the one above it,
and so on up to the root. In each of them a file of settings comes before a project file, and a
project file counts only if it mentions this program among the tools.
-/

set_option autoImplicit false
set_option relaxedAutoImplicit false

namespace LicenseHeaders.Settings

open Text

/-- Whether a value under the key of tools mentions this program: as an entry, as a member, or
within a text. -/
def mentionsProgram : Toml.Value → Except Fault Bool
  | .table tools => .ok (Toml.Table.contains tools tableKey)
  | .array items => .ok (items.any fun item ↦ item.text? == some tableKey)
  | .text content => .ok (occursIn tableKey.toList content.toList)
  | _ => .error (.crash .toolNotSearchable)

/-- Whether the content of a project file mentions this program. A malformed one does not. -/
def isOurProject (bytes : Bytes) : Except Fault Bool :=
  match decodeUtf8? bytes with
  | none => .ok false
  | some characters =>
    match Toml.parse characters with
    | .ok entries =>
      match Toml.Table.get? entries toolKey with
      | none => .ok false
      | some tools => mentionsProgram tools
    | .error .malformed => .ok false
    | .error (.numberTooLong digits) => .error (.value (.numberTooLong digits))

/-- Whether a path leads to a file. -/
def isFile (tree : FileTree) (path : Path) : Except Fault Bool :=
  match tree.isFile? path with
  | some answer => .ok answer
  | none => .error (.crash .pathTooLong)

/-- The file with settings in a directory. -/
def findIn (tree : FileTree) (directory : Path.Directory) : Except Fault (Option Path) := do
  let place : Path := { start := .root, names := directory }
  let own := place.child fileName
  if ← isFile tree own then return some own
  let project := place.child projectFileName
  if !(← isFile tree project) then return none
  match tree.read? project with
  | none => return none
  | some bytes => return if ← isOurProject bytes then some project else none

/-- The file with settings in the first of several directories that has one. -/
def findInFirst (tree : FileTree) : List Path.Directory → Except Fault (Option Path)
  | [] => .ok none
  | directory :: rest => do
    match ← findIn tree directory with
    | some path => return some path
    | none => findInFirst tree rest

/-- The nearest file with settings, from a directory upwards. -/
def find (tree : FileTree) (start : Path) : Except Fault (Option Path) :=
  if start.hasNul then .error (.value .nulInPath)
  else findInFirst tree (Path.upwards (start.resolvedNames tree.working))

end LicenseHeaders.Settings
