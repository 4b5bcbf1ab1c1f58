import LicenseHeaders.Address.Basic
import LicenseHeaders.Analysis
import LicenseHeaders.Document.Parse
import LicenseHeaders.FileTree

/-!
# Settings

`Settings` say which rule documents are read, whether the default rules are among them, which
further families are approved and how many lines of a file are read. `Settings.load` reads them
from a file, either from the whole of it or, in a project file, from the table that belongs to
this program.
-/

set_option autoImplicit false
set_option relaxedAutoImplicit false

namespace LicenseHeaders

open Text

/-- What is read and how it is judged. -/
structure Settings where
  /-- The names of rule documents, in the order in which they are read. -/
  rules : List String := []
  /-- Whether the default rules come first. -/
  useDefaults : Bool := true
  /-- The categories that are approved beyond what the rules approve. -/
  approve : List String := []
  /-- The number of lines of a file that are read. -/
  window : Int := defaultWindow
  /-- The file that the settings were read from. -/
  path : Option Path := none
deriving DecidableEq, Repr, Inhabited

namespace Settings

/-- The name of a file of settings. -/
def fileName : String := "licensekit.toml"

/-- The name of a project file, which may hold settings among other things. -/
def projectFileName : String := "pyproject.toml"

/-- The key of the tables of tools in a project file. -/
def toolKey : String := "tool"

/-- The key of this program's table among those of tools. -/
def tableKey : String := "licensekit"

/-- The names of the settings. -/
def names : List String :=
  ["rules", "use_defaults", "approve", "header_lines"]

/-- The name of a rule document as seen from a directory. Addresses stay what they are. -/
def ruleFrom (directory : Path) (rule : String) : String :=
  if Address.isAddress rule then rule else (directory.join (.ofText rule)).text

/-- The value of a setting that is true or false. -/
def truth? : Toml.Value → Option Bool
  | .boolean value => some value
  | _ => none

/-- The value of a setting that is a positive whole number. -/
def positive? : Toml.Value → Option Int
  | .integer number => if number < 1 then none else some number
  | _ => none

/-- The value of a setting, which has to be of a certain form. -/
def setting {α : Type} (table : Toml.Table) (key : String) (default : α)
    (read : Toml.Value → Option α) (refusal : Fault) : Except Fault α :=
  match table.get? key with
  | none => .ok default
  | some value =>
    match read value with
    | some value => .ok value
    | none => .error refusal

/-- The settings that a table of a file states. -/
def ofTable (table : Toml.Table) (path : Path) : Except Fault Settings := do
  let refuse (cause : Cause) : Fault := .of cause path.text
  let unknown := sorted (table.keys.filter (!names.contains ·))
  if !unknown.isEmpty then throw (refuse (.settingsUnknown unknown))
  let useDefaults ← setting table "use_defaults" true truth? (refuse .defaultsNotBoolean)
  let window ← setting table "header_lines" (defaultWindow : Int) positive?
    (refuse .windowNotPositive)
  let rules ← setting table "rules" [] Toml.Value.texts? (refuse (.settingNotTexts "rules"))
  let approve ← setting table "approve" [] Toml.Value.texts?
    (refuse (.settingNotTexts "approve"))
  return { rules := rules.map (ruleFrom path.parent), useDefaults, approve, window, path }

/-- The settings of a project file. If it has none, the settings are those that hold without a
file. -/
def ofProject (entries : Toml.Table) (path : Path) : Except Fault Settings :=
  match entries.get? toolKey with
  | none => .ok { path }
  | some (.table tools) =>
    match Toml.Table.get? tools tableKey with
    | none => .ok { path }
    | some (.table table) => ofTable table path
    | some _ => .error (.of .settingsNotTable path.text)
  | some _ => .error (.crash .toolWithoutEntries)

/-- Reads the settings in a file. -/
def load (tree : FileTree) (path : Path) : Except Fault Settings := do
  if path.hasNul then throw (.value .nulInFile)
  match tree.read? path with
  | none => throw (.of .unreadableSettings path.text)
  | some bytes =>
    match decodeUtf8? bytes with
    | none => throw (.of .settingsNotUtf8 path.text)
    | some characters =>
      let entries ← Document.tomlTable path.text characters
      if path.name = projectFileName then ofProject entries path else ofTable entries path

end Settings

end LicenseHeaders
