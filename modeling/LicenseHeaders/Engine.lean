import LicenseHeaders.Analysis
import LicenseHeaders.DefaultRules
import LicenseHeaders.Document.Load
import LicenseHeaders.Reader
import LicenseHeaders.Settings.Basic

/-!
# The engine

An `Engine` is what settings amount to once the rules that they name have been read: licenses,
approval, and the number of lines of a file that are read. `Engine.build` puts it together and
`Reader.load` is the step that reads one rule document.
-/

set_option autoImplicit false
set_option relaxedAutoImplicit false

namespace LicenseHeaders

variable [Installation]

namespace Reader

/-- Reads the rule document at a source and adds it. -/
def load (tree : FileTree) (source : Source) : Reading Unit := do
  let (document, event) ← Document.load tree source
  tell [event]
  add document

/-- Reads rule documents in order and adds them. -/
def loadAll (tree : FileTree) : List Source → Reading Unit
  | [] => pure ()
  | source :: rest => do
    load tree source
    loadAll tree rest

end Reader

/-- What settings amount to. -/
structure Engine where
  /-- The licenses in the order of their categories. -/
  licenses : List License
  policy : Policy
  /-- The number of lines of a file that are read. -/
  window : Int

namespace Engine

/-- Puts together what settings amount to. -/
def assemble (tree : FileTree) (settings : Settings) : Reading Engine := do
  if settings.useDefaults then Reader.add defaultRules
  Reader.loadAll tree (settings.rules.map .name)
  let licenses ← Reader.readLicenses
  let (policy, events) := (Policy.ofList (← Reader.approvedCategories)).addAll settings.approve
  Reader.tell events
  Reader.tell [.engineBuilt licenses.length policy.names settings.useDefaults]
  return { licenses, policy, window := settings.window }

/-- The engine of settings, and what happened on the way, with a catalogue of kinds of matchers
that are plugged in. -/
def build (tree : FileTree) (catalogue : Catalogue) (settings : Settings) :
    Except Fault Engine × List Event :=
  let (result, reader) := (assemble tree settings).run.run { catalogue }
  (result, reader.events)

end Engine

end LicenseHeaders
