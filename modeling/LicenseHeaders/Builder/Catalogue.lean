import LicenseHeaders.Builder.Basic
import LicenseHeaders.Event

/-!
# Where kinds of matchers come from

A `Catalogue` knows the kinds of matchers by name: the built-in ones, those plugged in by the
program, and those that installed packages offer as entry points. A name is never bound to
another kind. A `KindTable` binds tags to kinds for one set of rules.
-/

set_option autoImplicit false
set_option relaxedAutoImplicit false

namespace LicenseHeaders

/-- A kind that an installed package offers under a name, or the reason why it cannot be had. -/
structure EntryPoint where
  name : String
  value : String := ""
  factory : Except String Kind

/-- The kinds of matchers by name. -/
structure Catalogue where
  /-- The kinds that were plugged in, or loaded when they were asked for. -/
  plugins : List (String × Kind) := []
  /-- What installed packages offer. -/
  entryPoints : List EntryPoint := []

namespace Catalogue

/-- Plugs in a kind under a name, which must not mean another kind. -/
def register (catalogue : Catalogue) (name : String) (kind : Kind) :
    Except Fault Catalogue × List Event :=
  let known := (catalogue.plugins.lookup name).orElse fun _ ↦ Kind.builtIn? name
  match known with
  | some other =>
    if other = kind then (.ok catalogue, [.pluginRegistered name])
    else (.error (.of (.pluginTaken name)), [])
  | none =>
    (.ok { catalogue with plugins := (name, kind) :: catalogue.plugins }, [.pluginRegistered name])

/-- The kind that goes by a name. One that an installed package offers is loaded, and is known
from then on. -/
def lookup (catalogue : Catalogue) (name : String) :
    Except Fault (Kind × Catalogue) × List Event :=
  match (Kind.builtIn? name).orElse fun _ ↦ catalogue.plugins.lookup name with
  | some kind => (.ok (kind, catalogue), [])
  | none =>
    match catalogue.entryPoints.find? fun entry ↦ entry.name == name with
    | none => (.error (.of (.pluginUnknown name)), [])
    | some entry =>
      match entry.factory with
      | .error reason => (.error (.of (.pluginNotImported name reason)), [])
      | .ok kind =>
        (.ok (kind, { catalogue with plugins := (name, kind) :: catalogue.plugins }),
          [.pluginLoaded name entry.value])

end Catalogue

/-- The kinds that tags are bound to. -/
abbrev KindTable := List (String × Kind)

namespace KindTable

/-- The built-in kinds under their own tags. -/
def builtIn : KindTable :=
  Kind.builtIn.map fun kind ↦ (kind.tag, kind)

/-- Binds a tag to a kind. A tag that is bound to another kind stays so. -/
def register (table : KindTable) (tag : String) (kind : Kind) : Except Fault KindTable :=
  match table.lookup tag with
  | none => .ok (table ++ [(tag, kind)])
  | some other => if other = kind then .ok table else .error (.of (.tagTaken tag) "" tag)

/-- The tags in order. -/
def tags (table : KindTable) : List String :=
  sorted (table.map (·.1))

/-- A builder for a tag. -/
def builderFor (table : KindTable) (tag source : String) : Except Fault Builder :=
  match table.lookup tag with
  | some kind => .ok (.ofKind kind)
  | none => .error (.of (.tagUnknown table.tags) source tag)

end KindTable

end LicenseHeaders
