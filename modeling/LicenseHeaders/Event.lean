/-!
# Events

What is worth telling about while rules are loaded and headers are checked. An `Event` says what
happened; `Event.level`, `Event.logger`, `Event.name` and `Event.fields` say how it is written to
a log.
-/

set_option autoImplicit false
set_option relaxedAutoImplicit false

namespace LicenseHeaders

/-- Something that happened. -/
inductive Event where
  /-- A kind of matcher was plugged in under a name. -/
  | pluginRegistered (name : String)
  /-- A kind of matcher was loaded from an installed package. -/
  | pluginLoaded (name value : String)
  /-- A rule document was read. -/
  | documentLoaded (source format : String) (licenses families matchers : Nat)
  /-- A rule document came too late. -/
  | documentIgnored (sources : List String)
  /-- A tag was bound to a kind of matcher. -/
  | kindRegistered (tag factory source : String)
  /-- The licenses were built. -/
  | licensesBuilt (licenses approved : Nat) (sources : List String)
  /-- A family was approved. -/
  | familyApproved (category : String)
  /-- A header was checked. -/
  | headerAnalysed (source : String) (family : Option String) (approved : Bool)
  /-- Licenses and approval were put together. -/
  | engineBuilt (licenses : Nat) (approved : List String) (defaults : Bool)
  /-- A path to check leads to no file. -/
  | notAFile (path : String)
  /-- A file could not be read. -/
  | fileUnreadable (path reason : String)
  /-- Settings or rules are wrong. -/
  | configurationError (message : String)
deriving DecidableEq, Repr

/-- How important an event is. -/
inductive Level where
  | debug
  | info
  | warning
  | error
deriving DecidableEq, Repr, Ord

namespace Level

/-- The name of a level. -/
def name : Level → String
  | debug => "debug"
  | info => "info"
  | warning => "warning"
  | error => "error"

/-- Whether a level is at least as important as another. -/
def reaches (level least : Level) : Bool :=
  (compare level least).isGE

end Level

/-- The value of a field of an event. -/
inductive Field where
  | text (value : String)
  | number (value : Nat)
  | truth (value : Bool)
  | texts (values : List String)
  | nothing
deriving DecidableEq, Repr

namespace Event

/-- How important an event is. -/
def level : Event → Level
  | documentIgnored _ | notAFile _ | fileUnreadable .. => .warning
  | licensesBuilt .. => .info
  | configurationError _ => .error
  | _ => .debug

/-- The part of the program that an event comes from. -/
def logger : Event → String
  | pluginRegistered _ | pluginLoaded .. => "licensekit.registry"
  | documentLoaded .. => "licensekit.document"
  | documentIgnored _ | kindRegistered .. | licensesBuilt .. => "licensekit.reader"
  | familyApproved _ => "licensekit.policy"
  | headerAnalysed .. => "licensekit.analysis"
  | engineBuilt .. => "licensekit.defaults"
  | notAFile _ | fileUnreadable .. | configurationError _ => "licensekit.cli"

/-- The name of an event. -/
def name : Event → String
  | pluginRegistered _ => "matcher_plugin_registered"
  | pluginLoaded .. => "matcher_plugin_loaded"
  | documentLoaded .. => "rule_document_loaded"
  | documentIgnored _ => "rule_document_ignored"
  | kindRegistered .. => "matcher_kind_registered"
  | licensesBuilt .. => "licenses_built"
  | familyApproved _ => "family_approved"
  | headerAnalysed .. => "header_analysed"
  | engineBuilt .. => "engine_built"
  | notAFile _ => "not_a_file"
  | fileUnreadable .. => "file_unreadable"
  | configurationError _ => "configuration_error"

/-- The fields of an event. -/
def fields : Event → List (String × Field)
  | pluginRegistered name => [("name", .text name)]
  | pluginLoaded name value => [("name", .text name), ("value", .text value)]
  | documentLoaded source format licenses families matchers =>
    [("source", .text source), ("format", .text format), ("licenses", .number licenses),
     ("families", .number families), ("matchers", .number matchers)]
  | documentIgnored sources =>
    [("sources", .texts sources), ("reason", .text "licenses already read")]
  | kindRegistered tag factory source =>
    [("tag", .text tag), ("factory", .text factory), ("source", .text source)]
  | licensesBuilt licenses approved sources =>
    [("licenses", .number licenses), ("approved", .number approved), ("sources", .texts sources)]
  | familyApproved category => [("category", .text category)]
  | headerAnalysed source family approved =>
    [("source", .text source), ("family", (family.map Field.text).getD .nothing),
     ("approved", .truth approved)]
  | engineBuilt licenses approved defaults =>
    [("licenses", .number licenses), ("approved", .texts approved), ("defaults", .truth defaults)]
  | notAFile path => [("path", .text path)]
  | fileUnreadable path reason => [("path", .text path), ("error", .text reason)]
  | configurationError message => [("error", .text message)]

end Event

end LicenseHeaders
