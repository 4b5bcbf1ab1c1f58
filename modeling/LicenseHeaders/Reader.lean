import LicenseHeaders.Builder.Catalogue
import LicenseHeaders.Builder.Identifiers
import LicenseHeaders.Document.Basic
import LicenseHeaders.License

/-!
# Reading rules

A `Reader` collects rule documents and builds the licenses that they declare. It works in three
passes over the documents: the declared kinds of matchers are bound to tags, the licenses are
turned into builders and built, and the approved families are looked up. The result is built
once; a document that is added after that is ignored. What a pass has done before it fails is
kept, so `Reading` carries the reader along with the fault.
-/

set_option autoImplicit false
set_option relaxedAutoImplicit false

namespace LicenseHeaders

open Text

variable [Installation]

/-- A collection of rule documents and what has been made of them. -/
structure Reader where
  /-- The kinds that documents may name. -/
  catalogue : Catalogue := {}
  /-- The kinds that tags are bound to. -/
  kinds : KindTable := KindTable.builtIn
  /-- The identified matchers. -/
  identifiers : Identifiers := {}
  /-- The documents so far; none once the licenses and the approved families have been read. -/
  document : Option Document := some {}
  /-- The licenses, once they have been built. -/
  licenses : Option (List License) := none
  /-- The approved categories, once they have been read. -/
  approved : Option (List String) := none
  /-- How many declarations of kinds have been read. -/
  kindsRead : Nat := 0
  /-- What has happened, in order. -/
  events : List Event := []

/-- A step of a reader. Its effects are kept if it fails. -/
abbrev Reading := ExceptT Fault (StateM Reader)

namespace Reader

/-- The names of attributes that a declaration has and must not have, in order. -/
def unsupported (node : Node) (supported : List String) : List String :=
  sorted ((node.names.filter (!supported.contains ·)).eraseDups)

/-- Refuses attributes that a declaration must not have. -/
def checkAttributes (node : Node) (supported : List String) : Except Fault Unit :=
  let unknown := unsupported node supported
  if unknown.isEmpty then .ok ()
  else .error (.of (.attributesUnsupported unknown) node.source node.tag)

/-- A required attribute without blanks at its ends. -/
def required (node : Node) (name : String) (cause : Cause) : Except Fault String :=
  match unlessBlank (node.get? name) with
  | some value => .ok value
  | none => .error (.of cause node.source node.tag)

/-- Notes that something happened. -/
def tell (events : List Event) : Reading Unit :=
  modify fun reader ↦ { reader with events := reader.events ++ events }

/-- Adds a document. It is ignored once the licenses and the approved families have been read. -/
def add (document : Document) : Reading Unit := do
  match (← get).document with
  | none => tell [.documentIgnored document.sources]
  | some before => modify fun reader ↦ { reader with document := some (before.merge document) }

/-! ### Kinds of matchers -/

/-- The kind that goes by a name, for a declaration. -/
def kindNamed (node : Node) (name : String) : Reading Kind := do
  let (result, events) := (← get).catalogue.lookup name
  tell events
  match result with
  | .ok (kind, catalogue) =>
    modify fun reader ↦ { reader with catalogue }
    return kind
  | .error (.configuration error) => throw (.of error.cause node.source node.tag)
  | .error fault => throw fault

/-- Binds tags to the kind of a name. -/
def bindTags (node : Node) (name : String) (kind : Kind) : List String → Reading Unit
  | [] => pure ()
  | tag :: rest => do
    let kinds ← (← get).kinds.register tag kind
    modify fun reader ↦ { reader with kinds }
    tell [.kindRegistered tag name node.source]
    bindTags node name kind rest

/-- Reads the declaration of a kind: it is bound to its own name and to the name that it is given
beside. -/
def readKind (node : Node) : Reading Unit := do
  checkAttributes node ["factory", "name"]
  let name ← required node "factory" .factoryMissing
  let kind ← kindNamed node name
  let alias? := (unlessBlank (node.get? "name")).filter (· != name)
  bindTags node name kind (name :: alias?.toList)

/-- Reads declarations of kinds in order. -/
def readEachKind : List Node → Reading Unit
  | [] => pure ()
  | node :: rest => do
    readKind node
    readEachKind rest

/-- Reads the declarations of kinds that have not been read. If one fails, all of them will be
read again. -/
def readKinds : Reading Unit := do
  let reader ← get
  match reader.document with
  | none => pure ()
  | some document =>
    let pending := document.matchers.drop reader.kindsRead
    readEachKind pending
    modify fun reader ↦ { reader with kindsRead := reader.kindsRead + pending.length }

/-! ### Matchers and licenses -/

/-- Declares a builder under its identifier. -/
def declare (source : String) (builder : Builder) : Reading Builder := do
  let (builder, identifiers) ← (← get).identifiers.declare source builder
  modify fun reader ↦ { reader with identifiers }
  return builder

/-- A builder that has its members, with the text and the means to resolve that its kind asks
for. -/
def completed (node : Node) (builder : Builder) : Builder :=
  let builder := if builder.kind.hasText then builder.setText (trimmed node.text) else builder
  if builder.kind = .reference then builder.allowResolving else builder

mutual

/-- Reads the declaration of a matcher. -/
def readMatcher : Node → Reading Builder
  | ⟨tag, attributes, text, children, source⟩ => do
    let builder ← (← get).kinds.builderFor tag source
    let builder ← builder.configure tag source attributes
    let builder ←
      if builder.kind.hasMembers then do
        let members ← readMatchers children
        pure (builder.addMembers members)
      else if children.isEmpty then pure builder
      else throw (.of .membersRefused source tag)
    declare source (completed ⟨tag, attributes, text, children, source⟩ builder)

/-- Reads declarations of matchers in order. -/
def readMatchers : List Node → Reading (List Builder)
  | [] => pure []
  | node :: rest => do
    let builder ← readMatcher node
    return builder :: (← readMatchers rest)

end

/-- Reads the declaration of a license. It holds notes and one matcher. -/
def readLicense (node : Node) : Reading LicenseDraft := do
  checkAttributes node ["id", "name", "derived_from"]
  let notes := (node.children.filter (·.tag == noteTag)).map (·.text)
  match node.children.filter (·.tag != noteTag) with
  | [root] =>
    let builder ← readMatcher root
    let draft : LicenseDraft :=
      { category := node.get? "id", name := node.get? "name", root := some (.builder builder) }
    return (draft.setDerivedFrom (node.get? "derived_from")).setNotes
      (some (String.intercalate "\n" notes))
  | roots => throw (.of (.notOneMatcher (node.get? "id") roots.length) node.source node.tag)

/-- Reads declarations of licenses in order. -/
def readEachLicense : List Node → Reading (List (Node × LicenseDraft))
  | [] => pure []
  | node :: rest => do
    let draft ← readLicense node
    return (node, draft) :: (← readEachLicense rest)

/-- Runs a step of building. -/
def building {α : Type} (step : Building α) : Reading α := do
  let (result, identifiers) := (← get).identifiers.run step
  modify fun reader ↦ { reader with identifiers }
  result

/-- A fault of a license that is being built. One without a document gets that of the license. -/
def locatedAt (node : Node) : Fault → Fault
  | .configuration error =>
    if error.source.isEmpty then .of error.cause node.source error.node
    else .configuration error
  | fault => fault

/-- Builds licenses in order, behind those that have been built. No two have the same category. -/
def buildLicenses (before : List License) :
    List (Node × LicenseDraft) → Reading (List License)
  | [] => pure before
  | (node, draft) :: rest => do
    let resolve := (← get).identifiers.resolving
    let license ← tryCatch (building (draft.build resolve)) fun fault ↦
      throw (locatedAt node fault)
    if before.any (·.id == license.id) then
      throw (.of (.licenseTaken license.id) node.source node.tag)
    else buildLicenses (before ++ [license]) rest

/-! ### Approved families -/

/-- Reads the declaration of an approved family, which names a license. -/
def readFamily (categories : List String) (node : Node) : Except Fault String := do
  checkAttributes node ["license_ref"]
  let category ← required node "license_ref" .licenseReferenceMissing
  if categories.contains category then return category
  else throw (.of (.licenseUnknown category) node.source node.tag)

/-- The approved categories in order. Where no family is declared, every license is approved. -/
def readFamilies (nodes : List Node) (categories : List String) : Except Fault (List String) :=
  if nodes.isEmpty then .ok (sorted categories)
  else do
    let approved ← nodes.mapM (readFamily categories)
    return sorted approved.eraseDups

/-! ### Results -/

/-- The licenses in the order of their categories. They are built when they are first asked
for. -/
def readLicenses : Reading (List License) := do
  match (← get).licenses with
  | some licenses => return licenses
  | none =>
    readKinds
    let document := (← get).document.getD {}
    let drafts ← readEachLicense document.licenses
    let built ← buildLicenses [] drafts
    let licenses := License.sort built
    modify fun reader ↦ { reader with licenses := some licenses }
    let approved ← readFamilies document.families (built.map (·.id))
    modify fun reader ↦ { reader with approved := some approved, document := none }
    tell [.licensesBuilt licenses.length approved.length document.sources]
    return licenses

/-- The approved categories in order. If they have not been read, the licenses are read first; an
empty list stands for categories that are still not there after that. -/
def approvedCategories : Reading (List String) := do
  if (← get).approved.isNone then
    let _ ← readLicenses
  return (← get).approved.getD []

/-- Takes over what happened to the matchers of a license. -/
def renew (reader : Reader) (table : List (String × Matcher)) : Reader :=
  { reader with
    identifiers := reader.identifiers.renew table
    licenses := reader.licenses.map fun licenses ↦ licenses.map (·.renew table) }

end Reader

end LicenseHeaders
