import LicenseHeaders.Decimal.Shortest
import LicenseHeaders.Document.Basic
import LicenseHeaders.Fault
import LicenseHeaders.Text.Blank
import LicenseHeaders.Text.WholeNumber
import LicenseHeaders.Toml.Value

/-!
# Rule documents as tables

A rule document may be written in TOML. `Document.ofTable` reads its tables: `licenses` is an
array of tables, `approved` a list of license names and `matchers` an array of tables. A matcher
is a table whose `kind` is its tag, whose `text` is its text and whose `children` are the
matchers in it; all its other keys are attributes. Attributes may be texts, numbers or truth
values.
-/

set_option autoImplicit false
set_option relaxedAutoImplicit false

namespace LicenseHeaders

open Text Toml

/-- Numbers from a ten-thousandth up to 10 ^ 16 are written positionally. -/
def attributeLayout : Decimal.Layout := ⟨-4, 16, 2⟩

/-- The text of a value that is an attribute of the node `tag`. -/
def attributeText (source tag key : String) : Value → Except Fault String
  | .text content => .ok content
  | .boolean value => .ok (if value then "true" else "false")
  | .float number => .ok (attributeLayout.text number)
  | .integer number =>
    if number.natAbs < Nat.pow 10 maxDigits then .ok (toString number)
    else .error (.value .numberTooLongToWrite)
  | .moment | .array _ | .table _ => .error (.of (.attributeNotText key) source tag)

/-- The attributes of the node `tag` that are entries of a table. -/
def attributesOf (source tag : String) (entries : Table) :
    Except Fault (List (String × String)) :=
  entries.mapM fun (key, value) ↦ do return (key, ← attributeText source tag key value)

/-- The entries of a value that must be a table. -/
def tableOf (source what : String) (value : Value) : Except Fault Table :=
  match value.table? with
  | some entries => .ok entries
  | none => .error (.of (.notATable what) source)

namespace Node

/-- The keys of a matcher's table that are no attributes. -/
def matcherKeys : List String := ["kind", "text", "children"]

/-- The matcher that a table declares. The nodes in it are read by `children`, which is given the
tag, after the tag and the text and before the attributes. -/
def ofMatcherTable (source : String) (entries : Table)
    (children : String → Except Fault (List Node)) : Except Fault Node := do
  let kind := ((Table.get? entries "kind").bind Value.text?).getD ""
  if kind.isEmpty then throw (.of .kindMissing source)
  let text ←
    match Table.get? entries "text" with
    | none => pure ""
    | some (.text content) => pure content
    | some _ => throw (.of .textNotString source kind)
  let nodes ← children kind
  let attributes ← attributesOf source kind (entries.filter (!matcherKeys.contains ·.1))
  return { tag := kind, attributes, text := trimmed text, children := nodes, source }

mutual

/-- The matchers in a matcher, which are what the first key `children` of its table holds. -/
def childrenIn (source kind : String) : List (String × Value) → Except Fault (List Node)
  | [] => .ok []
  | (key, value) :: rest =>
    if key == "children" then
      match value with
      | .array items => childNodes source kind items
      | _ => .error (.of .childrenNotList source kind)
    else childrenIn source kind rest

/-- The matchers that the members of an array declare. -/
def childNodes (source kind : String) : List Value → Except Fault (List Node)
  | [] => .ok []
  | .table entries :: rest => do
    let node ← ofMatcherTable source entries fun inner ↦ childrenIn source inner entries
    return node :: (← childNodes source kind rest)
  | _ :: _ => .error (.of (.notATable ("child of " ++ quoted kind)) source)

end

/-- The matcher that a table declares. -/
def ofMatcher (source : String) (entries : Table) : Except Fault Node :=
  ofMatcherTable source entries fun kind ↦ childrenIn source kind entries

/-- The keys of a license's table that are attributes. -/
def licenseAttributes : List String := ["id", "name", "derived_from"]

/-- The notes of a license: one text or several. -/
def notesOf (source : String) (entries : Table) : Except Fault (List String) :=
  match Table.get? entries "notes" with
  | none => .ok []
  | some (.text note) => .ok [note]
  | some value =>
    match value.texts? with
    | some notes => .ok notes
    | none => .error (.of .notesNotText source licenseTag)

/-- The license that a table declares. -/
def ofLicense (source : String) (entries : Table) : Except Fault Node := do
  let attributes ← attributesOf source licenseTag <| licenseAttributes.filterMap fun key ↦
    (Table.get? entries key).map fun value ↦ (key, value)
  let unknown := (Table.keys entries).filter
    (!(licenseAttributes ++ ["notes", "matcher"]).contains ·)
  if !unknown.isEmpty then
    throw (.of (.licenseKeysUnsupported (sorted unknown)) source licenseTag)
  let notes ← notesOf source entries
  let matcher ←
    match Table.get? entries "matcher" with
    | none => pure []
    | some value => do pure [← ofMatcher source (← tableOf source "license matcher" value)]
  let noteNodes := notes.map fun note ↦ { tag := noteTag, text := trimmed note, source : Node }
  return { tag := licenseTag, attributes, children := noteNodes ++ matcher, source }

/-- The approved family that names a license. -/
def ofApproved (source name : String) : Node :=
  { tag := familyTag, attributes := [("license_ref", name)], source }

/-- The kind of matcher that a table declares. -/
def ofMatcherKind (source : String) (entries : Table) : Except Fault Node := do
  return { tag := matcherTag, attributes := ← attributesOf source matcherTag entries, source }

end Node

/-- The members of an array that a key of a document holds; a missing key holds none. -/
def membersOf {α : Type} (source key : String) (cause : Cause)
    (read : Value → Option (List α)) (entries : Table) : Except Fault (List α) :=
  match Table.get? entries key with
  | none => .ok []
  | some value =>
    match read value with
    | some members => .ok members
    | none => .error (.of cause source)

/-- The rule document that tables declare. -/
def Document.ofTable (source : String) (entries : Table) : Except Fault Document := do
  let licenses ← membersOf source "licenses" .licensesNotTables Value.array? entries
  let approved ← membersOf source "approved" .approvedNotTexts Value.texts? entries
  let matchers ← membersOf source "matchers" .matchersNotTables Value.array? entries
  let licenses ← licenses.mapM fun value ↦ do
    Node.ofLicense source (← tableOf source "license entry" value)
  let matchers ← matchers.mapM fun value ↦ do
    Node.ofMatcherKind source (← tableOf source "matcher entry" value)
  let families := approved.map (Node.ofApproved source)
  return { licenses, families, matchers, sources := [source] }

end LicenseHeaders
