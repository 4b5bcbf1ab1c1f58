import LicenseHeaders.License
import LicenseHeaders.Proofs.Document.Elements

/-!
# Well-formed documents

What a document without declarations of kinds has to satisfy, in terms of what is written in it.
`Node.WellFormed` is what an element has to satisfy by itself and `Node.HoldsLicense` what the
declaration of a license has to; `Document.WellFormed` adds what the declarations have to satisfy
together. Nothing here speaks of builders or of the order in which anything is read.
-/

set_option autoImplicit false
set_option relaxedAutoImplicit false

namespace LicenseHeaders

open Text

namespace Node

/-! ### Elements -/

/-- The kind of an element. One without a built-in kind counts as one that leaves open how it is
built. -/
def kind (node : Node) : Kind :=
  node.kind?.getD .base

theorem kind_eq {node : Node} {kind : Kind} (hkind : node.kind? = some kind) :
    node.kind = kind := by
  rw [Node.kind, hkind, Option.getD_some]

/-- An element can be read: it has a built-in kind, only attributes that the kind accepts, and
nothing in it unless the kind holds matchers. -/
structure Readable (node : Node) : Prop where
  kind : node.kind?.isSome = true
  options : ∀ name ∈ node.names, name ∈ node.kind.options
  children : node.kind.hasMembers = false → node.children = []

/-- What an element of a kind must hold: a text in which there is something to look for, a notice
with valid patterns, the name of a license identifier, members as many as its kind combines, or the
identifier of what it refers to. -/
def Holds [CharacterNames] (node : Node) : Kind → Prop
  | .text => trimmed node.text ≠ "" ∧
      ((trimmed node.text).toList.any isBlank = true →
        Matcher.prune (trimmed node.text).toList ≠ [])
  | .copyright => ∀ text ∈ node.notice.patternTexts,
      ∃ pattern, Regex.Pattern.parse Matcher.Notice.flags text = .ok pattern
  | .spdx => isAllBlank ((node.last? "name").getD "") = false
  | .all | .any => node.children ≠ []
  | .negation => node.children.length = 1
  | .reference => node.refid ≠ ""
  | _ => False

/-- An element is well-formed by itself. -/
structure WellFormed [CharacterNames] (node : Node) : Prop extends Readable node where
  holds : node.Holds node.kind

/-- An element refers to an identifier. -/
def RefersTo (node : Node) (id : String) : Prop :=
  node.kind? = some .reference ∧ node.refid = id

/-! ### Declarations that are no matchers -/

/-- The declaration of a license can be read: it has only attributes of a license, and one
declaration in it is no note. -/
structure HoldsLicense (node : Node) : Prop where
  options : ∀ name ∈ node.names, name ∈ ["id", "name", "derived_from"]
  root : ∃ root, node.roots = [root]

/-- The category of a license, without blanks around it. -/
def category? (node : Node) : Option String :=
  unlessBlank (node.get? "id")

/-- The name of a license, without blanks around it. -/
def name? (node : Node) : Option String :=
  unlessBlank (node.get? "name")

/-- The declaration of an approved family has no other attribute than the category that it approves,
which is one of the given ones. -/
structure Approves (categories : List String) (node : Node) : Prop where
  options : ∀ name ∈ node.names, name ∈ ["license_ref"]
  category : ∃ category ∈ categories, unlessBlank (node.get? "license_ref") = some category

end Node

namespace Document

/-- The identifiers under which elements are declared. -/
def ids (document : Document) : List String :=
  document.elements.filterMap Node.declaredId?

/-- The categories of the licenses. -/
def categories (document : Document) : List String :=
  document.licenses.filterMap Node.category?

/-- The element of the first identifier is itself a reference to the second one, or has inside it
the element of the second one or a reference to that. -/
def Needs (document : Document) (first second : String) : Prop :=
  ∃ element ∈ document.elements, element.declaredId? = some first ∧
    (element.RefersTo second ∨ ∃ inner ∈ element.children.flatMap Node.elements,
      inner.declaredId? = some second ∨ inner.RefersTo second)

/-- A document is well-formed. -/
structure WellFormed [CharacterNames] (document : Document) : Prop where
  licenses : ∀ license ∈ document.licenses, license.HoldsLicense
  categories : ∀ license ∈ document.licenses, license.category?.isSome = true
  names : ∀ license ∈ document.licenses, license.name?.isSome = true
  elements : ∀ element ∈ document.elements, element.WellFormed
  ids : document.ids.Nodup
  references : ∀ element ∈ document.elements, ∀ id, element.RefersTo id → id ∈ document.ids
  acyclic : ∀ id, ¬Relation.TransGen document.Needs id id
  distinct : document.categories.Nodup
  families : ∀ family ∈ document.families, family.Approves document.categories

end Document

end LicenseHeaders
