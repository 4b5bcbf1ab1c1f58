import LicenseHeaders.Proofs.Document.Agreement
import LicenseHeaders.Document.Tables

/-!
# Rule documents apart from their form

What a rule document says can be written as elements or as tables. `Written.Rules` is what it says,
in neither form, and `Written.Rules.document` is the rule document that is to be read of it. Rules
are `Written.Rules.Proper` if both forms can hold them: the tags of matchers are no tags of other
declarations, no attribute is written twice, and no attribute of a matcher has a name that means
something else in a table.
-/

set_option autoImplicit false
set_option relaxedAutoImplicit false

namespace LicenseHeaders

open Text

/-- The tags that mean something other than a matcher. -/
def reservedTags : List String :=
  [licenseTag, approvedTag, familyTag, matchersTag, matcherTag, noteTag]

namespace Written

/-- A matcher and the matchers in it. -/
structure Matcher where
  tag : String
  attributes : List (String × String) := []
  text : String := ""
  members : List Matcher := []

/-- A license with notes on it and at most one matcher. -/
structure License where
  id : Option String := none
  name : Option String := none
  derivedFrom : Option String := none
  notes : List String := []
  matcher : Option Matcher := none

/-- What a rule document says: the licenses, the approved categories, and the attributes of each
declaration of a kind of matchers. -/
structure Rules where
  licenses : List License := []
  approved : List String := []
  kinds : List (List (String × String)) := []

/-! ### What is read of them -/

namespace Matcher

mutual

/-- The declaration of a matcher. -/
def node (source : String) : Matcher → Node
  | ⟨tag, attributes, text, members⟩ =>
    { tag, attributes, text := trimmed text, children := nodes source members, source }

/-- The declarations of several matchers. -/
def nodes (source : String) : List Matcher → List Node
  | [] => []
  | matcher :: rest => matcher.node source :: nodes source rest

end

theorem nodes_eq_map (source : String) (matchers : List Matcher) :
    nodes source matchers = matchers.map (node source) := by
  induction matchers with
  | nil => rfl
  | cons matcher rest ih => rw [nodes, ih, List.map_cons]

theorem node_eq (source : String) (matcher : Matcher) :
    matcher.node source = ⟨matcher.tag, matcher.attributes, trimmed matcher.text,
      matcher.members.map (node source), source⟩ := by
  obtain ⟨tag, attributes, text, members⟩ := matcher
  rw [node, nodes_eq_map]

/-- Induction over matchers, with the hypothesis for the matchers in one. -/
@[elab_as_elim]
theorem induction {motive : Matcher → Prop}
    (step : ∀ matcher, (∀ member ∈ matcher.members, motive member) → motive matcher) :
    ∀ matcher, motive matcher
  | ⟨tag, attributes, text, members⟩ =>
    step ⟨tag, attributes, text, members⟩ fun member _ ↦ induction step member

end Matcher

/-- The declaration of a note. -/
def note (source text : String) : Node :=
  { tag := noteTag, text := trimmed text, source }

namespace License

/-- The attributes of a license. -/
def attributes (license : License) : List (String × String) :=
  (license.id.map fun value ↦ ("id", value)).toList ++
    (license.name.map fun value ↦ ("name", value)).toList ++
    (license.derivedFrom.map fun value ↦ ("derived_from", value)).toList

/-- The declaration of a license. -/
def node (source : String) (license : License) : Node :=
  { tag := licenseTag
    attributes := license.attributes
    children := license.notes.map (note source) ++ license.matcher.toList.map (Matcher.node source)
    source }

theorem nodup_attributes (license : License) : (license.attributes.map (·.1)).Nodup := by
  obtain ⟨id, name, derivedFrom, notes, matcher⟩ := license
  cases id <;> cases name <;> cases derivedFrom <;> simp [attributes]

end License

/-- The declaration of a kind of matchers. -/
def kindNode (source : String) (attributes : List (String × String)) : Node :=
  { tag := matcherTag, attributes, source }

namespace Rules

/-- The rule document that is read of what is written. -/
def document (source : String) (rules : Rules) : Document :=
  { licenses := rules.licenses.map (License.node source)
    families := rules.approved.map (Node.ofApproved source)
    matchers := rules.kinds.map (kindNode source)
    sources := [source] }

/-- What several parts of a document say together. -/
def join (parts : List Rules) : Rules :=
  { licenses := parts.flatMap (·.licenses)
    approved := parts.flatMap (·.approved)
    kinds := parts.flatMap (·.kinds) }

end Rules

/-! ### What both forms can hold -/

/-- A matcher can be written in either form, and so can the matchers in it. -/
inductive Matcher.Proper : Matcher → Prop
  | intro {matcher : Matcher} (htag : matcher.tag ≠ "") (hreserved : matcher.tag ∉ reservedTags)
      (hnodup : (matcher.attributes.map (·.1)).Nodup)
      (hkeys : ∀ name ∈ matcher.attributes.map (·.1), name ∉ Node.matcherKeys)
      (hmembers : ∀ member ∈ matcher.members, Matcher.Proper member) : Matcher.Proper matcher

/-- Rules can be written in either form. -/
structure Rules.Proper (rules : Rules) : Prop where
  matchers : ∀ license ∈ rules.licenses, ∀ matcher ∈ license.matcher, matcher.Proper
  kinds : ∀ attributes ∈ rules.kinds, (attributes.map (·.1)).Nodup

end Written

end LicenseHeaders
