import LicenseHeaders.Proofs.Document.Elements
import LicenseHeaders.Proofs.Matcher.Feeding

/-!
# The meaning of elements

What an element of a document says of the lines of a header, read off the document. `and`, `or` and
`not` are the Boolean connectives over the elements in them. A reference says what an element that
is declared under the identifier says, wherever in the document that element stands. A leaf is true
if a matcher that is made of what is written in it, and stands alone, holds at the end once it has
been read every line.

`Document.Means` is a relation between elements and truth values, so it says nothing of a document
in which references lead in a circle.
-/

set_option autoImplicit false
set_option relaxedAutoImplicit false

namespace LicenseHeaders

open Text

variable [CharacterNames]

/-- The matcher that is made of what is written in a leaf of a kind, with an identifier. -/
def Node.leaf? (node : Node) (id : Option String) : Kind → Option Matcher
  | .text => (Matcher.ofText (trimmed node.text) id).toOption
  | .copyright => (Matcher.ofNotice node.notice id).toOption
  | .spdx => (Matcher.ofIdentifier ((node.last? "name").getD "") id).toOption
  | _ => none

namespace Document

/-- The truth value of an element on the lines of a header. -/
inductive Means (document : Document) (lines : List (List Char)) : Node → Bool → Prop
  /-- The matcher of a leaf stands alone: it has no identifier, and it is read every line. -/
  | leaf {node : Node} {kind : Kind} {matcher : Matcher} {truth : Bool}
      (hkind : node.kind? = some kind) (hmatcher : node.leaf? none kind = some matcher)
      (hverdict : (matcher.feedLines lines).finish.1 = .ofBool truth) :
      Means document lines node truth
  | all {node : Node} {truths : List Bool} (hkind : node.kind? = some .all)
      (hchildren : List.Forall₂ (Means document lines) node.children truths) :
      Means document lines node (truths.all id)
  | any {node : Node} {truths : List Bool} (hkind : node.kind? = some .any)
      (hchildren : List.Forall₂ (Means document lines) node.children truths) :
      Means document lines node (truths.any id)
  | negation {node child : Node} {truth : Bool} (hkind : node.kind? = some .negation)
      (hchildren : node.children = [child]) (hchild : Means document lines child truth) :
      Means document lines node !truth
  /-- A reference says what the element that it refers to says. -/
  | reference {node element : Node} {truth : Bool} (hkind : node.kind? = some .reference)
      (helement : element ∈ document.elements) (hid : element.declaredId? = some node.refid)
      (hmeans : Means document lines element truth) : Means document lines node truth

section Means

variable {document : Document} {lines : List (List Char)} {node : Node} {truth : Bool}

theorem means_leaf_iff {kind : Kind} (hkind : node.kind? = some kind) {id : Option String}
    (hleaf : (node.leaf? id kind).isSome = true) :
    document.Means lines node truth ↔ ∃ matcher, node.leaf? none kind = some matcher ∧
      (matcher.feedLines lines).finish.1 = .ofBool truth := by
  constructor
  · intro hmeans
    cases hmeans with
    | leaf hkind' hmatcher hverdict =>
      cases hkind.symm.trans hkind'
      exact ⟨_, hmatcher, hverdict⟩
    | _ hkind' =>
      cases hkind.symm.trans hkind'
      cases hleaf
  · rintro ⟨matcher, hmatcher, hverdict⟩
    exact .leaf hkind hmatcher hverdict

theorem means_all_iff (hkind : node.kind? = some .all) :
    document.Means lines node truth ↔
      ∃ truths, List.Forall₂ (document.Means lines) node.children truths ∧
        truth = truths.all id := by
  constructor
  · intro hmeans
    cases hmeans with
    | leaf hkind' hmatcher =>
      cases hkind.symm.trans hkind'
      cases hmatcher
    | all _ hchildren => exact ⟨_, hchildren, rfl⟩
    | _ hkind' => cases hkind.symm.trans hkind'
  · rintro ⟨truths, hchildren, rfl⟩
    exact .all hkind hchildren

theorem means_any_iff (hkind : node.kind? = some .any) :
    document.Means lines node truth ↔
      ∃ truths, List.Forall₂ (document.Means lines) node.children truths ∧
        truth = truths.any id := by
  constructor
  · intro hmeans
    cases hmeans with
    | leaf hkind' hmatcher =>
      cases hkind.symm.trans hkind'
      cases hmatcher
    | any _ hchildren => exact ⟨_, hchildren, rfl⟩
    | _ hkind' => cases hkind.symm.trans hkind'
  · rintro ⟨truths, hchildren, rfl⟩
    exact .any hkind hchildren

theorem means_negation_iff (hkind : node.kind? = some .negation) {child : Node}
    (hchildren : node.children = [child]) :
    document.Means lines node truth ↔ document.Means lines child !truth := by
  constructor
  · intro hmeans
    cases hmeans with
    | leaf hkind' hmatcher =>
      cases hkind.symm.trans hkind'
      cases hmatcher
    | negation _ hchildren' hchild =>
      cases hchildren.symm.trans hchildren'
      rwa [Bool.not_not]
    | _ hkind' => cases hkind.symm.trans hkind'
  · intro hchild
    rw [← Bool.not_not truth]
    exact .negation hkind hchildren hchild

theorem means_reference_iff (hkind : node.kind? = some .reference) :
    document.Means lines node truth ↔
      ∃ element ∈ document.elements, element.declaredId? = some node.refid ∧
        document.Means lines element truth := by
  constructor
  · intro hmeans
    cases hmeans with
    | leaf hkind' hmatcher =>
      cases hkind.symm.trans hkind'
      cases hmatcher
    | reference _ helement hid hmeans => exact ⟨_, helement, hid, hmeans⟩
    | _ hkind' => cases hkind.symm.trans hkind'
  · rintro ⟨element, helement, hid, hmeans⟩
    exact .reference hkind helement hid hmeans

end Means

end Document

end LicenseHeaders
