import LicenseHeaders.Builder.Basic
import LicenseHeaders.Document.Basic
import LicenseHeaders.Proofs.Tables
import LicenseHeaders.Text.Blank

/-!
# The elements of a document

The matchers that a rule document declares are the elements of its licenses: the declarations in
them that are no notes, with all that stands in those. `Node.elements` lists the declarations in a
declaration and the declaration itself, and `Document.elements` those of all licenses. What is said
of an element here is said in terms of what is written in it: its kind, its identifier without
blanks around it, and the identifier that it refers to.

If an attribute is written twice, an element keeps the last value (`Node.last?`).
-/

set_option autoImplicit false
set_option relaxedAutoImplicit false

namespace LicenseHeaders

open Text

namespace Node

/-- Induction over trees of declarations. -/
@[elab_as_elim]
theorem induction {motive : Node → Prop}
    (node : ∀ tag attributes text children source, (∀ child ∈ children, motive child) →
      motive ⟨tag, attributes, text, children, source⟩) : ∀ node, motive node
  | ⟨tag, attributes, text, children, source⟩ =>
    node tag attributes text children source fun child _ ↦ induction node child

/-- Induction over trees of declarations, with the hypothesis for what stands in a declaration. -/
@[elab_as_elim]
theorem induction_children {motive : Node → Prop}
    (step : ∀ node, (∀ child ∈ node.children, motive child) → motive node) (node : Node) :
    motive node := by
  induction node using induction with
  | node tag attributes text children source ih => exact step _ ih

/-! ### Elements -/

mutual

/-- The declarations in a declaration, at any depth, and the declaration itself behind them. -/
def elements : Node → List Node
  | ⟨tag, attributes, text, children, source⟩ =>
    elementsOfEach children ++ [⟨tag, attributes, text, children, source⟩]

/-- The declarations in several declarations and those themselves. -/
def elementsOfEach : List Node → List Node
  | [] => []
  | node :: rest => node.elements ++ elementsOfEach rest

end

theorem elementsOfEach_eq_flatMap (nodes : List Node) :
    elementsOfEach nodes = nodes.flatMap elements := by
  induction nodes with
  | nil => rfl
  | cons node rest ih => rw [elementsOfEach, ih, List.flatMap_cons]

theorem elements_eq (node : Node) : node.elements = node.children.flatMap elements ++ [node] := by
  obtain ⟨tag, attributes, text, children, source⟩ := node
  rw [elements, elementsOfEach_eq_flatMap]

theorem mem_elements_self (node : Node) : node ∈ node.elements := by
  rw [elements_eq]
  exact List.mem_append_right _ (List.mem_singleton_self node)

theorem mem_elements_of_child {node child : Node} (hchild : child ∈ node.children) {inner : Node}
    (hinner : inner ∈ child.elements) : inner ∈ node.elements := by
  rw [elements_eq]
  exact List.mem_append_left _ (List.mem_flatMap.mpr ⟨child, hchild, hinner⟩)

/-- What stands in an element of a declaration is an element of the declaration. -/
theorem child_mem_elements {outer : Node} :
    ∀ node ∈ outer.elements, ∀ child ∈ node.children, child ∈ outer.elements := by
  induction outer using induction with
  | node tag attributes text children source ih =>
    intro node hnode child hchild
    rw [elements_eq, List.mem_append, List.mem_flatMap, List.mem_singleton] at hnode
    rcases hnode with ⟨inner, hinner, hnode⟩ | rfl
    · exact mem_elements_of_child hinner (ih inner hinner node hnode child hchild)
    · exact mem_elements_of_child hchild (mem_elements_self child)

/-! ### What is written in an element -/

/-- The value of an attribute, the one that is written last. -/
def last? (node : Node) (name : String) : Option String :=
  node.attributes.reverse.lookup name

theorem get?_eq_lookup (node : Node) (name : String) :
    node.get? name = node.attributes.lookup name :=
  map_find?_eq_lookup node.attributes name

/-- The built-in kind of an element, if its tag is the tag of one. -/
def kind? (node : Node) : Option Kind :=
  Kind.builtIn? node.tag

theorem mem_builtIn_of_kind? {node : Node} {kind : Kind} (hkind : node.kind? = some kind) :
    kind ∈ Kind.builtIn := by
  rw [kind?, Kind.builtIn?] at hkind
  exact List.mem_of_find?_eq_some hkind

/-- The identifier under which an element is declared, without blanks around it. -/
def declaredId? (node : Node) : Option String :=
  (node.last? "id").bind Builder.trimmedId?

/-- The identifier that an element refers to, without blanks around it. -/
def refid (node : Node) : String :=
  trimmed ((node.last? "refid").getD "")

/-- What an element with a copyright notice says of it. -/
def notice (node : Node) : Matcher.Notice :=
  ⟨node.last? "start", node.last? "end", node.last? "owner"⟩

/-- The declarations in a license that are no notes. -/
def roots (node : Node) : List Node :=
  node.children.filter (·.tag != noteTag)

end Node

namespace Document

/-- The elements of the licenses of a document. -/
def elements (document : Document) : List Node :=
  document.licenses.flatMap fun license ↦ license.roots.flatMap Node.elements

theorem root_mem_elements {document : Document} {license root : Node}
    (hlicense : license ∈ document.licenses) (hroot : root ∈ license.roots) :
    root ∈ document.elements :=
  List.mem_flatMap.mpr
    ⟨license, hlicense, List.mem_flatMap.mpr ⟨root, hroot, root.mem_elements_self⟩⟩

theorem child_mem_elements {document : Document} {node child : Node}
    (hnode : node ∈ document.elements) (hchild : child ∈ node.children) :
    child ∈ document.elements := by
  obtain ⟨license, hlicense, hnode⟩ := List.mem_flatMap.mp hnode
  obtain ⟨root, hroot, hnode⟩ := List.mem_flatMap.mp hnode
  exact List.mem_flatMap.mpr ⟨license, hlicense,
    List.mem_flatMap.mpr ⟨root, hroot, Node.child_mem_elements node hnode child hchild⟩⟩

/-- What stands at any depth in an element of a document is an element of it. -/
theorem mem_elements_trans {document : Document} {node : Node} :
    node ∈ document.elements → ∀ inner ∈ node.elements, inner ∈ document.elements := by
  induction node using Node.induction with
  | node tag attributes text children source ih =>
    intro hnode inner hinner
    rw [Node.elements_eq, List.mem_append, List.mem_flatMap, List.mem_singleton] at hinner
    rcases hinner with ⟨child, hchild, hinner⟩ | rfl
    · exact ih child hchild (child_mem_elements hnode hchild) inner hinner
    · exact hnode

end Document

end LicenseHeaders
