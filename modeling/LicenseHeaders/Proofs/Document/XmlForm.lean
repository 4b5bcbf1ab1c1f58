import LicenseHeaders.Document.Elements
import LicenseHeaders.Proofs.Document.Written
import LicenseHeaders.Xml.Parser

/-!
# Rules as elements

`Xml.Tree` is an element with the text as it stands around the elements in it, and `Tree.element` is
what the reader of XML makes of it. `Written.Rules.WrittenAs` says how rules are written as
elements: there may be blanks around every text and behind every element, and licenses, approved
families and kinds may stand in sections and those in further elements. Whatever the choice, the
document that is read is the one of the rules (`Written.Rules.WrittenAs.agrees`).
-/

set_option autoImplicit false
set_option relaxedAutoImplicit false

namespace LicenseHeaders

open Text

namespace Text

/-- Blanks at the end of a text are trimmed. -/
theorem trim_append_of_blank {text blanks : List Char} (hblanks : blanks.all isBlank = true) :
    trim (text ++ blanks) = trim text := by
  have hall : ∀ c ∈ blanks, isBlank c = true := List.all_eq_true.mp hblanks
  rw [trim, trim, trimStart, trimStart, List.dropWhile_append]
  by_cases hstart : (text.dropWhile isBlank).isEmpty = true
  · have hnone : blanks.dropWhile isBlank = [] := List.dropWhile_eq_nil_iff.mpr hall
    rw [if_pos hstart, hnone, List.isEmpty_iff.mp hstart]
  · rw [if_neg hstart, trimEnd, trimEnd, List.reverse_append, List.dropWhile_append_of_pos]
    intro c hc
    exact hall c (List.mem_reverse.mp hc)

end Text

namespace Xml

/-- An element with the text around the elements in it. -/
structure Tree where
  name : String
  attributes : List (String × String) := []
  /-- The text up to the first element in the element. -/
  text : String := ""
  children : List Tree := []
  /-- The text behind the element. -/
  tail : String := ""

namespace Tree

mutual

/-- The element that the reader makes of a tree. -/
def element : Tree → Element
  | ⟨name, attributes, text, children, _⟩ =>
    let opened : Opened :=
      { written := name.toList, name, attributes, bindings := Bindings.initial }
    (fill children (opened.addText text.toList)).close

/-- Adds elements to one whose end has not been read, each with the text behind it. -/
def fill : List Tree → Opened → Opened
  | [], opened => opened
  | tree :: rest, opened =>
    fill rest ((opened.addChild tree.element).addText tree.tail.toList)

end

theorem fill_eq (trees : List Tree) (opened : Opened) :
    fill trees opened = { opened with
      text := (trees.flatMap (·.tail.toList)).reverse ++ opened.text
      children := (trees.map element).reverse ++ opened.children } := by
  induction trees generalizing opened with
  | nil => rfl
  | cons tree rest ih =>
    rw [fill, ih]
    simp [Opened.addChild, Opened.addText]

/-- The text of an element is what stands in it and behind the elements in it. -/
theorem element_eq (tree : Tree) :
    tree.element =
      { name := tree.name
        attributes := tree.attributes
        text := String.ofList (tree.text.toList ++ tree.children.flatMap (·.tail.toList))
        children := tree.children.map element } := by
  obtain ⟨name, attributes, text, children, tail⟩ := tree
  rw [element, fill_eq]
  simp [Opened.addText, Opened.close]

@[simp] theorem name_element (tree : Tree) : tree.element.name = tree.name := by
  rw [element_eq]

@[simp] theorem children_element (tree : Tree) :
    tree.element.children = tree.children.map element := by
  rw [element_eq]

/-- Induction over trees, with the hypothesis for the trees in one. -/
@[elab_as_elim]
theorem induction {motive : Tree → Prop}
    (step : ∀ tree, (∀ child ∈ tree.children, motive child) → motive tree) :
    ∀ tree, motive tree
  | ⟨name, attributes, text, children, tail⟩ =>
    step ⟨name, attributes, text, children, tail⟩ fun child _ ↦ induction step child

/-- A tree has a name, attributes and a text, and only blanks stand behind the elements in it. -/
structure Is (tree : Tree) (name : String) (attributes : List (String × String)) (text : String) :
    Prop where
  name : tree.name = name
  attributes : attributes.Perm tree.attributes
  text : trimmed tree.text = trimmed text
  tails : ∀ child ∈ tree.children, isAllBlank child.tail = true

/-- Blanks behind the elements in a tree are no part of its text. -/
theorem Is.trimmed_element {tree : Tree} {name text : String} {attributes : List (String × String)}
    (his : tree.Is name attributes text) : trimmed tree.element.text = trimmed text := by
  have hblanks : (tree.children.flatMap (·.tail.toList)).all isBlank = true := by
    rw [List.all_flatMap, List.all_eq_true]
    exact his.tails
  rw [← his.text, element_eq, trimmed, String.toList_ofList, trim_append_of_blank hblanks, trimmed]

/-- A tree is as said and has no elements in it. -/
structure IsLeaf (tree : Tree) (name : String) (attributes : List (String × String))
    (text : String) : Prop extends Is tree name attributes text where
  children : tree.children = []

theorem isLeaf_mk (name : String) (attributes : List (String × String)) (text : String) :
    IsLeaf { name, attributes, text } name attributes text :=
  ⟨⟨rfl, .refl attributes, rfl, nofun⟩, rfl⟩

end Tree

/-! ### Elements by name -/

namespace Element

theorem descendants_eq (element : Element) :
    element.descendants = element :: element.children.flatMap descendants := by
  have heach (elements : List Element) :
      descendantsOfEach elements = elements.flatMap descendants := by
    induction elements with
    | nil => rfl
    | cons element rest ih => rw [descendantsOfEach, ih, List.flatMap_cons]
  obtain ⟨name, attributes, text, children⟩ := element
  rw [descendants, heach]

theorem named_eq (element : Element) (name : String) :
    element.named name = (if element.name = name then [element] else []) ++
      element.children.flatMap (named · name) := by
  rw [named, descendants_eq, List.filter_cons, List.filter_flatMap]
  by_cases hname : element.name = name
  · rw [if_pos (beq_iff_eq.mpr hname), if_pos hname]
    rfl
  · rw [if_neg (mt eq_of_beq hname), if_neg hname]
    rfl

end Element

section Named

variable {tree : Tree} {name tag text : String} {attributes : List (String × String)}

theorem Tree.IsLeaf.named (hleaf : tree.IsLeaf name attributes text) (tag : String) :
    tree.element.named tag = if name = tag then [tree.element] else [] := by
  rw [Element.named_eq, Tree.name_element, Tree.children_element, hleaf.children, hleaf.name,
    List.map_nil, List.flatMap_nil, List.append_nil]

/-- Elements without elements in them are found if they have the name that is looked for. -/
theorem flatMap_named_of_leaves {Value : Type} {attributes : Value → List (String × String)}
    {text : Value → String} {values : List Value} {trees : List Tree}
    (hleaves : List.Forall₂ (fun value tree ↦ tree.IsLeaf name (attributes value) (text value))
      values trees) (tag : String) :
    (trees.map Tree.element).flatMap (Element.named · tag) =
      if name = tag then trees.map Tree.element else [] := by
  induction hleaves with
  | nil => rw [List.map_nil, List.flatMap_nil, ite_self]
  | cons hleaf _ ih =>
    rw [List.map_cons, List.flatMap_cons, ih, hleaf.named]
    split_ifs <;> rfl

end Named

end Xml

/-! ### Rules as elements -/

namespace Written

/-- A matcher is written as a tree. -/
inductive Matcher.WrittenAs : Matcher → Xml.Tree → Prop
  | intro {matcher : Matcher} {tree : Xml.Tree}
      (his : tree.Is matcher.tag matcher.attributes matcher.text)
      (hmembers : List.Forall₂ WrittenAs matcher.members tree.children) : WrittenAs matcher tree

/-- A license is written as a tree: its notes stand before its matcher. -/
structure License.WrittenAs (license : License) (tree : Xml.Tree) : Prop
    extends tree.Is licenseTag license.attributes "" where
  children : ∃ notes roots, tree.children = notes ++ roots ∧
    List.Forall₂ (fun text child ↦ child.IsLeaf noteTag [] text) license.notes notes ∧
    List.Forall₂ Matcher.WrittenAs license.matcher.toList roots

/-- Rules are written as a tree: as a license, as a section of approved families or of kinds, or as
an element in which other trees stand. -/
inductive Rules.WrittenAs : Rules → Xml.Tree → Prop
  | license {license : License} {tree : Xml.Tree} (hlicense : license.WrittenAs tree) :
      WrittenAs { licenses := [license] } tree
  | approved {categories : List String} {tree : Xml.Tree} (hname : tree.name = approvedTag)
      (hfamilies : List.Forall₂
        (fun category child ↦ child.IsLeaf familyTag [("license_ref", category)] "")
        categories tree.children) :
      WrittenAs { approved := categories } tree
  | kinds {kinds : List (List (String × String))} {tree : Xml.Tree}
      (hname : tree.name = matchersTag)
      (hkinds : List.Forall₂ (fun attributes child ↦ child.IsLeaf matcherTag attributes "")
        kinds tree.children) :
      WrittenAs { kinds } tree
  | group {parts : List Rules} {tree : Xml.Tree} (hname : tree.name ∉ reservedTags)
      (hparts : List.Forall₂ WrittenAs parts tree.children) : WrittenAs (Rules.join parts) tree

end Written

namespace Node

theorem ofElements_eq_map (source : String) (elements : List Xml.Element) :
    ofElements source elements = elements.map (ofElement source) := by
  induction elements with
  | nil => rfl
  | cons element rest ih => rw [ofElements, ih, List.map_cons]

theorem ofElement_eq (source : String) (element : Xml.Element) :
    ofElement source element = ⟨element.name, element.attributes, trimmed element.text,
      element.children.map (ofElement source), source⟩ := by
  obtain ⟨name, attributes, text, children⟩ := element
  rw [ofElement, ofElements_eq_map]

/-- What is read of a tree agrees with a declaration of its name, its attributes and its text. -/
theorem agrees_ofElement {tree : Xml.Tree} {name text source : String}
    {attributes : List (String × String)} {nodes : List Node} (his : tree.Is name attributes text)
    (hnodup : (attributes.map (·.1)).Nodup)
    (hchildren : List.Forall₂ (fun node child ↦ node.Agrees (ofElement source child.element)) nodes
      tree.children) :
    Agrees ⟨name, attributes, trimmed text, nodes, source⟩ (ofElement source tree.element) := by
  rw [ofElement_eq, his.trimmed_element, Xml.Tree.element_eq]
  refine .intro his.name (valuesOf_eq_of_perm hnodup his.attributes) rfl rfl ?_
  dsimp only
  rw [List.map_map, List.forall₂_map_right_iff]
  exact hchildren

end Node

theorem Node.agrees_ofElement_leaf {tree : Xml.Tree} {name text source : String}
    {attributes : List (String × String)} (hleaf : tree.IsLeaf name attributes text)
    (hnodup : (attributes.map (·.1)).Nodup) :
    Agrees ⟨name, attributes, trimmed text, [], source⟩ (ofElement source tree.element) := by
  refine agrees_ofElement hleaf.toIs hnodup ?_
  rw [hleaf.children]
  exact .nil

namespace Written

variable {source : String}

theorem Matcher.WrittenAs.agrees {matcher : Matcher} {tree : Xml.Tree} (hproper : matcher.Proper)
    (hwritten : matcher.WrittenAs tree) :
    (matcher.node source).Agrees (Node.ofElement source tree.element) := by
  induction matcher using Matcher.induction generalizing tree with
  | step matcher ih =>
    obtain ⟨his, hmembers⟩ := hwritten
    obtain ⟨_, _, hnodup, _, hproper⟩ := hproper
    rw [node_eq]
    refine Node.agrees_ofElement his hnodup ?_
    rw [List.forall₂_map_left_iff]
    exact forall₂_imp_of_mem (fun member hmember _ ↦ ih member hmember (hproper member hmember))
      hmembers

/-- No declaration of another sort is found in a matcher. -/
theorem Matcher.WrittenAs.named {matcher : Matcher} {tree : Xml.Tree} (hproper : matcher.Proper)
    (hwritten : matcher.WrittenAs tree) {tag : String} (htag : tag ∈ reservedTags) :
    tree.element.named tag = [] := by
  induction matcher using Matcher.induction generalizing tree with
  | step matcher ih =>
    obtain ⟨his, hmembers⟩ := hwritten
    obtain ⟨_, hreserved, _, _, hproper⟩ := hproper
    have hname : ¬tree.element.name = tag := by
      rw [Xml.Tree.name_element, his.name]
      exact fun hsame ↦ hreserved (hsame ▸ htag)
    rw [Xml.Element.named_eq, if_neg hname, List.nil_append, List.flatMap_eq_nil_iff,
      Xml.Tree.children_element, List.forall_mem_map]
    intro child hchild
    obtain ⟨member, hmember, hwritten⟩ := exists_of_mem_of_forall₂ hmembers.flip hchild
    exact ih member hmember (hproper member hmember) hwritten

theorem License.WrittenAs.agrees {license : License} {tree : Xml.Tree}
    (hproper : ∀ matcher ∈ license.matcher, matcher.Proper) (hwritten : license.WrittenAs tree) :
    (license.node source).Agrees (Node.ofElement source tree.element) := by
  obtain ⟨notes, roots, hchildren, hnotes, hroots⟩ := hwritten.children
  refine Node.agrees_ofElement hwritten.toIs license.nodup_attributes ?_
  rw [hchildren]
  refine List.rel_append ?_ ?_
  · rw [List.forall₂_map_left_iff]
    have hnodup : (([] : List (String × String)).map (·.1)).Nodup := List.nodup_nil
    exact hnotes.imp fun text child hleaf ↦ Node.agrees_ofElement_leaf hleaf hnodup
  · rw [List.forall₂_map_left_iff]
    refine forall₂_imp_of_mem (fun matcher hmatcher child hroot ↦ ?_) hroots
    exact hroot.agrees (hproper matcher (Option.mem_toList.mp hmatcher))

/-- The only declaration but notes and matchers that is found in a license is the license itself. -/
theorem License.WrittenAs.named {license : License} {tree : Xml.Tree}
    (hproper : ∀ matcher ∈ license.matcher, matcher.Proper) (hwritten : license.WrittenAs tree)
    {tag : String} (htag : tag ∈ reservedTags) (hnote : noteTag ≠ tag) :
    tree.element.named tag = if licenseTag = tag then [tree.element] else [] := by
  obtain ⟨notes, roots, hchildren, hnotes, hroots⟩ := hwritten.children
  have hroots : (roots.map Xml.Tree.element).flatMap (Xml.Element.named · tag) = [] := by
    rw [List.flatMap_eq_nil_iff, List.forall_mem_map]
    intro child hchild
    obtain ⟨matcher, hmatcher, hroot⟩ := exists_of_mem_of_forall₂ hroots.flip hchild
    exact hroot.named (hproper matcher (Option.mem_toList.mp hmatcher)) htag
  rw [Xml.Element.named_eq, Xml.Tree.name_element, Xml.Tree.children_element, hwritten.name,
    hchildren, List.map_append, List.flatMap_append, Xml.flatMap_named_of_leaves hnotes,
    if_neg hnote, hroots, List.append_nil, List.append_nil]

theorem Rules.Proper.of_mem {parts : List Rules} (hproper : (join parts).Proper) :
    ∀ part ∈ parts, part.Proper := by
  intro part hpart
  constructor
  · intro license hlicense
    exact hproper.matchers license (List.mem_flatMap.mpr ⟨part, hpart, hlicense⟩)
  · intro attributes hattributes
    exact hproper.kinds attributes (List.mem_flatMap.mpr ⟨part, hpart, hattributes⟩)

end Written

/-- Outside of sections of a name, what is declared in an element is declared in the elements in
it. -/
theorem declaredIn_of_ne {source sectionTag tag : String} {root : Xml.Element}
    (hname : root.name ≠ sectionTag) :
    declaredIn source sectionTag tag root =
      root.children.flatMap (declaredIn source sectionTag tag) := by
  rw [declaredIn, Xml.Element.named_eq, if_neg hname, List.nil_append, List.flatMap_assoc]
  rfl

namespace Written

variable {source : String}

section Sections

variable {Value : Type} {tree : Xml.Tree} {sectionTag tag : String}
  {attributes : Value → List (String × String)} {values : List Value}

/-- What is found in a section with declarations of one tag: those, or the section itself. -/
theorem named_section (hname : tree.name = sectionTag)
    (hleaves : List.Forall₂ (fun value child ↦ child.IsLeaf tag (attributes value) "") values
      tree.children) (other : String) :
    tree.element.named other = (if sectionTag = other then [tree.element] else []) ++
      if tag = other then tree.children.map Xml.Tree.element else [] := by
  rw [Xml.Element.named_eq, Xml.Tree.name_element, Xml.Tree.children_element, hname,
    Xml.flatMap_named_of_leaves hleaves]

/-- What is read of a section are the declarations in it. -/
theorem agrees_declaredIn (hname : tree.name = sectionTag) (hdifferent : sectionTag ≠ tag)
    (hnodup : ∀ value ∈ values, ((attributes value).map (·.1)).Nodup)
    (hleaves : List.Forall₂ (fun value child ↦ child.IsLeaf tag (attributes value) "") values
      tree.children) :
    List.Forall₂ Node.Agrees
      (values.map fun value ↦ { tag, attributes := attributes value, source })
      (declaredIn source sectionTag tag tree.element) := by
  rw [declaredIn, named_section hname hleaves, if_pos rfl, if_neg hdifferent.symm, List.append_nil,
    List.flatMap_singleton, named_section hname hleaves, if_neg hdifferent, if_pos rfl,
    List.nil_append, Node.ofElements_eq_map, List.map_map, List.forall₂_map_left_iff,
    List.forall₂_map_right_iff]
  refine forall₂_imp_of_mem (fun value hvalue child hleaf ↦ ?_) hleaves
  exact Node.agrees_ofElement_leaf hleaf (hnodup value hvalue)

end Sections

theorem declaredIn_of_named_nil {sectionTag tag : String} {root : Xml.Element}
    (hnone : root.named sectionTag = []) : declaredIn source sectionTag tag root = [] := by
  rw [declaredIn, hnone, List.flatMap_nil]

/-- A license is all that is declared in its element. -/
theorem License.WrittenAs.agrees_document {license : License} {tree : Xml.Tree}
    (hproper : ∀ matcher ∈ license.matcher, matcher.Proper) (hwritten : license.WrittenAs tree) :
    (Rules.document source { licenses := [license] }).Agrees
      (Document.ofElement source tree.element) := by
  have hnone {tag : String} (htag : tag ∈ reservedTags) (hnote : noteTag ≠ tag)
      (hlicense : licenseTag ≠ tag) : tree.element.named tag = [] := by
    rw [hwritten.named hproper htag hnote, if_neg hlicense]
  constructor
  · show List.Forall₂ _ _ (Node.ofElements source (tree.element.named licenseTag))
    rw [hwritten.named hproper (by decide) (by decide), if_pos rfl]
    exact .cons (hwritten.agrees hproper) .nil
  · show List.Forall₂ _ _ (declaredIn source approvedTag familyTag tree.element)
    rw [declaredIn_of_named_nil (hnone (by decide) (by decide) (by decide))]
    exact .nil
  · show List.Forall₂ _ _ (declaredIn source matchersTag matcherTag tree.element)
    rw [declaredIn_of_named_nil (hnone (by decide) (by decide) (by decide))]
    exact .nil
  · rfl

/-- A document in an element that is no declaration and no section is put together of what the
elements in it declare. -/
theorem agrees_group {parts : List Rules} {tree : Xml.Tree} (hname : tree.name ∉ reservedTags)
    (hparts : List.Forall₂ (fun part child ↦
      (part.document source).Agrees (Document.ofElement source child.element)) parts
        tree.children) :
    ((Rules.join parts).document source).Agrees (Document.ofElement source tree.element) := by
  have hne {tag : String} (htag : tag ∈ reservedTags) : tree.element.name ≠ tag := by
    rw [Xml.Tree.name_element]
    exact fun hsame ↦ hname (hsame ▸ htag)
  constructor
  · show List.Forall₂ _ ((parts.flatMap (·.licenses)).map (License.node source))
      (Node.ofElements source (tree.element.named licenseTag))
    rw [Xml.Element.named_eq, if_neg (hne (by decide)), List.nil_append, Node.ofElements_eq_map,
      List.map_flatMap, List.map_flatMap, Xml.Tree.children_element, List.flatMap_map]
    refine List.rel_flatMap hparts fun part child hpart ↦ ?_
    rw [← Node.ofElements_eq_map]
    exact hpart.licenses
  · show List.Forall₂ _ ((parts.flatMap (·.approved)).map (Node.ofApproved source))
      (declaredIn source approvedTag familyTag tree.element)
    rw [declaredIn_of_ne (hne (by decide)), List.map_flatMap, Xml.Tree.children_element,
      List.flatMap_map]
    exact List.rel_flatMap hparts fun part child hpart ↦ hpart.families
  · show List.Forall₂ _ ((parts.flatMap (·.kinds)).map (kindNode source))
      (declaredIn source matchersTag matcherTag tree.element)
    rw [declaredIn_of_ne (hne (by decide)), List.map_flatMap, Xml.Tree.children_element,
      List.flatMap_map]
    exact List.rel_flatMap hparts fun part child hpart ↦ hpart.matchers
  · rfl

/-- What is read of a tree that is written of rules are the declarations of the rules. -/
theorem Rules.WrittenAs.agrees {rules : Rules} {tree : Xml.Tree} (hproper : rules.Proper)
    (hwritten : rules.WrittenAs tree) :
    (rules.document source).Agrees (Document.ofElement source tree.element) := by
  induction tree using Xml.Tree.induction generalizing rules with
  | step tree ih =>
    cases hwritten with
    | @license license _ hlicense =>
      exact hlicense.agrees_document (hproper.matchers license (List.mem_singleton_self license))
    | @approved categories _ hname hfamilies =>
      constructor
      · show List.Forall₂ _ _ (Node.ofElements source (tree.element.named licenseTag))
        rw [named_section hname hfamilies]
        exact .nil
      · exact agrees_declaredIn hname (by decide) (fun _ _ ↦ List.nodup_singleton _) hfamilies
      · show List.Forall₂ _ _ (declaredIn source matchersTag matcherTag tree.element)
        rw [declaredIn_of_named_nil (named_section hname hfamilies matchersTag)]
        exact .nil
      · rfl
    | @kinds kinds _ hname hkinds =>
      constructor
      · show List.Forall₂ _ _ (Node.ofElements source (tree.element.named licenseTag))
        rw [named_section hname hkinds]
        exact .nil
      · show List.Forall₂ _ _ (declaredIn source approvedTag familyTag tree.element)
        rw [declaredIn_of_named_nil (named_section hname hkinds approvedTag)]
        exact .nil
      · exact agrees_declaredIn hname (by decide) hproper.kinds hkinds
      · rfl
    | @group parts _ hname hparts =>
      have hchildren : List.Forall₂ (fun child part ↦ part.Proper ∧ part.WrittenAs child)
          tree.children parts :=
        List.Forall₂.flip (forall₂_imp_of_mem
          (fun part hpart _ hpartWritten ↦ ⟨hproper.of_mem part hpart, hpartWritten⟩) hparts)
      refine agrees_group hname (List.Forall₂.flip ?_)
      exact forall₂_imp_of_mem (fun child hchild part hpart ↦ ih child hchild hpart.1 hpart.2)
        hchildren

/-! ### All rules can be written as elements -/

theorem Matcher.exists_writtenAs (matcher : Matcher) :
    ∃ tree : Xml.Tree, matcher.WrittenAs tree ∧ tree.tail = "" := by
  induction matcher using Matcher.induction with
  | step matcher ih =>
    obtain ⟨children, hchildren⟩ := exists_forall₂ ih
    refine ⟨{ matcher with name := matcher.tag, children }, .intro ⟨rfl, .refl _, rfl, ?_⟩ ?_, rfl⟩
    · intro child hchild
      obtain ⟨_, _, _, htail⟩ := exists_of_mem_of_forall₂ hchildren.flip hchild
      rw [htail]
      rfl
    · exact hchildren.imp fun _ _ hmember ↦ hmember.1

theorem License.exists_writtenAs (license : License) : ∃ tree, license.WrittenAs tree := by
  obtain ⟨roots, hroots⟩ := exists_forall₂ fun matcher (_ : matcher ∈ license.matcher.toList) ↦
    matcher.exists_writtenAs
  let notes : List Xml.Tree := license.notes.map fun text ↦ { name := noteTag, text }
  refine ⟨{ name := licenseTag, attributes := license.attributes, children := notes ++ roots },
    ⟨rfl, .refl _, rfl, ?_⟩, notes, roots, rfl, ?_, hroots.imp fun _ _ hmatcher ↦ hmatcher.1⟩
  · intro child hchild
    rcases List.mem_append.mp hchild with hnote | hroot
    · obtain ⟨text, _, rfl⟩ := List.mem_map.mp hnote
      rfl
    · obtain ⟨_, _, _, htail⟩ := exists_of_mem_of_forall₂ hroots.flip hroot
      rw [htail]
      rfl
  · rw [List.forall₂_map_right_iff, List.forall₂_same]
    exact fun text _ ↦ Xml.Tree.isLeaf_mk noteTag [] text

theorem Rules.join_licenses (licenses : List License) :
    join (licenses.map fun license ↦ { licenses := [license] }) = { licenses } := by
  induction licenses with
  | nil => rfl
  | cons license rest ih =>
    rw [join, Rules.mk.injEq] at ih
    rw [List.map_cons, join, List.flatMap_cons, List.flatMap_cons, List.flatMap_cons, ih.1, ih.2.1,
      ih.2.2]
    rfl

/-- All rules are written as some tree: in one with a part for licenses, for approved families and
for kinds. -/
theorem Rules.exists_writtenAs (rules : Rules) : ∃ tree, rules.WrittenAs tree := by
  obtain ⟨trees, htrees⟩ := exists_forall₂ fun license (_ : license ∈ rules.licenses) ↦
    license.exists_writtenAs
  have hlicenses : List.Forall₂ WrittenAs
      (rules.licenses.map fun license ↦ { licenses := [license] }) trees := by
    rw [List.forall₂_map_left_iff]
    exact htrees.imp fun _ _ hlicense ↦ .license hlicense
  let approved : Xml.Tree :=
    { name := approvedTag
      children := rules.approved.map fun category ↦
        { name := familyTag, attributes := [("license_ref", category)] } }
  have happroved : WrittenAs { approved := rules.approved } approved := by
    refine .approved rfl ?_
    rw [List.forall₂_map_right_iff, List.forall₂_same]
    exact fun category _ ↦ Xml.Tree.isLeaf_mk familyTag [("license_ref", category)] ""
  let kinds : Xml.Tree :=
    { name := matchersTag
      children := rules.kinds.map fun attributes ↦ { name := matcherTag, attributes } }
  have hkinds : WrittenAs { kinds := rules.kinds } kinds := by
    refine .kinds rfl ?_
    rw [List.forall₂_map_right_iff, List.forall₂_same]
    exact fun attributes _ ↦ Xml.Tree.isLeaf_mk matcherTag attributes ""
  have hrules : rules = join [{ licenses := rules.licenses }, { approved := rules.approved },
      { kinds := rules.kinds }] := by
    simp [join]
  have houter : "rules" ∉ reservedTags := by decide
  have hinner : "licenses" ∉ reservedTags := by decide
  rw [hrules, ← join_licenses]
  let licenses : Xml.Tree := { name := "licenses", children := trees }
  exact ⟨{ name := "rules", children := [licenses, approved, kinds] },
    .group houter (.cons (.group hinner hlicenses) (.cons happroved (.cons hkinds .nil)))⟩

end Written

end LicenseHeaders
