import LicenseHeaders.Proofs.Builder.Leaves
import LicenseHeaders.Proofs.Reader.Licenses
import LicenseHeaders.Sample

/-!
# Which documents are loaded

A document without declarations of kinds is loaded if it is well-formed, and only then
(`Reader.load?_ok_iff_wellFormed`).

What the reader asks of builders is translated into what `Document.WellFormed` says of elements. A
builder is valid by itself if its element holds what it must (`Node.valid_plain_iff`), and it asks
for the identifiers that are referred to in the element or declared there
(`Node.mem_mentions_plain_iff`). The needs of builders and those of elements differ, since an
identified element takes the place of all that is in it, but they are circular together
(`Document.circular_iff`).

In one direction every element of a loaded document has been built somewhere, if only for the
element that it stands in (`Document.exists_builds_inner`). In the other direction a document has
finitely many identifiers, so needs without a circle come to an end, and each identifier can be
resolved once those that it needs are (`Document.WellFormed.resolves`).
-/

set_option autoImplicit false
set_option relaxedAutoImplicit false

namespace LicenseHeaders

open Text

/-! ### Elements that are valid by themselves -/

/-- What the builder of an element refers to is what the element refers to. -/
theorem Node.refersTo_settings (node : Node) : Builder.refersTo node.settings = node.refid := by
  have hrefid : "refid" ≠ "id" := by simp
  rw [Builder.refersTo, setting?_settings node hrefid, refid]

/-- What must be written in the builder of an element is what the element must hold. -/
theorem Node.holdsFor_settings_iff [CharacterNames] (node : Node) (kind : Kind) :
    Builder.HoldsFor node.settings (if kind.hasText then trimmed node.text else "")
      node.children.length kind ↔ node.Holds kind := by
  cases kind with
  | copyright =>
    have hstart : "start" ≠ "id" := by simp
    have hend : "end" ≠ "id" := by simp
    have howner : "owner" ≠ "id" := by simp
    rw [Builder.HoldsFor, Holds, notice, setting?_settings node hstart,
      setting?_settings node hend, setting?_settings node howner]
  | spdx =>
    have hname : "name" ≠ "id" := by simp
    rw [Builder.HoldsFor, Holds, setting?_settings node hname]
  | all => exact not_congr List.length_eq_zero_iff
  | any => exact not_congr List.length_eq_zero_iff
  | reference => rw [Builder.HoldsFor, Holds, refersTo_settings]
  | _ => exact Iff.rfl

/-- The builder of an element is valid by itself if the element holds what it must, and the builders
in it are valid. -/
theorem Node.valid_plain_iff [Installation] {node : Node} (hreadable : node.Readable) :
    node.plain.Valid ↔
      node.Holds node.kind ∧ ∀ child ∈ node.children, child.builder.Valid := by
  obtain ⟨kind, hkind⟩ := Option.isSome_iff_exists.mp hreadable.kind
  have hchildren := hreadable.children
  rw [plain, withMembers, Node.kind_eq hkind] at *
  have hmembers : kind.hasMembers = false → node.children.map builder = [] := by
    intro hleaf
    rw [hchildren hleaf, List.map_nil]
  have hresolves : kind = .reference → decide (kind = .reference) = true := decide_eq_true
  rw [Builder.valid_plain_iff (mem_builtIn_of_kind? hkind) hmembers hresolves, List.length_map,
    List.forall_mem_map, holdsFor_settings_iff]

/-! ### Declarations and needs -/

namespace Node

theorem builder_of_declared {node : Node} {id : String} (hid : node.declaredId? = some id) :
    node.builder = .declared id node.kind := by
  have hplain : node.plain.id? = some id := hid
  rw [builder_eq, Builder.standIn, hplain]
  rfl

theorem builder_of_not_declared {node : Node} (hid : node.declaredId? = none) :
    node.builder = node.plain := by
  have hplain : node.plain.id? = none := hid
  rw [builder_eq, Builder.standIn, hplain]

/-- The builder of an element asks for what the element refers to and for what the builders in it
ask for. -/
theorem mem_mentions_plain_iff {node : Node} (hreadable : node.Readable) {id : String} :
    id ∈ node.plain.mentions ↔
      node.RefersTo id ∨ ∃ child ∈ node.children, id ∈ child.builder.mentions := by
  obtain ⟨kind, hkind⟩ := Option.isSome_iff_exists.mp hreadable.kind
  have hchildren := hreadable.children
  rw [RefersTo, hkind, Option.some.injEq]
  rw [plain, withMembers, Node.kind_eq hkind] at *
  rw [Builder.mentions, Builder.mentionsEach_eq_flatMap, List.flatMap_map]
  by_cases hmembers : kind.hasMembers = true
  · rw [if_pos hmembers, List.mem_flatMap]
    refine ⟨.inr, fun h ↦ h.resolve_left ?_⟩
    rintro ⟨rfl, _⟩
    cases hmembers
  rw [if_neg hmembers, hchildren (Bool.eq_false_iff.mpr hmembers)]
  by_cases hreference : kind = .reference
  · rw [if_pos hreference, refersTo_settings]
    simp [hreference, eq_comm]
  · rw [if_neg hreference]
    simp [hreference]

end Node

namespace Document

variable {document : Document}

theorem declarations_map_fst (document : Document) :
    document.declarations.map (·.1) = document.ids := by
  rw [declarations, ids, List.map_filterMap]
  refine List.filterMap_congr fun node _ ↦ ?_
  rw [Node.declaration?, Option.map_map]
  exact Option.map_id'

/-- Without identifiers that are declared twice, what is declared under an identifier is the builder
of the element with it. -/
theorem lookup_declarations_iff (hids : document.ids.Nodup) {id : String} {builder : Builder} :
    document.declarations.lookup id = some builder ↔
      ∃ element ∈ document.elements, element.declaredId? = some id ∧ builder = element.plain := by
  have hmem : (id, builder) ∈ document.declarations ↔
      ∃ element ∈ document.elements, element.declaredId? = some id ∧ builder = element.plain := by
    rw [declarations, List.mem_filterMap]
    refine exists_congr fun element ↦ and_congr_right fun _ ↦ ?_
    rw [Node.declaration?, Option.map_eq_some_iff]
    constructor
    · rintro ⟨_, hid, ⟨⟩⟩
      exact ⟨hid, rfl⟩
    · rintro ⟨hid, rfl⟩
      exact ⟨id, hid, rfl⟩
  rw [← hmem]
  rw [← declarations_map_fst] at hids
  exact ⟨mem_of_lookup, lookup_of_mem hids⟩

section Needs

variable (hids : document.ids.Nodup)
  (hreadable : ∀ element ∈ document.elements, element.Readable)

include hreadable in
/-- What the builder of an element asks for is declared or referred to in the element. -/
theorem exists_of_mem_mentions {node : Node} :
    node ∈ document.elements → ∀ id ∈ node.builder.mentions,
      ∃ inner ∈ node.elements, inner.declaredId? = some id ∨ inner.RefersTo id := by
  induction node using Node.induction with
  | node tag attributes text children source ih =>
    intro hnode id hmentioned
    rcases hid : Node.declaredId? ⟨tag, attributes, text, children, source⟩ with _ | own
    · rw [Node.builder_of_not_declared hid, Node.mem_mentions_plain_iff (hreadable _ hnode)]
        at hmentioned
      rcases hmentioned with hrefers | ⟨child, hchild, hmentioned⟩
      · exact ⟨_, Node.mem_elements_self _, .inr hrefers⟩
      · obtain ⟨inner, hinner, hnamed⟩ :=
          ih child hchild (child_mem_elements hnode hchild) id hmentioned
        exact ⟨inner, Node.mem_elements_of_child hchild hinner, hnamed⟩
    · rw [Node.builder_of_declared hid] at hmentioned
      rw [List.mem_singleton.mp hmentioned]
      exact ⟨_, Node.mem_elements_self _, .inl hid⟩

include hids hreadable in
/-- What a declaration needs, the element that it stands for needs. -/
theorem needs_of_builder_needs {first second : String}
    (hneeds : Builder.Needs document.declarations first second) : document.Needs first second := by
  obtain ⟨builder, hlookup, hmentioned⟩ := hneeds
  obtain ⟨element, helement, hid, rfl⟩ := (lookup_declarations_iff hids).mp hlookup
  refine ⟨element, helement, hid, ?_⟩
  rcases (Node.mem_mentions_plain_iff (hreadable element helement)).mp hmentioned with
    hrefers | ⟨child, hchild, hmentioned⟩
  · exact .inl hrefers
  · obtain ⟨inner, hinner, hnamed⟩ := exists_of_mem_mentions hreadable
      (child_mem_elements helement hchild) second hmentioned
    exact .inr ⟨inner, List.mem_flatMap.mpr ⟨child, hchild, hinner⟩, hnamed⟩

include hids hreadable in
/-- From what the builder of an element asks for, the needs of declarations lead to everything that
is declared or referred to in the element. An identified element on the way is asked for in place of
what is in it. -/
theorem exists_mentions_of_mem {node : Node} :
    node ∈ document.elements → ∀ inner ∈ node.elements, ∀ id,
      inner.declaredId? = some id ∨ inner.RefersTo id →
      ∃ asked ∈ node.builder.mentions,
        Relation.ReflTransGen (Builder.Needs document.declarations) asked id := by
  induction node using Node.induction with
  | node tag attributes text children source ih =>
    intro hnode inner hinner id hnamed
    have hmentions := @Node.mem_mentions_plain_iff _ (hreadable _ hnode)
    have hasked : inner = ⟨tag, attributes, text, children, source⟩ ∧ inner.declaredId? = some id ∨
        ∃ asked ∈ Node.plain ⟨tag, attributes, text, children, source⟩ |>.mentions,
          Relation.ReflTransGen (Builder.Needs document.declarations) asked id := by
      rw [Node.elements_eq, List.mem_append, List.mem_flatMap, List.mem_singleton] at hinner
      rcases hinner with ⟨child, hchild, hinner⟩ | rfl
      · obtain ⟨asked, hasked, hreach⟩ :=
          ih child hchild (child_mem_elements hnode hchild) inner hinner id hnamed
        exact .inr ⟨asked, hmentions.mpr (.inr ⟨child, hchild, hasked⟩), hreach⟩
      · exact hnamed.imp (fun hid ↦ ⟨rfl, hid⟩) fun hrefers ↦
          ⟨id, hmentions.mpr (.inl hrefers), .refl⟩
    rcases hid : Node.declaredId? ⟨tag, attributes, text, children, source⟩ with _ | own
    · rw [Node.builder_of_not_declared hid]
      rcases hasked with ⟨rfl, hid'⟩ | hasked
      · cases hid.symm.trans hid'
      · exact hasked
    · -- The identifier hides what is in the element, but what it needs leads there.
      rw [Node.builder_of_declared hid]
      refine ⟨own, List.mem_singleton_self own, ?_⟩
      rcases hasked with ⟨rfl, hid'⟩ | ⟨asked, hasked, hreach⟩
      · cases hid.symm.trans hid'
        exact .refl
      · exact .head ⟨_, (lookup_declarations_iff hids).mpr ⟨_, hnode, hid, rfl⟩, hasked⟩ hreach

include hids hreadable in
/-- What an element needs, its declaration needs, perhaps by way of other declarations. -/
theorem transGen_of_needs {first second : String} (hneeds : document.Needs first second) :
    Relation.TransGen (Builder.Needs document.declarations) first second := by
  obtain ⟨element, helement, hid, hnamed⟩ := hneeds
  have hlookup := (lookup_declarations_iff hids).mpr ⟨element, helement, hid, rfl⟩
  have hmentions := @Node.mem_mentions_plain_iff _ (hreadable _ helement)
  rcases hnamed with hrefers | ⟨inner, hinner, hnamed⟩
  · exact .single ⟨_, hlookup, hmentions.mpr (.inl hrefers)⟩
  · obtain ⟨child, hchild, hinner⟩ := List.mem_flatMap.mp hinner
    obtain ⟨asked, hasked, hreach⟩ := exists_mentions_of_mem hids hreadable
      (child_mem_elements helement hchild) inner hinner second hnamed
    exact .head' ⟨_, hlookup, hmentions.mpr (.inr ⟨child, hchild, hasked⟩)⟩ hreach

include hids hreadable in
/-- The needs of elements and those of declarations are circular together. -/
theorem circular_iff {id : String} :
    Relation.TransGen document.Needs id id ↔
      Relation.TransGen (Builder.Needs document.declarations) id id := by
  constructor
  · exact Relation.TransGen.closed (fun _ _ ↦ transGen_of_needs hids hreadable) id id
  · exact Relation.TransGen.mono (fun _ _ ↦ needs_of_builder_needs hids hreadable) id id

end Needs

/-! ### Loaded documents are well-formed -/

section Loaded

variable (hids : document.ids.Nodup)
  (hreadable : ∀ element ∈ document.elements, element.Readable)

include hids hreadable in
/-- Every element is built: if the builder of an element builds a matcher where it stands, so does
the builder of every element in it. -/
theorem exists_builds_inner [Installation] {node : Node} :
    node ∈ document.elements →
      (∃ matcher, Builder.Builds document.declarations node.builder matcher) →
      ∀ inner ∈ node.elements,
        ∃ matcher, Builder.Builds document.declarations inner.plain matcher := by
  induction node using Node.induction with
  | node tag attributes text children source ih =>
    intro hnode hbuilds inner hinner
    have hplain : ∃ matcher, Builder.Builds document.declarations
        (Node.plain ⟨tag, attributes, text, children, source⟩) matcher := by
      rcases hid : Node.declaredId? ⟨tag, attributes, text, children, source⟩ with _ | own
      · rw [Node.builder_of_not_declared hid] at hbuilds
        exact hbuilds
      · -- Resolving the identifier of the element builds the element itself.
        rw [Node.builder_of_declared hid] at hbuilds
        obtain ⟨builder, matcher, hlookup, hbuilds⟩ :=
          (Builder.exists_builds_iff.mp hbuilds).2 own (List.mem_singleton_self own)
        have hown := (lookup_declarations_iff hids).mpr ⟨_, hnode, hid, rfl⟩
        cases hlookup.symm.trans hown
        exact ⟨matcher, hbuilds⟩
    rw [Node.elements_eq, List.mem_append, List.mem_flatMap, List.mem_singleton] at hinner
    rcases hinner with ⟨child, hchild, hinner⟩ | rfl
    · obtain ⟨hvalid, hresolves⟩ := Builder.exists_builds_iff.mp hplain
      have hmember := ((Node.valid_plain_iff (hreadable _ hnode)).mp hvalid).2 child hchild
      refine ih child hchild (child_mem_elements hnode hchild)
        (Builder.exists_builds_iff.mpr ⟨hmember, fun id hmentioned ↦ hresolves id ?_⟩) inner hinner
      exact (Node.mem_mentions_plain_iff (hreadable _ hnode)).mpr (.inr ⟨child, hchild, hmentioned⟩)
    · exact hplain

end Loaded

/-! ### Well-formed documents are loaded -/

/-- The builders of well-formed elements are valid by themselves, with and without their
identifiers. -/
theorem valid_of_wellFormed [Installation]
    (helements : ∀ element ∈ document.elements, element.WellFormed) {node : Node} :
    node ∈ document.elements → node.plain.Valid ∧ node.builder.Valid := by
  induction node using Node.induction with
  | node tag attributes text children source ih =>
    intro hnode
    have hwell := helements _ hnode
    have hplain : (Node.plain ⟨tag, attributes, text, children, source⟩).Valid :=
      (Node.valid_plain_iff hwell.toReadable).mpr ⟨hwell.holds, fun child hchild ↦
        (ih child hchild (child_mem_elements hnode hchild)).2⟩
    rcases hid : Node.declaredId? ⟨tag, attributes, text, children, source⟩ with _ | own
    · rw [Node.builder_of_not_declared hid]
      exact ⟨hplain, hplain⟩
    · rw [Node.builder_of_declared hid]
      exact ⟨hplain, .declared own _⟩

section WellFormed

variable [Installation] (hwell : document.WellFormed)

include hwell in
theorem WellFormed.readable : ∀ element ∈ document.elements, element.Readable :=
  fun element helement ↦ (hwell.elements element helement).toReadable

include hwell in
/-- What an element of a well-formed document is declared under or refers to is an identifier of the
document. -/
theorem WellFormed.mem_ids {element : Node} (helement : element ∈ document.elements) {id : String}
    (hnamed : element.declaredId? = some id ∨ element.RefersTo id) : id ∈ document.ids := by
  rcases hnamed with hid | hrefers
  · exact List.mem_filterMap.mpr ⟨element, helement, hid⟩
  · exact hwell.references element helement id hrefers

include hwell in
/-- In a well-formed document the matcher of every identifier can be had. -/
theorem WellFormed.resolves {id : String} (hid : id ∈ document.ids) :
    Builder.Resolves document.declarations id := by
  have hdeclared (id : String) (hid : id ∈ document.ids) :
      ∃ builder, document.declarations.lookup id = some builder := by
    rw [exists_lookup_iff, declarations_map_fst]
    exact hid
  have hclosed (first second : String)
      (hneeds : Builder.Needs document.declarations first second) : second ∈ document.ids := by
    obtain ⟨element, helement, _, hnamed⟩ :=
      needs_of_builder_needs hwell.ids hwell.readable hneeds
    rcases hnamed with hrefers | ⟨inner, hinner, hnamed⟩
    · exact hwell.mem_ids helement (.inr hrefers)
    · obtain ⟨child, hchild, hinner⟩ := List.mem_flatMap.mp hinner
      exact hwell.mem_ids
        (mem_elements_trans (child_mem_elements helement hchild) inner hinner) hnamed
  have hvalid (id : String) (builder : Builder)
      (hlookup : document.declarations.lookup id = some builder) : builder.Valid := by
    obtain ⟨element, helement, _, rfl⟩ := (lookup_declarations_iff hwell.ids).mp hlookup
    exact (valid_of_wellFormed hwell.elements helement).1
  have hacyclic (id : String) :
      ¬Relation.TransGen (Builder.Needs document.declarations) id id :=
    mt (circular_iff hwell.ids hwell.readable).mpr (hwell.acyclic id)
  refine Builder.resolves_iff.mpr fun needed hneeded ↦ ⟨?_, hacyclic needed⟩
  have hlisted : needed ∈ document.ids := by
    rcases Relation.ReflTransGen.cases_tail hneeded with rfl | ⟨other, _, hneeds⟩
    · exact hid
    · exact hclosed other needed hneeds
  obtain ⟨builder, hlookup⟩ := hdeclared needed hlisted
  exact ⟨builder, hlookup, hvalid needed builder hlookup⟩

include hwell in
/-- In a well-formed document every element builds a matcher where it stands. -/
theorem WellFormed.exists_builds {element : Node} (helement : element ∈ document.elements) :
    ∃ matcher, Builder.Builds document.declarations element.builder matcher := by
  refine Builder.exists_builds_iff.mpr
    ⟨(valid_of_wellFormed hwell.elements helement).2, fun id hmentioned ↦ ?_⟩
  obtain ⟨inner, hinner, hnamed⟩ := exists_of_mem_mentions hwell.readable helement id hmentioned
  exact hwell.resolves (hwell.mem_ids (mem_elements_trans helement inner hinner) hnamed)

end WellFormed

/-- The categories of licenses that were made of declarations are those of the declarations. -/
theorem map_id_of_makes [Installation] {builders : List (String × Builder)} {nodes : List Node}
    {licenses : List License} (hmakes : List.Forall₂ (Node.Makes builders) nodes licenses) :
    licenses.map License.id = nodes.filterMap Node.category? := by
  induction hmakes with
  | nil => rfl
  | cons hmakes _ ih =>
    rw [List.map_cons, List.filterMap_cons_some hmakes.category, ih]
    rfl

end Document

namespace Reader

/-- A document that is loaded is well-formed. -/
theorem wellFormed_of_load [Installation] {catalogue : Catalogue} {document : Document}
    (hmatchers : document.matchers = []) {licenses : List License}
    (hload : load? catalogue document = .ok licenses) : document.WellFormed := by
  obtain ⟨hlicenses, hreadable, hids, made, hmade, hcategories, happroves, _⟩ :=
    (load?_eq_ok_iff hmatchers).mp hload
  rw [Document.declarations_map_fst] at hids
  rw [Document.map_id_of_makes hmade] at hcategories happroves
  have hbuilds : ∀ element ∈ document.elements,
      ∃ matcher, Builder.Builds document.declarations element.plain matcher := by
    intro element helement
    obtain ⟨license, hlicense, helement⟩ := List.mem_flatMap.mp helement
    obtain ⟨root, hroot, helement⟩ := List.mem_flatMap.mp helement
    obtain ⟨_, _, hmakes⟩ := exists_of_mem_of_forall₂ hmade hlicense
    obtain ⟨only, honly, hbuilds⟩ := hmakes.matcher
    have hmem := Document.root_mem_elements hlicense hroot
    rw [honly, List.mem_singleton] at hroot
    subst hroot
    exact Document.exists_builds_inner hids hreadable hmem ⟨_, hbuilds⟩ element helement
  have hasked (element : Node) (helement : element ∈ document.elements) (id : String)
      (hrefers : element.RefersTo id) : Builder.Resolves document.declarations id :=
    (Builder.exists_builds_iff.mp (hbuilds element helement)).2 id
      ((Node.mem_mentions_plain_iff (hreadable element helement)).mpr (.inl hrefers))
  refine ⟨hlicenses, ?_, ?_, ?_, hids, ?_, ?_, hcategories, happroves⟩
  · intro license hlicense
    obtain ⟨_, _, hmakes⟩ := exists_of_mem_of_forall₂ hmade hlicense
    exact Option.isSome_iff_exists.mpr ⟨_, hmakes.category⟩
  · intro license hlicense
    obtain ⟨_, _, hmakes⟩ := exists_of_mem_of_forall₂ hmade hlicense
    exact Option.isSome_iff_exists.mpr ⟨_, hmakes.name⟩
  · intro element helement
    have hvalid := (Builder.exists_builds_iff.mp (hbuilds element helement)).1
    exact ⟨hreadable element helement,
      ((Node.valid_plain_iff (hreadable element helement)).mp hvalid).1⟩
  · intro element helement id hrefers
    obtain ⟨builder, _, hlookup, _⟩ := hasked element helement id hrefers
    rw [← Document.declarations_map_fst]
    exact exists_lookup_iff.mp ⟨builder, hlookup⟩
  · intro id hcircular
    rw [Document.circular_iff hids hreadable] at hcircular
    obtain ⟨_, ⟨builder, hlookup, _⟩, _⟩ := Relation.TransGen.head'_iff.mp hcircular
    obtain ⟨element, helement, _, rfl⟩ := (Document.lookup_declarations_iff hids).mp hlookup
    obtain ⟨matcher, hmatcher⟩ := hbuilds element helement
    have hresolves : Builder.Resolves document.declarations id := ⟨_, matcher, hlookup, hmatcher⟩
    exact hresolves.not_circular hcircular

/-- A well-formed document is loaded. -/
theorem load_of_wellFormed [Installation] (catalogue : Catalogue) {document : Document}
    (hmatchers : document.matchers = []) (hwell : document.WellFormed) :
    ∃ licenses, load? catalogue document = .ok licenses := by
  have hmakes : ∀ node ∈ document.licenses,
      ∃ license, Node.Makes document.declarations node license := by
    intro node hnode
    obtain ⟨root, hroots⟩ := (hwell.licenses node hnode).root
    obtain ⟨category, hcategory⟩ := Option.isSome_iff_exists.mp (hwell.categories node hnode)
    obtain ⟨name, hname⟩ := Option.isSome_iff_exists.mp (hwell.names node hnode)
    have hroot : root ∈ node.roots := hroots ▸ List.mem_singleton_self root
    obtain ⟨matcher, hbuilds⟩ := hwell.exists_builds (Document.root_mem_elements hnode hroot)
    exact ⟨⟨⟨category, name⟩, matcher, node.draft.notes, node.draft.derivedFrom⟩,
      hcategory, hname, ⟨root, hroots, hbuilds⟩, by dsimp only, by dsimp only⟩
  obtain ⟨made, hmade⟩ := exists_forall₂ hmakes
  refine ⟨License.sort made, (load?_eq_ok_iff hmatchers).mpr
    ⟨hwell.licenses, hwell.readable, ?_, made, hmade, ?_, ?_, rfl⟩⟩
  · rw [Document.declarations_map_fst]
    exact hwell.ids
  · rw [Document.map_id_of_makes hmade]
    exact hwell.distinct
  · rw [Document.map_id_of_makes hmade]
    exact hwell.families

/-- Exactly the well-formed documents are loaded; with any other a fault is raised. Assumes: a
document without declarations of kinds. -/
theorem load?_ok_iff_wellFormed [Installation] (catalogue : Catalogue) {document : Document}
    (hmatchers : document.matchers = []) :
    ((∃ licenses, load? catalogue document = .ok licenses) ↔ document.WellFormed) ∧
      ((∃ fault, load? catalogue document = .error fault) ↔ ¬document.WellFormed) := by
  have haccepts : (∃ licenses, load? catalogue document = .ok licenses) ↔ document.WellFormed :=
    ⟨fun ⟨_, hload⟩ ↦ wellFormed_of_load hmatchers hload, load_of_wellFormed catalogue hmatchers⟩
  refine ⟨haccepts, ?_⟩
  rw [← haccepts]
  rcases load? catalogue document with fault | licenses
  · exact ⟨fun _ ↦ nofun, fun _ ↦ ⟨fault, rfl⟩⟩
  · exact ⟨nofun, fun h ↦ absurd ⟨licenses, rfl⟩ h⟩

section Sample

open Sample

/-- An element may refer to one of a later license, but two elements may not refer to each other. -/
theorem load?_ok_iff_wellFormed_references :
    let forward : Document :=
      { licenses :=
          [⟨"license", [("id", "A"), ("name", "Alpha")], "",
              [⟨"not", [], "", [⟨"matcher_ref", [("refid", " t ")], "", [], ""⟩], ""⟩], ""⟩,
            ⟨"license", [("id", "B"), ("name", "Beta")], "",
              [⟨"text", [("id", "t")], "Foo", [], ""⟩], ""⟩] }
    let circle : Document :=
      { licenses :=
          [⟨"license", [("id", "A"), ("name", "Alpha")], "",
              [⟨"not", [("id", "a")], "",
                [⟨"matcher_ref", [("refid", "b")], "", [], ""⟩], ""⟩], ""⟩,
            ⟨"license", [("id", "B"), ("name", "Beta")], "",
              [⟨"matcher_ref", [("id", " b"), ("refid", "a")], "", [], ""⟩], ""⟩] }
    forward.matchers = [] ∧ forward.WellFormed ∧ circle.matchers = [] ∧ ¬circle.WellFormed := by
  refine ⟨rfl, ((load?_ok_iff_wellFormed {} rfl).1).mp ⟨?_, ?_⟩, rfl,
    ((load?_ok_iff_wellFormed {} rfl).2).mp
      ⟨.of (.circular ["a", "b", "a"]) "" "matcher_ref", ?_⟩⟩
  · exact
      [⟨⟨"A", "Alpha"⟩, .negation none
          (.reference none "t" (.leaf (some "t") (.literal "Foo") .unknown)), none, none⟩,
        ⟨⟨"B", "Beta"⟩, .registered "t" (.leaf (some "t") (.literal "Foo") .unknown), none, none⟩]
  · cbv
  · cbv

end Sample

end Reader

end LicenseHeaders
