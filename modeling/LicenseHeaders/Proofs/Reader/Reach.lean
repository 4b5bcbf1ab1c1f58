import LicenseHeaders.Proofs.Reader.Acceptance
import LicenseHeaders.Proofs.Reader.Elements

/-!
# What an element needs to be built

An element leads to what stands in it and to the element that it refers to (`Document.Leads`). To
build one that is in order by itself is to ask for all that it leads to (`Document.Asks`), and one
that is not asks for nothing. So the builder of an element builds a matcher exactly if everything
that is asked for on the way is in order by itself (`Document.exists_builds_iff_fits`), provided
that no element asks for itself. Whether an element is in order by itself is `Node.Fits`: its kind
accepts it, it holds what its kind needs, and what it refers to is declared.
-/

set_option autoImplicit false
set_option relaxedAutoImplicit false

namespace LicenseHeaders

open Text

namespace Node

/-- An element refers to an identifier under a table of kinds. -/
def RefersIn (kinds : KindTable) (node : Node) (id : String) : Prop :=
  kinds.lookup node.tag = some .reference ∧ node.refid = id

/-- What an element of a kind must hold. A plugged-in kind says by itself of what it makes a
matcher. -/
def HoldsIn [Installation] (node : Node) : Kind → Prop
  | .plugged plugin =>
    ∃ made, Installation.make plugin node.declaredId? (Builder.setting? node.settings)
      (if plugin.hasText then trimmed node.text else "") = .ok made
  | kind => node.Holds kind

/-- An element is in order by itself, where the given identifiers are declared. -/
structure Fits [Installation] (kinds : KindTable) (ids : List String) (node : Node) : Prop where
  accepted : ∃ kind, node.accepted kinds = .ok kind
  holds : node.HoldsIn (node.kindIn kinds)
  declared : ∀ id, node.RefersIn kinds id → id ∈ ids

end Node

/-- An element leads to what stands in it and to the element that it refers to. -/
def Document.Leads (kinds : KindTable) (document : Document) (first second : Node) : Prop :=
  second ∈ first.children ∨
    ∃ id, first.RefersIn kinds id ∧ second ∈ document.elements ∧ second.declaredId? = some id

/-- An element asks for another one when it is built: it is in order by itself and leads there. -/
def Document.Asks [Installation] (kinds : KindTable) (document : Document) (first second : Node) :
    Prop :=
  first.Fits kinds document.ids ∧ document.Leads kinds first second

section Elements

variable {kinds : KindTable} {builders : List (String × Builder)} {node : Node} {kind : Kind}
  [Installation]

/-- What must be written in the builder of an element of a built-in kind is what the element must
hold. -/
theorem Node.holdsFor_iff_holdsIn (hkind : kind ∈ Kind.builtIn) :
    Builder.HoldsFor node.settings (if kind.hasText then trimmed node.text else "")
      node.children.length kind ↔ node.HoldsIn kind := by
  rw [node.holdsFor_settings_iff]
  cases kind with
  | plugged plugin => exact absurd hkind (Kind.plugged_notMem_builtIn plugin)
  | _ => exact Iff.rfl

/-- A leaf is made if its element holds what it must. -/
theorem Node.exists_leaf_iff (hmembers : kind.hasMembers = false) (hreference : kind ≠ .reference) :
    (∃ matcher, Builder.leaf kind node.declaredId? node.settings
      (if kind.hasText then trimmed node.text else "") = .ok matcher) ↔ node.HoldsIn kind := by
  by_cases hkind : kind ∈ Kind.builtIn
  · exact (Builder.exists_leaf_iff hkind hmembers hreference).trans (holdsFor_iff_holdsIn hkind)
  · cases kind with
    | plugged plugin => exact Builder.exists_leaf_plugged_iff
    | base => exact iff_of_false (not_exists_error_eq_ok _) id
    | _ => exact absurd (by decide) hkind

/-- The builder of an element builds a matcher if the element holds what it must, what stands in it
is built, and what it refers to can be had. -/
theorem Node.exists_builds_plainIn_iff (haccepted : node.accepted kinds = .ok kind) :
    (∃ matcher, Builder.Builds builders (node.plainIn kinds) matcher) ↔
      node.HoldsIn kind ∧
        (∀ child ∈ node.children,
          ∃ matcher, Builder.Builds builders (child.builderIn kinds) matcher) ∧
        ∀ id, node.RefersIn kinds id → Builder.Resolves builders id := by
  obtain ⟨hlookup, _, hchildren⟩ := accepted_eq_ok_iff.mp haccepted
  have hrefers (id : String) : node.RefersIn kinds id ↔ kind = .reference ∧ node.refid = id := by
    rw [RefersIn, hlookup, Option.some.injEq]
  simp only [hrefers]
  rw [plainIn, kindIn_eq_of_accepted haccepted, ofKind]
  by_cases hmembers : kind.hasMembers = true
  · have hbuiltIn : kind ∈ Kind.builtIn := by
      cases kind with
      | all | any | negation => decide
      | _ => cases hmembers
    have hnone (id : String) (hrefers : kind = .reference ∧ node.refid = id) :
        Builder.Resolves builders id := by
      rw [hrefers.1] at hmembers
      cases hmembers
    rw [Builder.exists_builds_combination_iff hmembers, Builder.memberFault?_eq_none_iff hmembers,
      List.length_map, holdsFor_iff_holdsIn hbuiltIn, List.forall_mem_map]
    exact and_congr_right fun _ ↦ (and_iff_left hnone).symm
  have hleaf : kind.hasMembers = false := Bool.eq_false_iff.mpr hmembers
  have hnone : ∀ child ∈ node.children,
      ∃ matcher, Builder.Builds builders (child.builderIn kinds) matcher := by
    rw [hchildren hleaf]
    exact List.forall_mem_nil _
  by_cases hreference : kind = .reference
  · subst hreference
    have hname : Builder.refersTo node.settings = node.refid := node.refersTo_settings
    have hresolves : (∀ id, Kind.reference = .reference ∧ node.refid = id →
        Builder.Resolves builders id) ↔ Builder.Resolves builders node.refid :=
      ⟨fun hall ↦ hall node.refid ⟨rfl, rfl⟩, by rintro hrefid _ ⟨_, rfl⟩; exact hrefid⟩
    rw [hresolves, and_iff_right hnone, decide_eq_true rfl, Builder.exists_builds_reference_iff,
      hname]
    exact Iff.rfl
  · rw [Builder.exists_builds_leaf_iff hleaf hreference, exists_leaf_iff hleaf hreference]
    refine (and_iff_left ⟨hnone, fun id hrefers ↦ ?_⟩).symm
    exact absurd hrefers.1 hreference

end Elements

/-! ### What is built in a document -/

namespace Document

section Building

variable {kinds : KindTable} {document : Document} {node : Node}

theorem declarationsIn_eq (kinds : KindTable) (document : Document) :
    document.declarationsIn kinds = document.elements.filterMap (Node.declarationIn? kinds) := by
  simp only [declarationsIn, elements, List.filterMap_flatMap]
  rfl

/-- What is declared under an identifier is the builder of the element with the identifier. -/
theorem lookup_declarationsIn_iff (hids : document.ids.Nodup) {id : String} {builder : Builder} :
    (document.declarationsIn kinds).lookup id = some builder ↔
      ∃ element ∈ document.elements, element.declaredId? = some id ∧
        builder = element.plainIn kinds := by
  have hmem : (document.declarationsIn kinds).lookup id = some builder ↔
      (id, builder) ∈ document.declarationsIn kinds := by
    rw [← declarationsIn_map_fst kinds] at hids
    exact ⟨mem_of_lookup, lookup_of_mem hids⟩
  rw [hmem, declarationsIn_eq, List.mem_filterMap]
  refine exists_congr fun element ↦ and_congr_right fun _ ↦ ?_
  rw [Node.declarationIn?, Option.map_eq_some_iff]
  constructor
  · rintro ⟨own, hown, hentry⟩
    cases hentry
    exact ⟨hown, rfl⟩
  · rintro ⟨hown, rfl⟩
    exact ⟨id, hown, rfl⟩

/-- An element is built where it stands if it is built where it is declared. -/
theorem exists_builds_builderIn_iff [Installation] (hids : document.ids.Nodup)
    (hnode : node ∈ document.elements) :
    (∃ matcher, Builder.Builds (document.declarationsIn kinds) (node.builderIn kinds) matcher) ↔
      ∃ matcher, Builder.Builds (document.declarationsIn kinds) (node.plainIn kinds) matcher := by
  have hid : (node.plainIn kinds).id? = node.declaredId? := rfl
  rw [Node.builderIn_eq, Builder.standIn, hid]
  cases hown : node.declaredId? with
  | none => exact Iff.rfl
  | some id =>
    have hlookup : (document.declarationsIn kinds).lookup id = some (node.plainIn kinds) :=
      (lookup_declarationsIn_iff hids).mpr ⟨node, hnode, hown, rfl⟩
    constructor
    · rintro ⟨_, hbuilds⟩
      cases hbuilds with
      | declared hdeclared hbuilds =>
        cases hlookup.symm.trans hdeclared
        exact ⟨_, hbuilds⟩
    · rintro ⟨matcher, hbuilds⟩
      exact ⟨_, .declared hlookup hbuilds⟩

/-- The matcher of an identifier can be had if an element with the identifier is built. -/
theorem resolves_iff_exists_element [Installation] (hids : document.ids.Nodup) {id : String} :
    Builder.Resolves (document.declarationsIn kinds) id ↔
      ∃ element ∈ document.elements, element.declaredId? = some id ∧
        ∃ matcher, Builder.Builds (document.declarationsIn kinds) (element.builderIn kinds)
          matcher := by
  constructor
  · rintro ⟨_, matcher, hlookup, hbuilds⟩
    obtain ⟨element, helement, hown, rfl⟩ := (lookup_declarationsIn_iff hids).mp hlookup
    exact ⟨element, helement, hown,
      (exists_builds_builderIn_iff hids helement).mpr ⟨matcher, hbuilds⟩⟩
  · rintro ⟨element, helement, hown, hbuilt⟩
    obtain ⟨matcher, hbuilds⟩ := (exists_builds_builderIn_iff hids helement).mp hbuilt
    exact ⟨_, matcher, (lookup_declarationsIn_iff hids).mpr ⟨element, helement, hown, rfl⟩, hbuilds⟩

theorem mem_elements_of_leads {next : Node} (hnode : node ∈ document.elements)
    (hleads : document.Leads kinds node next) : next ∈ document.elements := by
  rcases hleads with hchild | ⟨_, _, helement, _⟩
  · exact child_mem_elements hnode hchild
  · exact helement

variable [Installation]

theorem mem_elements_of_asks {inner : Node} (hnode : node ∈ document.elements)
    (hasks : Relation.ReflTransGen (document.Asks kinds) node inner) :
    inner ∈ document.elements := by
  induction hasks with
  | refl => exact hnode
  | tail _ hnext ih => exact mem_elements_of_leads ih hnext.2

/-- An element is built if it is in order by itself and all that it leads to is built. -/
theorem exists_builds_step_iff (hids : document.ids.Nodup) (hnode : node ∈ document.elements)
    {kind : Kind} (haccepted : node.accepted kinds = .ok kind) :
    (∃ matcher, Builder.Builds (document.declarationsIn kinds) (node.builderIn kinds) matcher) ↔
      node.Fits kinds document.ids ∧ ∀ next, document.Leads kinds node next →
        ∃ matcher,
          Builder.Builds (document.declarationsIn kinds) (next.builderIn kinds) matcher := by
  rw [exists_builds_builderIn_iff hids hnode, Node.exists_builds_plainIn_iff haccepted]
  simp only [resolves_iff_exists_element hids]
  have hkind := Node.kindIn_eq_of_accepted haccepted
  constructor
  · rintro ⟨hholds, hchildren, hrefers⟩
    refine ⟨⟨⟨kind, haccepted⟩, hkind ▸ hholds, fun id hid ↦ ?_⟩, ?_⟩
    · obtain ⟨element, helement, hown, _⟩ := hrefers id hid
      exact List.mem_filterMap.mpr ⟨element, helement, hown⟩
    · rintro next (hchild | ⟨id, hid, hnext, hown⟩)
      · exact hchildren next hchild
      · -- The identifier is declared by one element only.
        obtain ⟨element, helement, hsame, hbuilt⟩ := hrefers id hid
        have hequal : element.plainIn kinds = next.plainIn kinds := Option.some.inj <|
          ((lookup_declarationsIn_iff hids).mpr ⟨element, helement, hsame, rfl⟩).symm.trans
            ((lookup_declarationsIn_iff hids).mpr ⟨next, hnext, hown, rfl⟩)
        rw [exists_builds_builderIn_iff hids helement, hequal] at hbuilt
        exact (exists_builds_builderIn_iff hids hnext).mpr hbuilt
  · rintro ⟨hfits, hnext⟩
    refine ⟨hkind ▸ hfits.holds, fun child hchild ↦ hnext child (.inl hchild), fun id hid ↦ ?_⟩
    obtain ⟨element, helement, hown⟩ := List.mem_filterMap.mp (hfits.declared id hid)
    exact ⟨element, helement, hown, hnext element (.inr ⟨id, hid, helement, hown⟩)⟩

/-- The builder of an element builds a matcher exactly if everything that is asked for on the way is
in order by itself. Assumes: no identifier is declared twice, every element is accepted, and none
asks for itself. -/
theorem exists_builds_iff_fits (hids : document.ids.Nodup)
    (haccepted : ∀ element ∈ document.elements, ∃ kind, element.accepted kinds = .ok kind)
    (hacyclic : ∀ element ∈ document.elements,
      ¬Relation.TransGen (document.Asks kinds) element element)
    (hnode : node ∈ document.elements) :
    (∃ matcher, Builder.Builds (document.declarationsIn kinds) (node.builderIn kinds) matcher) ↔
      ∀ inner, Relation.ReflTransGen (document.Asks kinds) node inner →
        inner.Fits kinds document.ids := by
  have hmem (inner : Node) (hasks : Relation.TransGen (document.Asks kinds) node inner) :
      inner ∈ document.elements :=
    mem_elements_of_asks hnode hasks.to_reflTransGen
  have hacc : Acc (flip (document.Asks kinds)) node :=
    acc_of_acyclic hmem fun inner hasks ↦ hacyclic inner (hmem inner hasks)
  have hstep (inner : Node) (hasks : Relation.ReflTransGen (document.Asks kinds) node inner) :
      (∃ matcher, Builder.Builds (document.declarationsIn kinds) (inner.builderIn kinds) matcher) ↔
        inner.Fits kinds document.ids ∧ ∀ next, document.Asks kinds inner next →
          ∃ matcher,
            Builder.Builds (document.declarationsIn kinds) (next.builderIn kinds) matcher := by
    have hinner := mem_elements_of_asks hnode hasks
    obtain ⟨kind, hkind⟩ := haccepted inner hinner
    rw [exists_builds_step_iff hids hinner hkind]
    exact and_congr_right fun hfits ↦
      forall_congr' fun next ↦ imp_congr_left (and_iff_right hfits).symm
  exact iff_forall_reached hstep hacc

end Building

end Document

end LicenseHeaders
