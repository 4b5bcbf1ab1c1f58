import LicenseHeaders.Proofs.Builder.Faults
import LicenseHeaders.Proofs.Reader.Order
import LicenseHeaders.Proofs.Reader.Reach
import LicenseHeaders.Sample

/-!
# Which document is blamed

A fault says in which document it stands. `Reader.load_error_source` says which document that is,
for documents that declare one thing that is not in order (`Document.FlawedKind`,
`Document.FlawedElement`).

It is the document of the flaw where the flaw is found when its declaration is read. Two flaws are
found elsewhere. A tag that is bound to two kinds is found by the table of tags, which names no
document. And what is missing in an element that can be read is found when a matcher is built, by a
builder that does not know its document either (`Identifiers.standsIn_of_raises_build`); the fault
then gets the document of the license that is being built, which is the first one that asks for the
element (`Document.AsksFor`).
-/

set_option autoImplicit false
set_option relaxedAutoImplicit false

namespace LicenseHeaders

open Text

/-- A fault says that a tag is bound to another kind. It does not say in which document. -/
def Fault.IsClash (fault : Fault) : Prop :=
  ∃ tag, fault = .of (.tagTaken tag) "" tag

/-! ### Flaws in declarations of kinds -/

/-- A table of kinds takes declarations: each of them binds tags, and the table admits all their
bindings. -/
def KindTable.Takes (kinds : KindTable) (kind? : String → Option Kind) (nodes : List Node) : Prop :=
  ∃ parts, List.Forall₂ (Node.Binds kind?) nodes parts ∧ kinds.Admits parts.flatten

/-- The fault that is due to the declaration of a kind. If the declaration binds tags, they clash
with others. -/
def Node.KindFault (kind? : String → Option Kind) (node : Node) (fault : Fault) : Prop :=
  ((¬∃ bindings, node.Binds kind? bindings) ∧ fault.StandsIn node.source) ∨
    ((∃ bindings, node.Binds kind? bindings) ∧ fault.IsClash)

/-- The declarations of kinds in a document are taken but for one. -/
structure Document.FlawedKind (kind? : String → Option Kind) (kinds : KindTable)
    (document : Document) (flaw : Node) : Prop where
  others : ∃ before after, document.matchers = before ++ flaw :: after ∧
    kinds.Takes kind? (before ++ after)
  flawed : ¬kinds.Takes kind? document.matchers

theorem Catalogue.exists_of_lookup_error {catalogue : Catalogue} {name : String} {fault : Fault}
    (hlookup : (catalogue.lookup name).1 = .error fault) : ∃ cause, fault = .of cause := by
  rw [lookup] at hlookup
  split at hlookup
  · cases hlookup
  · split at hlookup
    · cases hlookup
      exact ⟨_, rfl⟩
    · split at hlookup
      · cases hlookup
        exact ⟨_, rfl⟩
      · cases hlookup

namespace Reader

section Kinds

variable {reader reader' : Reader} {node flaw : Node} {nodes : List Node} {fault : Fault}

theorem standsIn_of_checkAttributes {supported : List String}
    (hcheck : checkAttributes node supported = .error fault) : fault.StandsIn node.source := by
  rw [checkAttributes] at hcheck
  split_ifs at hcheck
  cases hcheck
  rfl

theorem standsIn_of_required {name : String} {cause : Cause}
    (hrequired : required node name cause = .error fault) : fault.StandsIn node.source := by
  rw [required] at hrequired
  split at hrequired <;> cases hrequired
  rfl

theorem isClash_of_raises_bindTags {name : String} {kind : Kind} {tags : List String}
    (hraises : Raises (bindTags node name kind tags) reader fault reader') : fault.IsClash := by
  induction tags generalizing reader with
  | nil => exact absurd hraises not_raises_pure
  | cons tag rest ih =>
    rw [Raises, run_bindTags_cons] at hraises
    cases hregister : reader.kinds.register tag kind with
    | ok kinds =>
      rw [hregister] at hraises
      exact ih hraises
    | error cause =>
      rw [hregister] at hraises
      cases hraises
      rw [KindTable.register] at hregister
      split at hregister
      · cases hregister
      · split_ifs at hregister
        cases hregister
        exact ⟨tag, rfl⟩

theorem standsIn_of_raises_kindNamed {name : String}
    (hraises : Raises (kindNamed node name) reader fault reader') :
    reader.catalogue.kind? name = none ∧ fault.StandsIn node.source := by
  rw [Raises, run_kindNamed] at hraises
  rcases hlookup : reader.catalogue.lookup name with ⟨cause | ⟨kind, catalogue⟩, events⟩
  · rw [hlookup] at hraises
    have hfirst := congrArg Prod.fst hlookup
    obtain ⟨_, rfl⟩ := Catalogue.exists_of_lookup_error hfirst
    cases hraises
    refine ⟨?_, rfl⟩
    rw [Catalogue.kind?, hlookup]
    rfl
  · rw [hlookup] at hraises
    cases hraises

/-- The declaration of a kind that is not read is at fault itself, or its tags clash. -/
theorem kindFault_of_raises_readKind (hraises : Raises (readKind node) reader fault reader') :
    node.KindFault reader.catalogue.kind? fault := by
  rw [readKind] at hraises
  rcases raises_lift_bind_iff.mp hraises with ⟨hcheck, _⟩ | ⟨_, hcheck, hraises⟩
  · refine .inl ⟨?_, standsIn_of_checkAttributes hcheck⟩
    rintro ⟨_, hoptions, _⟩
    rw [checkAttributes_eq_ok_iff.mpr hoptions] at hcheck
    cases hcheck
  rcases raises_lift_bind_iff.mp hraises with ⟨hname, _⟩ | ⟨name, hname, hraises⟩
  · refine .inl ⟨?_, standsIn_of_required hname⟩
    rintro ⟨_, _, name, _, hfactory, _⟩
    rw [required_eq_ok_iff.mpr hfactory] at hname
    cases hname
  have hfactory := required_eq_ok_iff.mp hname
  rcases raises_bind_iff.mp hraises with hkind | ⟨kind, middle, hkind, htags⟩
  · obtain ⟨hnone, hstands⟩ := standsIn_of_raises_kindNamed hkind
    refine .inl ⟨?_, hstands⟩
    rintro ⟨_, _, other, kind, hother, hfound, _⟩
    cases hfactory.symm.trans hother
    cases hnone.symm.trans hfound
  · have hfound := kindNamed_eq_ok_iff.mp (congrArg Prod.fst hkind)
    exact .inr ⟨⟨_, checkAttributes_eq_ok_iff.mp hcheck, name, kind, hfactory, hfound, rfl⟩,
      isClash_of_raises_bindTags htags⟩

/-- Declarations that bind tags are not read because the tags clash. -/
theorem isClash_of_raises_readEachKind
    (hbinds : ∀ node ∈ nodes, ∃ bindings, node.Binds reader.catalogue.kind? bindings)
    (hraises : Raises (readEachKind nodes) reader fault reader') : fault.IsClash := by
  induction nodes generalizing reader with
  | nil => exact absurd hraises not_raises_pure
  | cons node rest ih =>
    rw [List.forall_mem_cons] at hbinds
    rcases raises_bind_iff.mp hraises with hnode | ⟨_, middle, hnode, hrest⟩
    · rcases kindFault_of_raises_readKind hnode with ⟨hnone, _⟩ | ⟨_, hclash⟩
      · exact absurd hbinds.1 hnone
      · exact hclash
    · obtain ⟨_, _, hbound⟩ := bound_of_returns_readKind hnode
      rw [← hbound.catalogue] at hbinds
      exact ih hbinds.2 hrest

theorem exists_returns_readEachKind_iff :
    (∃ reader', Returns (readEachKind nodes) reader () reader') ↔
      reader.kinds.Takes reader.catalogue.kind? nodes := by
  constructor
  · rintro ⟨_, hreturns⟩
    obtain ⟨parts, hparts, hbound⟩ := bound_of_returns_readEachKind hreturns
    exact ⟨parts, hparts, hbound.admits⟩
  · rintro ⟨parts, hparts, hadmits⟩
    obtain ⟨reader', hreturns, _⟩ := exists_returns_readEachKind hparts rfl hadmits
    exact ⟨reader', hreturns⟩

/-- Declarations of kinds that are read but for one fail with the fault that is due to it. -/
theorem kindFault_of_raises_readEachKind {before after : List Node} {middle : Reader}
    (hothers : Returns (readEachKind (before ++ after)) reader () middle)
    (hraises : Raises (readEachKind (before ++ flaw :: after)) reader fault reader') :
    flaw.KindFault reader.catalogue.kind? fault := by
  induction before generalizing reader with
  | nil =>
    rcases raises_bind_iff.mp hraises with hflaw | ⟨_, next, hflaw, hafter⟩
    · exact kindFault_of_raises_readKind hflaw
    · -- The flaw has been read, so it clashes with what comes behind it.
      obtain ⟨bindings, hbinds, hbound⟩ := bound_of_returns_readKind hflaw
      obtain ⟨parts, hparts, _⟩ := bound_of_returns_readEachKind hothers
      refine .inr ⟨⟨bindings, hbinds⟩, isClash_of_raises_readEachKind ?_ hafter⟩
      intro node hnode
      rw [hbound.catalogue]
      obtain ⟨part, _, hpart⟩ := exists_of_mem_of_forall₂ hparts hnode
      exact ⟨part, hpart⟩
  | cons node rest ih =>
    obtain ⟨_, next, hnode, hrest⟩ := returns_bind_iff.mp hothers
    rcases raises_bind_iff.mp hraises with hfails | ⟨_, same, hsame, hfails⟩
    · cases hfails.symm.trans hnode
    · cases hsame.symm.trans hnode
      obtain ⟨_, _, hbound⟩ := bound_of_returns_readKind hnode
      rw [← hbound.catalogue]
      exact ih hrest hfails

end Kinds

end Reader

/-! ### Flaws in elements -/

namespace Document

/-- A license asks for an element: the element in the license is that element, or asks for it on the
way when it is built. -/
def AsksFor [Installation] (kinds : KindTable) (document : Document) (license element : Node) :
    Prop :=
  ∃ root ∈ license.roots, Relation.ReflTransGen (document.Asks kinds) root element

/-- The licenses of a document and the elements in them are in order but for one element. -/
structure FlawedElement [Installation] (kinds : KindTable) (document : Document) (flaw : Node) :
    Prop where
  licenses : ∀ license ∈ document.licenses, license.HoldsLicense
  categories : ∀ license ∈ document.licenses, license.category?.isSome = true
  names : ∀ license ∈ document.licenses, license.name?.isSome = true
  distinct : document.categories.Nodup
  ids : document.ids.Nodup
  acyclic : ∀ element ∈ document.elements, ¬Relation.TransGen (document.Asks kinds) element element
  others : ∀ element ∈ document.elements, element ≠ flaw → element.Fits kinds document.ids
  mem : flaw ∈ document.elements
  flawed : ¬flaw.Fits kinds document.ids

/-- The fault that is due to an element. If the element is accepted, it is found when a license is
built, the first one that asks for the element. -/
def ElementFault [Installation] (kinds : KindTable) (document : Document) (flaw : Node)
    (fault : Fault) : Prop :=
  ((¬∃ kind, flaw.accepted kinds = .ok kind) ∧ fault.StandsIn flaw.source) ∨
    ((∃ kind, flaw.accepted kinds = .ok kind) ∧
      ∃ before license after, document.licenses = before ++ license :: after ∧
        (∀ other ∈ before, ¬document.AsksFor kinds other flaw) ∧
        document.AsksFor kinds license flaw ∧ fault.StandsIn license.source)

end Document

theorem Builder.standsIn_of_configure {tag source : String} {builder : Builder}
    {attributes : List (String × String)} {fault : Fault}
    (hconfigure : builder.configure tag source attributes = .error fault) :
    fault.StandsIn source := by
  induction attributes generalizing builder with
  | nil => cases hconfigure
  | cons entry rest ih =>
    rw [configure] at hconfigure
    split_ifs at hconfigure
    · exact ih hconfigure
    · cases hconfigure
      rfl
    · cases hconfigure
      rfl

/-- An element that is not accepted is refused with a fault in its document. -/
theorem Node.standsIn_of_refused {kinds : KindTable} {node : Node} {fault : Fault}
    (hrefused : node.accepted kinds = .error fault) : fault.StandsIn node.source := by
  rw [accepted] at hrefused
  split at hrefused
  · cases hrefused
    rfl
  · split at hrefused
    · next hconfigure =>
      cases hrefused
      exact Builder.standsIn_of_configure hconfigure
    · split_ifs at hrefused
      cases hrefused
      rfl

theorem LicenseDraft.standsIn_of_raises_build [Installation] {draft : LicenseDraft}
    {identifiers : Identifiers} {before after : Built} {fault : Fault}
    (hroot : ∃ builder, draft.root = some (.builder builder))
    (hraises : Raises (draft.build identifiers.resolving) before fault after) :
    fault.StandsIn "" := by
  obtain ⟨builder, hroot⟩ := hroot
  rw [build, hroot] at hraises
  split at hraises
  · obtain ⟨rfl, _⟩ := raises_throw_iff.mp hraises
    rfl
  split at hraises
  · obtain ⟨rfl, _⟩ := raises_throw_iff.mp hraises
    rfl
  rcases raises_bind_iff.mp hraises with hbuild | ⟨_, _, _, hpure⟩
  · exact Identifiers.standsIn_of_raises_build hbuild
  · exact absurd hpure not_raises_pure

namespace Reader

section Building

variable {reader reader' : Reader} {node : Node} {draft : LicenseDraft}
  {drafts : List (Node × LicenseDraft)} {before : List License} {fault : Fault}

/-- A fault that does not say where it stands gets the document of a license. -/
theorem standsIn_locatedAt (hfault : fault.StandsIn "") :
    (locatedAt node fault).StandsIn node.source := by
  cases fault with
  | configuration error =>
    rw [locatedAt, if_pos (String.isEmpty_iff.mpr hfault)]
    rfl
  | value fault => exact hfault.elim
  | crash crash => trivial

theorem raises_building_iff {Value : Type} {step : Building Value} :
    Raises (building step) reader fault reader' ↔
      ∃ built, Raises step reader.identifiers.built fault built ∧
        reader' = reader.remembering built := by
  rw [building, raises_get_bind_iff]
  rcases hstep : step.run.run reader.identifiers.built with ⟨result, built⟩
  have hraises {built' : Built} :
      Raises step reader.identifiers.built fault built' ↔
        result = .error fault ∧ built' = built := by
    rw [Raises, hstep, Prod.mk.injEq, @eq_comm _ built]
  simp only [Identifiers.run, hstep, raises_modify_bind_iff, raises_lift_iff, hraises]
  constructor
  · rintro ⟨hresult, rfl⟩
    exact ⟨built, ⟨hresult, rfl⟩, rfl⟩
  · rintro ⟨_, ⟨hresult, rfl⟩, rfl⟩
    exact ⟨hresult, rfl⟩

variable [Installation]

/-- A license is not built if its draft is not, if a license before it has its category, or if one
behind it is not built. -/
theorem raises_buildLicenses_cons_iff {rest : List (Node × LicenseDraft)} :
    Raises (buildLicenses before ((node, draft) :: rest)) reader fault reader' ↔
      (∃ cause built, Raises (draft.build reader.identifiers.resolving) reader.identifiers.built
          cause built ∧ reader' = reader.remembering built ∧ fault = locatedAt node cause) ∨
      ∃ license built,
        Returns (draft.build reader.identifiers.resolving) reader.identifiers.built license built ∧
        Raises (if before.any (·.id == license.id) then
            throw (.of (.licenseTaken license.id) node.source node.tag)
          else buildLicenses (before ++ [license]) rest) (reader.remembering built) fault
            reader' := by
  rw [buildLicenses, raises_get_bind_iff, raises_bind_iff]
  simp only [raises_rethrow_iff, returns_rethrow_iff, raises_building_iff, returns_building_iff]
  refine or_congr ⟨?_, ?_⟩ ⟨?_, ?_⟩
  · rintro ⟨cause, ⟨built, hraises, hreader⟩, hfault⟩
    exact ⟨cause, built, hraises, hreader, hfault⟩
  · rintro ⟨cause, built, hraises, hreader, hfault⟩
    exact ⟨cause, ⟨built, hraises, hreader⟩, hfault⟩
  · rintro ⟨license, _, ⟨built, hbuild, rfl⟩, hrest⟩
    exact ⟨license, built, hbuild, hrest⟩
  · rintro ⟨license, built, hbuild, hrest⟩
    exact ⟨license, _, ⟨built, hbuild, rfl⟩, hrest⟩

/-- Where licenses are not built, there is a first draft that makes none, and the fault says that it
stands in the document of that one. Assumes: drafts with builders and different categories, and what
has been built before is what the declarations build. -/
theorem exists_first_of_raises_buildLicenses
    (hroots : ∀ entry ∈ drafts, ∃ builder, entry.2.root = some (.builder builder))
    (hsound : reader.Sound)
    (hdistinct : (before.map License.id ++
      drafts.filterMap fun entry ↦ unlessBlank entry.2.category).Nodup)
    (hraises : Raises (buildLicenses before drafts) reader fault reader') :
    ∃ passed entry rest, drafts = passed ++ entry :: rest ∧
      (∀ other ∈ passed, ∃ license, other.2.Makes reader.identifiers.builders license) ∧
      (¬∃ license, entry.2.Makes reader.identifiers.builders license) ∧
      fault.StandsIn entry.1.source := by
  induction drafts generalizing reader before with
  | nil => exact absurd hraises not_raises_pure
  | cons entry rest ih =>
    obtain ⟨node, draft⟩ := entry
    rw [List.forall_mem_cons] at hroots
    rcases raises_buildLicenses_cons_iff.mp hraises with
      ⟨cause, built, hfails, _, rfl⟩ | ⟨license, built, hbuild, hrest⟩
    · refine ⟨[], (node, draft), rest, rfl, List.forall_mem_nil _, ?_, ?_⟩
      · rintro ⟨license, hmakes⟩
        obtain ⟨_, hbuild⟩ := (LicenseDraft.exists_returns_build_iff hroots.1 hsound).mpr hmakes
        cases hfails.symm.trans hbuild
      · exact standsIn_locatedAt (LicenseDraft.standsIn_of_raises_build hroots.1 hfails)
    · have hmakes : draft.Makes reader.identifiers.builders license :=
        (LicenseDraft.exists_returns_build_iff hroots.1 hsound).mp ⟨built, hbuild⟩
      have hcategory : unlessBlank draft.category = some license.id := hmakes.category
      rw [List.filterMap_cons, hcategory] at hdistinct
      have hfree : ¬before.any (·.id == license.id) = true := by
        intro htaken
        obtain ⟨other, hother, hsame⟩ := List.any_eq_true.mp htaken
        have hmem : license.id ∈ before.map License.id :=
          List.mem_map.mpr ⟨other, hother, beq_iff_eq.mp hsame⟩
        exact List.disjoint_of_nodup_append hdistinct hmem List.mem_cons_self
      rw [if_neg hfree] at hrest
      have hbuilt : (reader.remembering built).Sound :=
        LicenseDraft.sound_of_returns_build hroots.1 hsound hbuild
      have hnext : ((before ++ [license]).map License.id ++
          rest.filterMap fun entry ↦ unlessBlank entry.2.category).Nodup := by
        rw [List.map_append, List.map_singleton, List.append_assoc]
        exact hdistinct
      obtain ⟨passed, entry, later, rfl, hpassed, hentry, hstands⟩ :=
        ih hroots.2 hbuilt hnext hrest
      refine ⟨(node, draft) :: passed, entry, later, rfl, ?_, hentry, hstands⟩
      exact List.forall_mem_cons.mpr ⟨⟨license, hmakes⟩, hpassed⟩

end Building

end Reader

/-- A license is made of a declaration if its category and its name are there and the builder of the
element in it builds a matcher. -/
theorem Node.exists_makes_draftIn_iff [Installation] {builders : List (String × Builder)}
    {kinds : KindTable} {node root : Node} (hroots : node.roots = [root])
    (hcategory : node.category?.isSome = true) (hname : node.name?.isSome = true) :
    (∃ license, (node.draftIn kinds).Makes builders license) ↔
      ∃ matcher, Builder.Builds builders (root.builderIn kinds) matcher := by
  have hroot : (node.draftIn kinds).root = some (.builder (root.builderIn kinds)) :=
    root_draftIn hroots
  constructor
  · rintro ⟨license, hmakes⟩
    obtain ⟨builder, hbuilder, hbuilds⟩ := hmakes.matcher
    cases hroot.symm.trans hbuilder
    exact ⟨license.matcher, hbuilds⟩
  · rintro ⟨matcher, hbuilds⟩
    obtain ⟨category, hcategory⟩ := Option.isSome_iff_exists.mp hcategory
    obtain ⟨name, hname⟩ := Option.isSome_iff_exists.mp hname
    exact ⟨⟨⟨category, name⟩, matcher, _, _⟩, hcategory, hname, ⟨_, hroot, hbuilds⟩, rfl, rfl⟩

namespace Document.FlawedElement

variable {kinds : KindTable} {document : Document} {flaw : Node} [Installation]

/-- The element that an element is in asks for it, directly or on the way. -/
theorem asks_of_mem_elements (hflawed : document.FlawedElement kinds flaw) (node : Node)
    (hnode : node ∈ document.elements) (hflaw : flaw ∈ node.elements) :
    Relation.ReflTransGen (document.Asks kinds) node flaw := by
  induction node using Node.induction_children with
  | step node ih =>
    by_cases hsame : node = flaw
    · rw [hsame]
    · rw [Node.elements_eq, List.mem_append, List.mem_flatMap, List.mem_singleton] at hflaw
      obtain ⟨child, hchild, hinner⟩ := hflaw.resolve_right (Ne.symm hsame)
      exact .head ⟨hflawed.others node hnode hsame, .inl hchild⟩
        (ih child hchild (child_mem_elements hnode hchild) hinner)

/-- A flaw is asked for: by the license that it stands in, if by no other. -/
theorem exists_asksFor (hflawed : document.FlawedElement kinds flaw) :
    ∃ license ∈ document.licenses, document.AsksFor kinds license flaw := by
  obtain ⟨license, hlicense, hmem⟩ := List.mem_flatMap.mp hflawed.mem
  obtain ⟨root, hroot, hflaw⟩ := List.mem_flatMap.mp hmem
  exact ⟨license, hlicense, root, hroot,
    hflawed.asks_of_mem_elements root (root_mem_elements hlicense hroot) hflaw⟩

theorem accepted_of_mem (hflawed : document.FlawedElement kinds flaw)
    (haccepted : ∃ kind, flaw.accepted kinds = .ok kind) :
    ∀ element ∈ document.elements, ∃ kind, element.accepted kinds = .ok kind := by
  intro element helement
  by_cases hsame : element = flaw
  · rw [hsame]
    exact haccepted
  · exact (hflawed.others element helement hsame).accepted

/-- A license is made unless it asks for the flaw. -/
theorem exists_makes_iff (hflawed : document.FlawedElement kinds flaw)
    (haccepted : ∃ kind, flaw.accepted kinds = .ok kind) {license : Node}
    (hlicense : license ∈ document.licenses) :
    (∃ made, (license.draftIn kinds).Makes (document.declarationsIn kinds) made) ↔
      ¬document.AsksFor kinds license flaw := by
  obtain ⟨root, hroots⟩ := (hflawed.licenses license hlicense).root
  have hroot : root ∈ license.roots := hroots ▸ List.mem_singleton_self root
  have helement := root_mem_elements hlicense hroot
  rw [Node.exists_makes_draftIn_iff hroots (hflawed.categories license hlicense)
      (hflawed.names license hlicense),
    exists_builds_iff_fits hflawed.ids (hflawed.accepted_of_mem haccepted) hflawed.acyclic helement,
    AsksFor, hroots]
  constructor
  · rintro hfits ⟨_, hsame, hasks⟩
    cases List.mem_singleton.mp hsame
    exact hflawed.flawed (hfits flaw hasks)
  · intro hnone inner hasks
    refine hflawed.others inner (mem_elements_of_asks helement hasks) ?_
    rintro rfl
    exact hnone ⟨root, List.mem_singleton_self root, hasks⟩

end Document.FlawedElement

namespace Reader

section Loading

variable {reader : Reader} {document : Document} {flaw : Node} [Installation]

/-- An element that is not accepted is found when the licenses are read. -/
theorem exists_raises_readEachLicense (hflawed : document.FlawedElement reader.kinds flaw)
    (hnone : reader.identifiers = {})
    (hrefused : ¬∃ kind, flaw.accepted reader.kinds = .ok kind) :
    ∃ fault reader', Raises (readEachLicense document.licenses) reader fault reader' ∧
      fault.StandsIn flaw.source := by
  rcases returns_or_raises (readEachLicense document.licenses) reader with
    ⟨drafts, reader', hreturns⟩ | ⟨fault, reader', hraises⟩
  · obtain ⟨_, haccepted, _⟩ := returns_draftsIn_iff.mp hreturns
    obtain ⟨license, hlicense, hmem⟩ := List.mem_flatMap.mp hflawed.mem
    obtain ⟨root, hroot, hflaw⟩ := List.mem_flatMap.mp hmem
    exact absurd (haccepted license hlicense root hroot flaw hflaw) hrefused
  · refine ⟨fault, reader', hraises, ?_⟩
    have hids : (reader.declaredIds ++ document.licenses.flatMap Node.heldIds).Nodup := by
      rw [declaredIds, hnone, ← document.ids_eq_flatMap]
      exact hflawed.ids
    obtain ⟨element, helement, hfault⟩ :=
      exists_refused_of_raises_licenses hflawed.licenses hraises hids
    by_cases hsame : element = flaw
    · rw [← hsame]
      exact Node.standsIn_of_refused hfault
    · obtain ⟨kind, haccepted⟩ := (hflawed.others element helement hsame).accepted
      cases haccepted.symm.trans hfault

/-- The declarations are read if the flaw is one that is accepted. -/
theorem returns_readEachLicense_of_flawed (hflawed : document.FlawedElement reader.kinds flaw)
    (hnone : reader.identifiers = {})
    (haccepted : ∃ kind, flaw.accepted reader.kinds = .ok kind) :
    Returns (readEachLicense document.licenses) reader
      (document.licenses.map fun node ↦ (node, node.draftIn reader.kinds))
      (reader.declaring (document.declarationsIn reader.kinds)) := by
  have hroots : ∀ license ∈ document.licenses, ∀ root ∈ license.roots,
      root.Accepted reader.kinds := by
    intro license hlicense root hroot element helement
    exact hflawed.accepted_of_mem haccepted element
      (Document.mem_elements_trans (Document.root_mem_elements hlicense hroot) element helement)
  have hfresh : reader.Fresh (document.declarationsIn reader.kinds) := by
    refine fresh_of_new hnone ?_
    rw [Document.declarationsIn_map_fst]
    exact hflawed.ids
  exact returns_draftsIn_iff.mpr ⟨hflawed.licenses, hroots, hfresh, rfl, rfl⟩

/-- An element that is accepted is found when the first license that asks for it is built. -/
theorem exists_raises_buildLicenses (hflawed : document.FlawedElement reader.kinds flaw)
    (hnone : reader.identifiers = {})
    (haccepted : ∃ kind, flaw.accepted reader.kinds = .ok kind) :
    ∃ fault reader',
      Raises (buildLicenses [] (document.licenses.map fun node ↦ (node, node.draftIn reader.kinds)))
        (reader.declaring (document.declarationsIn reader.kinds)) fault reader' ∧
      document.ElementFault reader.kinds flaw fault := by
  set drafts := document.licenses.map fun node ↦ (node, node.draftIn reader.kinds) with hdrafts
  set read := reader.declaring (document.declarationsIn reader.kinds) with hread
  have hbuilders : read.identifiers.builders = document.declarationsIn reader.kinds := by
    rw [hread, identifiers_declaring_of_new hnone]
  have hsound : read.Sound := sound_declaring_of_new hnone _
  have hroots : ∀ entry ∈ drafts, ∃ builder, entry.2.root = some (.builder builder) :=
    Node.roots_draftsIn reader.kinds hflawed.licenses
  have hmakes (license : Node) (hlicense : license ∈ document.licenses) :
      (∃ made, (license.draftIn reader.kinds).Makes read.identifiers.builders made) ↔
        ¬document.AsksFor reader.kinds license flaw := by
    rw [hbuilders]
    exact hflawed.exists_makes_iff haccepted hlicense
  rcases returns_or_raises (buildLicenses [] drafts) read with
    ⟨made, last, hreturns⟩ | ⟨fault, last, hraises⟩
  · -- The license that the flaw stands in is not made.
    obtain ⟨license, hlicense, hasks⟩ := hflawed.exists_asksFor
    obtain ⟨hmade, _⟩ := (exists_returns_buildLicenses_nil_iff hroots hsound).mp ⟨last, hreturns⟩
    have hdraft : license.draftIn reader.kinds ∈ drafts.map (·.2) := by
      rw [hdrafts, List.map_map]
      exact List.mem_map_of_mem hlicense
    obtain ⟨made, _, hmakesOne⟩ := exists_of_mem_of_forall₂ hmade hdraft
    exact absurd hasks ((hmakes license hlicense).mp ⟨made, hmakesOne⟩)
  · have hdistinct : (([] : List License).map License.id ++
        drafts.filterMap fun entry ↦ unlessBlank entry.2.category).Nodup := by
      rw [List.map_nil, List.nil_append, hdrafts, List.filterMap_map]
      exact hflawed.distinct
    obtain ⟨passed, entry, rest, hsplit, hpassed, hentry, hstands⟩ :=
      exists_first_of_raises_buildLicenses hroots hsound hdistinct hraises
    obtain ⟨before, behind, hlicenses, rfl, hbehind⟩ := List.map_eq_append_iff.mp hsplit
    obtain ⟨license, after, rfl, rfl, rfl⟩ := List.map_eq_cons_iff.mp hbehind
    have hmem : ∀ other ∈ before ++ license :: after, other ∈ document.licenses := by
      rw [hlicenses]
      exact fun _ ↦ id
    refine ⟨fault, last, hraises, .inr ⟨haccepted, before, license, after, hlicenses, ?_, ?_,
      hstands⟩⟩
    · intro other hother
      exact (hmakes other (hmem other (List.mem_append_left _ hother))).mp
        (hpassed _ (List.mem_map_of_mem hother))
    · by_contra hasks
      exact hentry ((hmakes license (hmem license (List.mem_append_right _
        List.mem_cons_self))).mpr hasks)

end Loading

section Documents

variable {catalogue : Catalogue} {kinds : KindTable} {document : Document} {flaw : Node}
  [Installation]

/-- Where the declarations of kinds are taken but for one, the licenses are not read, and the fault
is due to that one. -/
theorem exists_raises_of_flawedKind (hflawed : document.FlawedKind catalogue.kind? kinds flaw) :
    ∃ fault reader', Raises readLicenses (holding catalogue kinds document) fault reader' ∧
      flaw.KindFault catalogue.kind? fault := by
  obtain ⟨before, after, hmatchers, hothers⟩ := hflawed.others
  have hdocument : (holding catalogue kinds document).document = some document := rfl
  have hnone : (holding catalogue kinds document).licenses = none := rfl
  obtain ⟨middle, hreturns⟩ : ∃ middle, Returns (readEachKind (before ++ after))
      (holding catalogue kinds document) () middle :=
    exists_returns_readEachKind_iff.mpr hothers
  rcases returns_or_raises (readEachKind document.matchers) (holding catalogue kinds document) with
    ⟨_, later, hreads⟩ | ⟨fault, later, hfails⟩
  · exact absurd (exists_returns_readEachKind_iff.mp ⟨later, hreads⟩) hflawed.flawed
  · have hraises : Raises readKinds (holding catalogue kinds document) fault later := by
      rw [readKinds, raises_get_bind_iff, hdocument]
      exact raises_bind_iff.mpr (.inl hfails)
    rw [hmatchers] at hfails
    exact ⟨fault, later, (raises_readLicenses_iff hnone).mpr (.inl hraises),
      kindFault_of_raises_readEachKind hreturns hfails⟩

/-- Where the elements are in order but for one, the licenses are not read, and the fault is due to
that one. -/
theorem exists_raises_of_flawedElement {bound : Reader}
    (hkinds : Returns readKinds (holding catalogue kinds document) () bound)
    (hflawed : document.FlawedElement bound.kinds flaw) :
    ∃ fault reader', Raises readLicenses (holding catalogue kinds document) fault reader' ∧
      document.ElementFault bound.kinds flaw fault := by
  have hnone : (holding catalogue kinds document).licenses = none := rfl
  have hunmoved := (keeps_unmoved_readKinds _).of_returns (Unmoved.refl _) hkinds
  have hidentifiers : bound.identifiers = {} := hunmoved.identifiers
  have hdocument : bound.document = some document := hunmoved.document
  have hheld : bound.document.getD {} = document := by rw [hdocument, Option.getD_some]
  by_cases haccepted : ∃ kind, flaw.accepted bound.kinds = .ok kind
  · have hread := returns_readEachLicense_of_flawed hflawed hidentifiers haccepted
    obtain ⟨fault, reader', hraises, hfault⟩ :=
      exists_raises_buildLicenses hflawed hidentifiers haccepted
    rw [← hheld] at hread
    exact ⟨fault, reader', (raises_readLicenses_iff hnone).mpr
      (.inr ⟨bound, hkinds, .inr ⟨_, _, hread, .inl (hheld.symm ▸ hraises)⟩⟩), hfault⟩
  · obtain ⟨fault, reader', hraises, hstands⟩ :=
      exists_raises_readEachLicense hflawed hidentifiers haccepted
    rw [← hheld] at hraises
    exact ⟨fault, reader', (raises_readLicenses_iff hnone).mpr (.inr ⟨bound, hkinds, .inl hraises⟩),
      .inl ⟨haccepted, hstands⟩⟩

/-- Documents that are in order but for one declaration are not loaded, in whatever order they are
added. If the flaw is the declaration of a kind, the fault is in its document, or it is a clash of
tags, which is in no document. If the flaw is an element, the fault is in its document where the
element is not accepted; otherwise it is in the document of the first license that asks for the
element. -/
theorem load_error_source (catalogue : Catalogue) (kinds : KindTable) (documents : List Document)
    (flaw : Node) :
    ((Document.mergeAll documents).FlawedKind catalogue.kind? kinds flaw →
      ∃ fault, (loadDocuments catalogue kinds documents).1 = .error fault ∧
        flaw.KindFault catalogue.kind? fault) ∧
    ∀ bound, Returns readKinds (holding catalogue kinds (.mergeAll documents)) () bound →
      (Document.mergeAll documents).FlawedElement bound.kinds flaw →
      ∃ fault, (loadDocuments catalogue kinds documents).1 = .error fault ∧
        (Document.mergeAll documents).ElementFault bound.kinds flaw fault := by
  rw [loadDocuments_eq]
  constructor
  · intro hflawed
    obtain ⟨fault, _, hraises, hfault⟩ := exists_raises_of_flawedKind hflawed
    exact ⟨fault, congrArg Prod.fst hraises, hfault⟩
  · intro bound hkinds hflawed
    obtain ⟨fault, _, hraises, hfault⟩ := exists_raises_of_flawedElement hkinds hflawed
    exact ⟨fault, congrArg Prod.fst hraises, hfault⟩

end Documents

/-- A text without anything to look for, declared under an identifier. -/
def emptyText : Node :=
  { tag := "text", attributes := [("id", "x")], source := "b.xml" }

/-- A reference to the declaration of `emptyText`. -/
def pointer : Node :=
  { tag := "matcher_ref", attributes := [("refid", "x")], source := "a.xml" }

/-- A document whose license asks for an element of another document, `emptyTextDocument`. -/
def askingDocument : Document :=
  { licenses :=
      [{ tag := "license", attributes := [("id", "A"), ("name", "Alpha")], children := [pointer]
         source := "a.xml" }]
    sources := ["a.xml"] }

@[inherit_doc askingDocument]
def emptyTextDocument : Document :=
  { licenses :=
      [{ tag := "license", attributes := [("id", "B"), ("name", "Beta")], children := [emptyText]
         source := "b.xml" }]
    sources := ["b.xml"] }

theorem elements_emptyText :
    (Document.mergeAll [askingDocument, emptyTextDocument]).elements = [pointer, emptyText] := by
  cbv

theorem ids_emptyText :
    (Document.mergeAll [askingDocument, emptyTextDocument]).ids = ["x"] := by
  cbv

theorem not_fits_emptyText [Installation] (ids : List String) : ¬emptyText.Fits .builtIn ids := by
  rintro ⟨_, hholds, _⟩
  exact hholds.1 (by cbv)

theorem fits_pointer [Installation] :
    pointer.Fits .builtIn (Document.mergeAll [askingDocument, emptyTextDocument]).ids := by
  refine ⟨⟨.reference, by cbv⟩, ?_, ?_⟩
  · have hkind : pointer.kindIn .builtIn = .reference := by cbv
    rw [hkind]
    show pointer.refid ≠ ""
    decide +kernel
  · rintro _ ⟨_, rfl⟩
    rw [ids_emptyText]
    exact List.mem_singleton.mpr (by cbv)

/-- In the two documents the reference asks for the empty text, and nothing else asks. -/
theorem eq_of_asks_emptyText [Installation] {first second : Node}
    (hfirst : first ∈ (Document.mergeAll [askingDocument, emptyTextDocument]).elements)
    (hasks : (Document.mergeAll [askingDocument, emptyTextDocument]).Asks .builtIn first second) :
    first = pointer ∧ second = emptyText := by
  obtain ⟨hfits, hleads⟩ := hasks
  rw [elements_emptyText, List.mem_pair] at hfirst
  rcases hfirst with rfl | rfl
  · refine ⟨rfl, ?_⟩
    rcases hleads with hchild | ⟨id, _, hsecond, hown⟩
    · cases hchild
    · rw [elements_emptyText, List.mem_pair] at hsecond
      rcases hsecond with rfl | rfl
      · cases hown
      · rfl
  · exact absurd hfits (not_fits_emptyText _)

/-- The empty text is all that is wrong with the two documents. -/
theorem flawedElement_emptyText [Installation] :
    (Document.mergeAll [askingDocument, emptyTextDocument]).FlawedElement .builtIn emptyText := by
  constructor
  case licenses =>
    intro license hlicense
    rcases List.mem_pair.mp hlicense with rfl | rfl
    · exact ⟨by decide, pointer, by cbv⟩
    · exact ⟨by decide, emptyText, by cbv⟩
  case categories =>
    intro license hlicense
    rcases List.mem_pair.mp hlicense with rfl | rfl <;> cbv
  case names =>
    intro license hlicense
    rcases List.mem_pair.mp hlicense with rfl | rfl <;> cbv
  case distinct =>
    have hcategories :
        (Document.mergeAll [askingDocument, emptyTextDocument]).categories = ["A", "B"] := by
      cbv
    rw [hcategories]
    decide
  case ids =>
    rw [ids_emptyText]
    exact List.nodup_singleton "x"
  case acyclic =>
    intro element helement hcircular
    obtain ⟨next, hfirst, hlater⟩ := Relation.TransGen.head'_iff.mp hcircular
    obtain ⟨rfl, rfl⟩ := eq_of_asks_emptyText helement hfirst
    rcases hlater.cases_head with hsame | ⟨_, hsecond, _⟩
    · exact absurd (congrArg Node.attributes hsame) (by decide)
    · exact not_fits_emptyText _ hsecond.1
  case others =>
    intro element helement hother
    rw [elements_emptyText, List.mem_pair] at helement
    rcases helement with rfl | rfl
    · exact fits_pointer
    · exact absurd rfl hother
  case mem =>
    rw [elements_emptyText]
    exact List.mem_cons_of_mem _ (List.mem_singleton_self _)
  case flawed => exact not_fits_emptyText _

section Sample

open Sample

/-- The empty text stands in one document, and the fault is in the document that refers to it. -/
theorem load_error_source_reference :
    (Document.mergeAll [askingDocument, emptyTextDocument]).FlawedElement .builtIn emptyText ∧
      ∃ fault, (loadDocuments {} .builtIn [askingDocument, emptyTextDocument]).1 = .error fault ∧
        (Document.mergeAll [askingDocument, emptyTextDocument]).ElementFault .builtIn emptyText
          fault := by
  let documents := [askingDocument, emptyTextDocument]
  have hkinds : Returns readKinds (holding {} .builtIn (.mergeAll documents)) ()
      (holding {} .builtIn (.mergeAll documents)) := returns_readKinds_of_drop_nil rfl rfl
  exact ⟨flawedElement_emptyText,
    (load_error_source {} .builtIn documents emptyText).2 _ hkinds flawedElement_emptyText⟩

/-- A fault is not always in the document that the one flaw stands in. -/
theorem load_error_source_misplaced :
    ¬∀ (documents : List Document) (document : Document) (flaw : Node) (source : String)
        (fault : Fault),
      (documents.map Document.sources).Nodup →
      (∀ other ∈ documents, ∃ name, name ≠ "" ∧ other.sources = [name]) →
      (Document.mergeAll documents).FlawedElement .builtIn flaw →
      document ∈ documents → flaw ∈ document.elements → document.sources = [source] →
      (loadDocuments {} .builtIn documents).1 = .error fault → fault.StandsIn source := by
  intro hclaim
  have hnames : ∀ other ∈ [askingDocument, emptyTextDocument],
      ∃ name, name ≠ "" ∧ other.sources = [name] := by
    intro other hother
    rcases List.mem_pair.mp hother with rfl | rfl
    · exact ⟨"a.xml", by decide, rfl⟩
    · exact ⟨"b.xml", by decide, rfl⟩
  have hdocument : emptyTextDocument ∈ [askingDocument, emptyTextDocument] :=
    List.mem_cons_of_mem _ (List.mem_singleton_self _)
  have hflaw : emptyText ∈ emptyTextDocument.elements := List.mem_singleton_self _
  have hfault : (loadDocuments {} .builtIn [askingDocument, emptyTextDocument]).1 =
      .error (.of .textMissing "a.xml" "text") := by
    cbv
  have hstands := hclaim _ emptyTextDocument emptyText "b.xml" _ (by decide) hnames
    flawedElement_emptyText hdocument hflaw rfl hfault
  exact absurd hstands (by decide : ("a.xml" : String) ≠ "b.xml")

end Sample

end Reader

end LicenseHeaders
