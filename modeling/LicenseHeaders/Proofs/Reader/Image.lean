import LicenseHeaders.Proofs.Reader.Ownership
import LicenseHeaders.Proofs.Reader.Retry
import LicenseHeaders.Sample

/-!
# What is read from documents

A reader that has not been asked for licenses yet is `Reader.Unread`: whatever was added to it or
plugged into it, and however often kinds were asked for, it has built and declared nothing. The
first time that it returns licenses, they are those of its document (`Document.Yields`), and what it
has declared and built besides belongs to them (`Reader.HasRead`). This is
`Reader.hasRead_of_returns`, the one place where the passes are put together; the rest of the module
reads off what a caller sees of it.

`Reader.licenses_mirror_document` is the main result. There is one license for each declaration, it
says what is written there (`Node.Describes`), and the licenses come in the order of their
categories. The identifiers that are declared are those that are written, and there is a matcher
for each of them. The approved categories are those that the families name
(`Reader.mem_of_readFamilies_iff`), or all of them where there are no families.
-/

set_option autoImplicit false
set_option relaxedAutoImplicit false

namespace LicenseHeaders

open Text

/-- What is left of a text without blanks at its ends is there if it is not empty. -/
theorem unlessBlank_eq_some_iff {text : Option String} {value : String} :
    unlessBlank text = some value ↔ value ≠ "" ∧ text.map trimmed = some value := by
  rw [unlessBlank, Option.filter_eq_some_iff, and_comm, Bool.not_eq_true', ← Bool.not_eq_true,
    String.isEmpty_iff]

/-! ### What a document yields -/

/-- A license says what is written in its declaration: the category and the name are the attributes
without blanks around them, and so is the category that it derives from, if anything is left of it.
The notes are those of the declaration, each on lines of its own, if anything is left of them. -/
structure Node.Describes (node : Node) (license : License) : Prop where
  category : (node.get? "id").map trimmed = some license.family.category
  name : (node.get? "name").map trimmed = some license.family.name
  notBlank : license.family.category ≠ "" ∧ license.family.name ≠ ""
  derivedFrom : ∀ category, license.derivedFrom = some category ↔
    category ≠ "" ∧ (node.get? "derived_from").map trimmed = some category
  notes : ∀ text, license.notes = some text ↔ text ≠ "" ∧ trimmed node.notes = text

/-- What is made of the draft of a declaration says what is written there. -/
theorem Node.describes_of_makes [Installation] {kinds : KindTable}
    {builders : List (String × Builder)} {node : Node} {license : License}
    (hmakes : (node.draftIn kinds).Makes builders license) :
    node.Describes license := by
  obtain ⟨hcategory, hname, _, hnotes, hderived⟩ := hmakes
  rw [category_draftIn, unlessBlank_eq_some_iff] at hcategory
  rw [name_draftIn, unlessBlank_eq_some_iff] at hname
  refine ⟨hcategory.2, hname.2, ⟨hcategory.1, hname.1⟩, fun category ↦ ?_, fun text ↦ ?_⟩
  · rw [hderived, derivedFrom_draftIn, unlessBlank_eq_some_iff]
  · rw [hnotes, notes_draftIn, unlessBlank_eq_some_iff, Option.map_some, Option.some.injEq]

namespace Document

/-- With a table of kinds a document yields licenses, one for each declaration and no two of one
category. -/
structure Yields [Installation] (kinds : KindTable) (document : Document) (made : List License) :
    Prop where
  holds : ∀ node ∈ document.licenses, node.HoldsLicense
  accepted : ∀ node ∈ document.licenses, ∀ root ∈ node.roots, root.Accepted kinds
  ids : document.ids.Nodup
  makes : List.Forall₂ (fun node ↦ (node.draftIn kinds).Makes (document.declarationsIn kinds))
    document.licenses made
  distinct : (made.map License.id).Nodup

end Document

/-! ### Approved families -/

namespace Reader

section Families

variable {nodes : List Node} {categories approved : List String}

/-- The approved categories are all of them, or those that the families name. -/
theorem readFamilies_eq_ok (hread : readFamilies nodes categories = .ok approved) :
    (nodes = [] ∧ approved = sorted categories) ∨
      (nodes ≠ [] ∧ ∃ named, approved = sorted named.eraseDups ∧
        List.Forall₂ (fun node category ↦ readFamily categories node = .ok category) nodes
          named) := by
  rw [readFamilies] at hread
  by_cases hnone : nodes = []
  · rw [if_pos (List.isEmpty_iff.mpr hnone), Except.ok.injEq] at hread
    exact .inl ⟨hnone, hread.symm⟩
  · rw [if_neg (mt List.isEmpty_iff.mp hnone)] at hread
    rcases hnamed : nodes.mapM (readFamily categories) with fault | named
    · rw [hnamed] at hread
      cases hread
    · rw [hnamed] at hread
      cases hread
      exact .inr ⟨hnone, named, rfl, mapM_eq_ok_iff.mp hnamed⟩

/-- Approved categories increase. -/
theorem pairwise_of_readFamilies (hread : readFamilies nodes categories = .ok approved)
    (hnodup : categories.Nodup) : approved.Pairwise (· < ·) := by
  rcases readFamilies_eq_ok hread with ⟨_, rfl⟩ | ⟨_, named, rfl, _⟩
  · exact pairwise_lt_sorted hnodup
  · exact pairwise_lt_sorted (nodup_eraseDups named)

/-- Without families every category is approved. -/
theorem mem_of_readFamilies_nil_iff (hread : readFamilies [] categories = .ok approved)
    {category : String} : category ∈ approved ↔ category ∈ categories := by
  rcases readFamilies_eq_ok hread with ⟨_, rfl⟩ | ⟨hne, _⟩
  · exact mem_sorted
  · exact absurd rfl hne

/-- With families those categories are approved that are named in one of them. -/
theorem mem_of_readFamilies_iff (hread : readFamilies nodes categories = .ok approved)
    (hnodes : nodes ≠ []) {category : String} :
    category ∈ approved ↔
      ∃ node ∈ nodes, (node.get? "license_ref").map trimmed = some category := by
  rcases readFamilies_eq_ok hread with ⟨hnone, _⟩ | ⟨_, named, rfl, hnamed⟩
  · exact absurd hnone hnodes
  rw [mem_sorted, List.mem_eraseDups]
  constructor
  · intro hcategory
    obtain ⟨node, hnode, hfamily⟩ := exists_of_mem_of_forall₂ hnamed.flip hcategory
    have hreference := (readFamily_eq_ok_iff.mp hfamily).2.1
    exact ⟨node, hnode, (unlessBlank_eq_some_iff.mp hreference).2⟩
  · rintro ⟨node, hnode, hwritten⟩
    obtain ⟨found, hfound, hfamily⟩ := exists_of_mem_of_forall₂ hnamed hnode
    have hreference := (readFamily_eq_ok_iff.mp hfamily).2.1
    cases hwritten.symm.trans (unlessBlank_eq_some_iff.mp hreference).2
    exact hfound

/-- What a family names is a category that there is. -/
theorem exists_of_readFamilies (hread : readFamilies nodes categories = .ok approved) {node : Node}
    (hnode : node ∈ nodes) :
    ∃ category ∈ categories, (node.get? "license_ref").map trimmed = some category := by
  obtain ⟨_, category, hcategory, hreference⟩ := exists_readFamilies_iff.mp ⟨approved, hread⟩ node
    hnode
  exact ⟨category, hcategory, (unlessBlank_eq_some_iff.mp hreference).2⟩

/-- What is approved is a category that there is. -/
theorem subset_of_readFamilies (hread : readFamilies nodes categories = .ok approved) :
    approved ⊆ categories := by
  intro category hcategory
  by_cases hnone : nodes = []
  · subst hnone
    exact (mem_of_readFamilies_nil_iff hread).mp hcategory
  · obtain ⟨node, hnode, hwritten⟩ := (mem_of_readFamilies_iff hread hnone).mp hcategory
    obtain ⟨found, hfound, hnamed⟩ := exists_of_readFamilies hread hnode
    cases hwritten.symm.trans hnamed
    exact hfound

end Families

/-! ### The first reading -/

/-- A reader that has a document and has declared, built and read nothing from it but kinds. -/
structure Unread (reader : Reader) (document : Document) : Prop where
  licenses : reader.licenses = none
  approved : reader.approved = none
  document : reader.document = some document
  identifiers : reader.identifiers = {}

/-- A reader has read a document: the licenses are those that the document yields, what is approved
is what its families say, and what has been declared and built is what is written in it. -/
structure HasRead [Installation] (reader : Reader) (document : Document) (made : List License)
    (approved : List String) : Prop where
  yields : document.Yields reader.kinds made
  families : readFamilies document.families (made.map License.id) = .ok approved
  approved : reader.approved = some approved
  declared : reader.declaredIds = document.ids
  sound : reader.Sound
  holds : reader.Holds made
  owned : List.Forall₂ Node.Owns document.licenses made

section First

variable {reader reader' : Reader} {document : Document} {licenses made : List License}
  {approved : List String}

theorem Unread.of_unmoved (hunread : reader.Unread document) (hunmoved : reader.Unmoved reader') :
    reader'.Unread document :=
  ⟨hunmoved.licenses.trans hunread.licenses, hunmoved.approved.trans hunread.approved,
    hunmoved.document.trans hunread.document, hunmoved.identifiers.trans hunread.identifiers⟩

variable [Installation]

/-- Licenses that are returned for the first time are those of the document, in order. -/
theorem hasRead_of_returns (hunread : reader.Unread document)
    (hreturns : Returns readLicenses reader licenses reader') :
    ∃ bound made approved, Returns readKinds reader () bound ∧ reader'.kinds = bound.kinds ∧
      licenses = License.sort made ∧ reader'.HasRead document made approved := by
  obtain ⟨bound, hkinds, drafts, read, hread, made, built, hbuild, approved, hfamilies, rfl, rfl⟩ :=
    (returns_readLicenses_iff hunread.licenses).mp hreturns
  have hbound := hunread.of_unmoved
    ((keeps_unmoved_readKinds reader).of_returns (Unmoved.refl reader) hkinds)
  rw [hbound.document, Option.getD_some] at hread hfamilies
  have hroots := roots_of_returns_readEachLicense hread
  have hsound : bound.Sound := sound_of_built_nil (by rw [hbound.identifiers])
  have hamong : DeclaresAmong (document.licenses.flatMap Node.heldIds) bound := by
    rw [DeclaresAmong, declaredIds, hbound.identifiers]
    exact List.forall_mem_nil _
  obtain ⟨hholds, howned⟩ := holds_of_returns_buildLicenses hsound hamong hread hbuild
  obtain ⟨hlicenses, haccepted, hfresh, rfl, rfl⟩ := returns_draftsIn_iff.mp hread
  set declared := document.declarationsIn bound.kinds with hdeclared
  have hstart := identifiers_declaring_of_new hbound.identifiers declared
  have hstartSound := sound_declaring_of_new hbound.identifiers declared
  obtain ⟨hmakes, hdistinct⟩ := (exists_returns_buildLicenses_nil_iff hroots hstartSound).mp
    ⟨built, hbuild⟩
  rw [List.map_map, List.forall₂_map_left_iff] at hmakes
  have hbuilds := (keeps_builds_buildLicenses (bound.declaring declared) [] _).of_returns
    (Builds.refl hstartSound) hbuild
  have hbuiltSound := hbuilds.sound
  obtain ⟨table, rfl, _⟩ := hbuilds
  have hids : document.ids.Nodup := by
    rw [← document.declarationsIn_map_fst bound.kinds]
    exact hfresh.nodup
  refine ⟨bound, made, approved, hkinds, rfl, rfl, ⟨hlicenses, haccepted, hids, ?_, hdistinct⟩,
    hfamilies, rfl, ?_, hbuiltSound, ⟨hholds.apart, hholds.registered⟩, howned⟩
  · rw [hstart] at hmakes
    exact hmakes
  · change (bound.declaring declared).identifiers.builders.map (·.1) = document.ids
    rw [hstart, hdeclared, Document.declarationsIn_map_fst]

/-- There is a matcher for every identifier that is written in the document, and for no other. -/
theorem HasRead.mem_built_iff (hread : reader.HasRead document made approved) (id : String) :
    id ∈ reader.identifiers.built.map (·.1) ↔ id ∈ document.ids := by
  rw [← exists_lookup_iff]
  constructor
  · rintro ⟨matcher, hmatcher⟩
    obtain ⟨builder, hbuilder, _⟩ := hread.sound id matcher hmatcher
    rw [← hread.declared]
    exact exists_lookup_iff.mp ⟨builder, hbuilder⟩
  · intro hid
    -- The identifier is written in a declaration, so a matcher in the license there is registered.
    rw [Document.ids_eq_flatMap] at hid
    obtain ⟨node, hnode, hid⟩ := List.mem_flatMap.mp hid
    obtain ⟨license, hlicense, howns⟩ := exists_of_mem_of_forall₂ hread.owned hnode
    obtain ⟨entry, hentry, rfl⟩ := List.mem_map.mp (howns.names.mem_iff.mpr hid)
    exact ⟨entry.2, hread.holds.registered license hlicense entry hentry⟩

end First

/-! ### Readers that have not been asked -/

end Reader

/-- The documents that are added. -/
def Action.documents : Action → List Document
  | .add document => [document]
  | .plugIn _ _ => []
  | .ask _ => []

/-- An action that does not ask for licenses or for approved categories. -/
def Action.Prepares : Action → Prop
  | .add _ | .plugIn _ _ | .ask .kinds => True
  | .ask .licenses | .ask .approved => False

namespace Reader

section Unread

variable {reader : Reader} {document : Document}

theorem unread_new (catalogue : Catalogue) (kinds : KindTable) :
    ({ catalogue, kinds } : Reader).Unread {} :=
  ⟨rfl, rfl, rfl, rfl⟩

variable [Installation]

/-- Unless licenses or approved categories are asked for, nothing is read but kinds. -/
theorem Unread.afterAction (hunread : reader.Unread document) {action : Action}
    (hprepares : action.Prepares) :
    (reader.afterAction action).Unread (action.documents.foldl Document.merge document) := by
  cases action with
  | add added =>
    rw [Reader.afterAction, add, run_get_bind, hunread.document]
    exact ⟨hunread.licenses, hunread.approved, rfl, hunread.identifiers⟩
  | plugIn name kind =>
    rw [Reader.afterAction]
    split
    · exact ⟨hunread.licenses, hunread.approved, hunread.document, hunread.identifiers⟩
    · exact hunread
  | ask request =>
    cases request with
    | kinds =>
      exact hunread.of_unmoved (keeps_unmoved_readKinds reader reader (Unmoved.refl reader))
    | licenses => exact hprepares.elim
    | approved => exact hprepares.elim

theorem Unread.afterActions (hunread : reader.Unread document) {actions : List Action}
    (hprepare : ∀ action ∈ actions, action.Prepares) :
    (reader.afterActions actions).Unread
      ((actions.flatMap Action.documents).foldl Document.merge document) := by
  induction actions generalizing reader document with
  | nil => exact hunread
  | cons action rest ih =>
    rw [List.forall_mem_cons] at hprepare
    rw [List.flatMap_cons, List.foldl_append]
    exact ih (hunread.afterAction hprepare.1) hprepare.2

end Unread

/-- The licenses that a reader returns first are the image of what was added to it. There is exactly
one license for each declaration, and it says what is written there; their categories increase. What
has been declared are the identifiers that are written in the licenses, none of them twice, and
there is a matcher for each of them and for no other. The approved categories increase and are
categories of licenses: all of them where there are no families, and otherwise those that are
written in families, each of which names the category of a license. Assumes: a reader that was not
asked for licenses or for approved categories before, and that returns its licenses. -/
theorem licenses_mirror_document [Installation] (catalogue : Catalogue) (kinds : KindTable)
    (actions : List Action) (hprepare : ∀ action ∈ actions, action.Prepares)
    {licenses : List License} {reader : Reader}
    (hreturns : Returns readLicenses (({ catalogue, kinds } : Reader).afterActions actions) licenses
      reader) :
    let document := Document.mergeAll (actions.flatMap Action.documents)
    (∃ made, List.Forall₂ Node.Describes document.licenses made ∧ made.Perm licenses) ∧
      (licenses.map License.id).Pairwise (· < ·) ∧
      document.ids.Nodup ∧ reader.declaredIds = document.ids ∧
      (∀ id, id ∈ reader.identifiers.built.map (·.1) ↔ id ∈ document.ids) ∧
      ∃ approved, Returns approvedCategories reader approved reader ∧
        approved.Pairwise (· < ·) ∧ approved ⊆ licenses.map License.id ∧
        (document.families = [] → licenses.map License.id ⊆ approved) ∧
        (document.families ≠ [] → ∀ category, category ∈ approved ↔
          ∃ node ∈ document.families, (node.get? "license_ref").map trimmed = some category) ∧
        ∀ node ∈ document.families, ∃ category ∈ licenses.map License.id,
          (node.get? "license_ref").map trimmed = some category := by
  intro document
  have hunread := (unread_new catalogue kinds).afterActions hprepare
  obtain ⟨_, made, approved, _, _, rfl, hread⟩ := hasRead_of_returns hunread hreturns
  have hperm := License.sort_perm made
  have hids := hperm.map License.id
  have hdistinct : ((License.sort made).map License.id).Nodup :=
    hids.nodup_iff.mpr hread.yields.distinct
  refine ⟨⟨made, hread.yields.makes.imp fun _ _ ↦ Node.describes_of_makes, hperm.symm⟩, ?_,
    hread.yields.ids, hread.declared, hread.mem_built_iff, approved,
    run_approvedCategories_of_some hread.approved,
    pairwise_of_readFamilies hread.families hread.yields.distinct, ?_, ?_, ?_, ?_⟩
  · have hsorted := List.pairwise_map.mpr (License.pairwise_sort made)
    exact (hsorted.and hdistinct).imp fun h ↦ lt_of_le_of_ne h.1 h.2
  · exact List.Subset.trans (subset_of_readFamilies hread.families) hids.symm.subset
  · intro hnone category hcategory
    have hfamilies := hread.families
    change readFamilies document.families _ = _ at hfamilies
    rw [hnone] at hfamilies
    exact (mem_of_readFamilies_nil_iff hfamilies).mpr (hids.mem_iff.mp hcategory)
  · intro hsome category
    exact mem_of_readFamilies_iff hread.families hsome
  · intro node hnode
    obtain ⟨category, hcategory, hwritten⟩ := exists_of_readFamilies hread.families hnode
    exact ⟨category, hids.mem_iff.mpr hcategory, hwritten⟩

/-- A document with two licenses in which blanks stand around everything that is trimmed, notes, a
reference that leads forward, and a family that is named twice. -/
def spacedDocument : Document :=
  let note (text : String) : Node := { tag := "note", text }
  let reference : Node := { tag := "matcher_ref", attributes := [("refid", "t")] }
  let word : Node := { tag := "word", attributes := [("id", " t ")], text := "Foo" }
  let group : Node := { tag := "or", attributes := [("id", "u")], children := [word] }
  let family (category : String) : Node :=
    { tag := "family", attributes := [("license_ref", category)] }
  { licenses :=
      [{ tag := "license", attributes := [("id", "B "), ("name", " Beta"), ("derived_from", " ")]
         children := [note "one", reference, note " two "] },
        { tag := "license", attributes := [("id", " A"), ("name", "Alpha"), ("derived_from", " B")]
          children := [note " ", group] }]
    families := [family " B", family "B "] }

@[inherit_doc spacedDocument]
def wordDocument : Document :=
  { matchers := [{ tag := "matcher", attributes := [("factory", "text"), ("name", "word")] }] }

/-- A new reader that is given both documents and asked for kinds in between. -/
def spacedActions : List Action :=
  [.add wordDocument, .ask .kinds, .add spacedDocument]

@[inherit_doc spacedActions]
def spacedReader [Installation] : Reader :=
  ({} : Reader).afterActions spacedActions

section Sample

open Sample

/-- The licenses come in the order of their trimmed categories, the blank notes and the blank
category are left out, both identifiers are built, and the family that is named twice is approved
once. -/
theorem licenses_mirror_document_spaced :
    let word : Matcher := .leaf (some "t") (.literal "Foo") .unknown
    let licenses : List License :=
      [⟨⟨"A", "Alpha"⟩, .registered "u" (.any (some "u") [.registered "t" word]), none, some "B"⟩,
        ⟨⟨"B", "Beta"⟩, .reference none "t" word, some "one\n two", none⟩]
    let reader := spacedReader.afterRequest .licenses
    Returns readLicenses spacedReader licenses reader ∧
      (∃ made, List.Forall₂ Node.Describes spacedDocument.licenses made ∧ made.Perm licenses) ∧
      reader.declaredIds = ["t", "u"] ∧
      ∃ approved, Returns approvedCategories reader approved reader ∧
        approved.Pairwise (· < ·) ∧ ∀ category, category ∈ approved ↔ category = "B" := by
  intro word licenses reader
  have hread : (readLicenses.run.run spacedReader).1 = .ok licenses := by cbv
  have hreturns : Returns readLicenses spacedReader licenses reader := Prod.ext hread rfl
  have hprepare : ∀ action ∈ spacedActions, action.Prepares := by
    simp [spacedActions, Action.Prepares]
  have hids : spacedDocument.ids = ["t", "u"] := by cbv
  obtain ⟨himage, _, _, hdeclared, _, approved, hreturnsApproved, hincreasing, _, _, hnamed, _⟩ :=
    licenses_mirror_document {} .builtIn spacedActions hprepare hreturns
  refine ⟨hreturns, himage, hdeclared.trans hids, approved, hreturnsApproved, hincreasing,
    fun category ↦ ?_⟩
  rw [hnamed (List.cons_ne_nil _ _)]
  have hwritten : (Document.mergeAll (spacedActions.flatMap Action.documents)).families.map
      (fun node ↦ (node.get? "license_ref").map trimmed) = [some "B", some "B"] := by
    cbv
  have hmem : (∃ node ∈ (Document.mergeAll (spacedActions.flatMap Action.documents)).families,
      (node.get? "license_ref").map trimmed = some category) ↔
        some category ∈ [some "B", some "B"] := by
    rw [← hwritten, List.mem_map]
  rw [hmem]
  simp

end Sample

end Reader

end LicenseHeaders
