import LicenseHeaders.Proofs.Builder.Identifiers
import LicenseHeaders.Proofs.Reader.Matchers

/-!
# Reading licenses

Licenses are read in passes. The first reads what is declared (`Reader.returns_readEachLicense_iff`)
and the second builds a license of every draft (`Reader.exists_returns_buildLicenses_iff`).
The approved families are read last (`Reader.exists_readFamilies_iff`). `Reader.load?` runs the
passes with a new reader, and `Reader.load?_eq_ok_iff` says what it returns without any of them:
`Node.Makes` is what the declaration of a license makes by itself, so the order in which licenses
are built does not matter. That it does not is due to `Reader.Sound`, which every license keeps: the
matchers that have been built for identifiers are those that the declarations build.
-/

set_option autoImplicit false
set_option relaxedAutoImplicit false

namespace LicenseHeaders

open Text

/-! ### Attributes of declarations that are no matchers -/

namespace Reader

theorem sorted_eq_nil_iff (names : List String) : sorted names = [] ↔ names = [] := by
  rw [← List.length_eq_zero_iff, ← List.length_eq_zero_iff, sorted, List.length_mergeSort]

theorem mem_sorted {names : List String} {name : String} :
    name ∈ sorted names ↔ name ∈ names :=
  (List.mergeSort_perm names _).mem_iff

/-- Sorted names do not decrease. -/
theorem pairwise_sorted (names : List String) : (sorted names).Pairwise (· ≤ ·) := by
  have hle (first second : String) : (!decide (second < first)) = true ↔ first ≤ second := by
    rw [Bool.not_eq_true', decide_eq_false_iff_not, not_lt]
  refine (List.pairwise_mergeSort ?_ ?_ names).imp fun h ↦ (hle _ _).mp h
  · intro first second third hfirst hsecond
    rw [hle] at *
    exact hfirst.trans hsecond
  · intro first second
    rw [Bool.or_eq_true, hle, hle]
    exact le_total first second

/-- Sorted names increase where none of them is given twice. -/
theorem pairwise_lt_sorted {names : List String} (hnodup : names.Nodup) :
    (sorted names).Pairwise (· < ·) := by
  have hdistinct : (sorted names).Nodup := (List.mergeSort_perm names _).nodup_iff.mpr hnodup
  exact ((pairwise_sorted names).and hdistinct).imp fun h ↦ lt_of_le_of_ne h.1 h.2

/-- Names are sorted alike in whatever order they are given. -/
theorem sorted_eq_of_perm {names reordered : List String} (hperm : names.Perm reordered) :
    sorted names = sorted reordered := by
  have hsorted : (sorted names).Perm (sorted reordered) :=
    (List.mergeSort_perm names _).trans (hperm.trans (List.mergeSort_perm reordered _).symm)
  exact hsorted.eq_of_pairwise (fun _ _ _ _ hle hge ↦ le_antisymm hle hge) (pairwise_sorted names)
    (pairwise_sorted reordered)

/-- A declaration has only attributes that are supported, or is refused. -/
theorem checkAttributes_eq_ok_iff {node : Node} {supported : List String} :
    checkAttributes node supported = .ok () ↔ ∀ name ∈ node.names, name ∈ supported := by
  have hnil : unsupported node supported = [] ↔ ∀ name ∈ node.names, name ∈ supported := by
    rw [unsupported, sorted_eq_nil_iff, List.eq_nil_iff_forall_not_mem]
    refine forall_congr' fun name ↦ ?_
    rw [List.mem_eraseDups, List.mem_filter, Bool.not_eq_true', ← Bool.not_eq_true,
      List.contains_iff_mem, not_and, not_not]
  rw [checkAttributes, ← hnil, ← List.isEmpty_iff]
  cases (unsupported node supported).isEmpty with
  | true => exact ⟨fun _ ↦ rfl, fun _ ↦ rfl⟩
  | false => exact ⟨nofun, nofun⟩

/-- A required attribute is there if it is not blank. -/
theorem required_eq_ok_iff {node : Node} {name : String} {cause : Cause} {value : String} :
    required node name cause = .ok value ↔ unlessBlank (node.get? name) = some value := by
  rw [required]
  cases unlessBlank (node.get? name) with
  | some other => rw [Except.ok.injEq, Option.some.injEq]
  | none => exact ⟨nofun, nofun⟩

end Reader

/-! ### Licenses -/

namespace Node

/-- The notes in a license. -/
def notes (node : Node) : String :=
  .intercalate "\n" ((node.children.filter (·.tag == noteTag)).map (·.text))

/-- The license to be that is read from a declaration. -/
def draft (node : Node) : LicenseDraft :=
  { category := node.get? "id"
    name := node.get? "name"
    notes := unlessBlank (some node.notes)
    derivedFrom := unlessBlank (node.get? "derived_from")
    root := node.roots.head?.map fun root ↦ .builder root.builder }

/-- A license is built of the builder of the one element in its declaration. -/
theorem root_draft {node root : Node} (hroots : node.roots = [root]) :
    node.draft.root = some (.builder root.builder) := by
  rw [draft, hroots]
  rfl

/-- A license is what the declaration of one makes of it: its category and its name are what is
written there without blanks around it, and its matcher is what the one element in it builds. -/
structure Makes [Installation] (builders : List (String × Builder)) (node : Node)
    (license : License) : Prop where
  category : node.category? = some license.family.category
  name : node.name? = some license.family.name
  matcher : ∃ root, node.roots = [root] ∧ Builder.Builds builders root.builder license.matcher
  notes : license.notes = node.draft.notes
  derivedFrom : license.derivedFrom = node.draft.derivedFrom

end Node

namespace Reader

section Reading

variable {reader reader' : Reader}

/-- A license is read if the reader can take up the declarations of the element in it. -/
theorem returns_readLicense_iff (hready : reader.Ready) {node : Node} {draft : LicenseDraft} :
    Returns (readLicense node) reader draft reader' ↔
      node.HoldsLicense ∧ draft = node.draft ∧ Declares reader node.roots reader' := by
  have hdraft {root : Node} (hroots : node.children.filter (·.tag != noteTag) = [root]) :
      (LicenseDraft.setDerivedFrom
        { category := node.get? "id", name := node.get? "name",
          root := some (.builder root.builder) }
        (node.get? "derived_from")).setNotes (some node.notes) = node.draft := by
    rw [Node.draft, Node.roots, hroots]
    rfl
  rw [readLicense, returns_lift_bind_iff, Node.roots]
  constructor
  · rintro ⟨_, hcheck, hread⟩
    have hoptions := checkAttributes_eq_ok_iff.mp hcheck
    dsimp only at hread
    rcases hroots : node.children.filter (·.tag != noteTag) with _ | ⟨root, _ | ⟨second, rest⟩⟩
    · rw [hroots] at hread
      exact absurd hread not_returns_throw
    · rw [hroots] at hread
      obtain ⟨builder, _, hread, hreturn⟩ := returns_bind_iff.mp hread
      obtain ⟨rfl, hdeclares⟩ := (returns_readMatcher_iff root hready).mp hread
      obtain ⟨rfl, rfl⟩ := returns_pure_iff.mp hreturn
      exact ⟨⟨hoptions, root, hroots⟩, hdraft hroots, hroots ▸ hdeclares⟩
    · rw [hroots] at hread
      exact absurd hread not_returns_throw
  · rintro ⟨⟨hoptions, root, hroots⟩, rfl, hdeclares⟩
    rw [Node.roots] at hroots
    refine ⟨(), checkAttributes_eq_ok_iff.mpr hoptions, ?_⟩
    dsimp only
    rw [hroots] at hdeclares ⊢
    exact returns_bind_iff.mpr ⟨root.builder, reader',
      (returns_readMatcher_iff root hready).mpr ⟨rfl, hdeclares⟩,
      returns_pure_iff.mpr ⟨(hdraft hroots).symm, rfl⟩⟩

/-- Licenses are read one after the other. -/
theorem returns_readEachLicense_iff (hready : reader.Ready) {nodes : List Node}
    {drafts : List (Node × LicenseDraft)} :
    Returns (readEachLicense nodes) reader drafts reader' ↔
      (∀ node ∈ nodes, node.HoldsLicense) ∧ drafts = nodes.map (fun node ↦ (node, node.draft)) ∧
        Declares reader (nodes.flatMap Node.roots) reader' := by
  induction nodes generalizing reader drafts with
  | nil =>
    rw [readEachLicense, returns_pure_iff, List.flatMap_nil, declares_nil_iff hready, List.map_nil]
    exact ⟨fun h ↦ ⟨nofun, h⟩, fun h ↦ h.2⟩
  | cons node rest ih =>
    rw [readEachLicense, List.forall_mem_cons, List.map_cons, List.flatMap_cons,
      declares_append_iff]
    simp only [returns_bind_iff, returns_pure_iff, returns_readLicense_iff hready]
    constructor
    · rintro ⟨draft, middle, ⟨hlicense, rfl, hdeclares⟩, others, last, hothers, rfl, rfl⟩
      obtain ⟨hlicenses, rfl, hlast⟩ := (ih (hdeclares.ready hready)).mp hothers
      exact ⟨⟨hlicense, hlicenses⟩, rfl, middle, hdeclares, hlast⟩
    · rintro ⟨⟨hlicense, hlicenses⟩, rfl, middle, hdeclares, hlast⟩
      exact ⟨node.draft, middle, ⟨hlicense, rfl, hdeclares⟩, _, reader',
        (ih (hdeclares.ready hready)).mpr ⟨hlicenses, rfl, hlast⟩, rfl, rfl⟩

end Reading

end Reader

/-! ### Building licenses -/

/-- A license is made of what is known of it, with the matcher that its builder returns. -/
theorem LicenseDraft.returns_build_iff [Installation] {draft : LicenseDraft} {builder : Builder}
    (hroot : draft.root = some (.builder builder)) {resolve : String → Building Matcher}
    {before after : Built} {license : License} :
    Returns (draft.build resolve) before license after ↔
      unlessBlank draft.category = some license.family.category ∧
        unlessBlank draft.name = some license.family.name ∧
        Returns (builder.build resolve) before license.matcher after ∧
        license.notes = draft.notes ∧ license.derivedFrom = draft.derivedFrom := by
  rw [build, hroot]
  rcases unlessBlank draft.category with _ | category
  · exact ⟨fun hreturn ↦ absurd hreturn not_returns_throw, nofun⟩
  rcases unlessBlank draft.name with _ | name
  · exact ⟨fun hreturn ↦ absurd hreturn not_returns_throw, nofun⟩
  dsimp only
  rw [returns_bind_iff]
  constructor
  · rintro ⟨matcher, middle, hbuild, hreturn⟩
    obtain ⟨rfl, rfl⟩ := returns_pure_iff.mp hreturn
    exact ⟨rfl, rfl, hbuild, rfl, rfl⟩
  · rintro ⟨hcategory, hname, hbuild, hnotes, hderived⟩
    obtain ⟨⟨_, _⟩, matcher, _, _⟩ := license
    cases hcategory
    cases hname
    cases hnotes
    cases hderived
    exact ⟨matcher, after, hbuild, returns_pure_iff.mpr ⟨rfl, rfl⟩⟩

/-- A license is what a draft with a builder makes: its category and its name are there without
blanks around them, and its matcher is what the builder builds. -/
structure LicenseDraft.Makes [Installation] (builders : List (String × Builder))
    (draft : LicenseDraft) (license : License) : Prop where
  category : unlessBlank draft.category = some license.family.category
  name : unlessBlank draft.name = some license.family.name
  matcher : ∃ builder, draft.root = some (.builder builder) ∧
    Builder.Builds builders builder license.matcher
  notes : license.notes = draft.notes
  derivedFrom : license.derivedFrom = draft.derivedFrom

/-- The declaration of a license makes what its draft makes. -/
theorem Node.makes_iff [Installation] {builders : List (String × Builder)} {node : Node}
    (hlicense : node.HoldsLicense) {license : License} :
    node.Makes builders license ↔ node.draft.Makes builders license := by
  obtain ⟨root, hroots⟩ := hlicense.root
  have hroot := Node.root_draft hroots
  constructor
  · rintro ⟨hcategory, hname, ⟨other, hother, hbuilds⟩, hnotes, hderived⟩
    cases hroots.symm.trans hother
    exact ⟨hcategory, hname, ⟨root.builder, hroot, hbuilds⟩, hnotes, hderived⟩
  · rintro ⟨hcategory, hname, ⟨builder, hbuilder, hbuilds⟩, hnotes, hderived⟩
    cases hroot.symm.trans hbuilder
    exact ⟨hcategory, hname, ⟨root, hroots, hbuilds⟩, hnotes, hderived⟩

section Drafts

variable {draft : LicenseDraft} {identifiers : Identifiers} {before after : Built}
  {license : License} [Installation]

/-- What is returned for a draft is what it makes, and all that it makes is returned. Assumes: a
draft with a builder, and what has been built before is what the declarations build. -/
theorem LicenseDraft.exists_returns_build_iff
    (hroot : ∃ builder, draft.root = some (.builder builder))
    (hsound : Builder.Sound identifiers.builders before) :
    (∃ after, Returns (draft.build identifiers.resolving) before license after) ↔
      draft.Makes identifiers.builders license := by
  obtain ⟨builder, hroot⟩ := hroot
  constructor
  · rintro ⟨after, hreturns⟩
    obtain ⟨hcategory, hname, hbuild, hnotes, hderived⟩ := (returns_build_iff hroot).mp hreturns
    have hbuilds := (Identifiers.builds_of_returns hsound hbuild).2
    exact ⟨hcategory, hname, ⟨builder, hroot, hbuilds⟩, hnotes, hderived⟩
  · rintro ⟨hcategory, hname, ⟨other, hother, hbuilds⟩, hnotes, hderived⟩
    cases hroot.symm.trans hother
    obtain ⟨after, hbuild⟩ := (Identifiers.exists_returns_build_iff hsound).mpr hbuilds
    exact ⟨after, (returns_build_iff hroot).mpr ⟨hcategory, hname, hbuild, hnotes, hderived⟩⟩

/-- What has been built stays sound while a license is made. -/
theorem LicenseDraft.sound_of_returns_build
    (hroot : ∃ builder, draft.root = some (.builder builder))
    (hsound : Builder.Sound identifiers.builders before)
    (hreturns : Returns (draft.build identifiers.resolving) before license after) :
    Builder.Sound identifiers.builders after := by
  obtain ⟨builder, hroot⟩ := hroot
  exact (Identifiers.builds_of_returns hsound ((returns_build_iff hroot).mp hreturns).2.2.1).1

end Drafts

namespace Reader

section Building

variable {reader reader' : Reader}

/-- A reader with further matchers that have been built. -/
def remembering (reader : Reader) (built : Built) : Reader :=
  { reader with identifiers := { reader.identifiers with built } }

/-- What has been built for identified matchers is what their declarations build. -/
def Sound [Installation] (reader : Reader) : Prop :=
  Builder.Sound reader.identifiers.builders reader.identifiers.built

theorem returns_building_iff {Value : Type} {step : Building Value} {value : Value} :
    Returns (building step) reader value reader' ↔
      ∃ built, Returns step reader.identifiers.built value built ∧
        reader' = reader.remembering built := by
  rw [building, returns_get_bind_iff]
  rcases hstep : step.run.run reader.identifiers.built with ⟨result, built⟩
  have hreturns {built' : Built} :
      Returns step reader.identifiers.built value built' ↔ result = .ok value ∧ built' = built := by
    rw [Returns, hstep, Prod.mk.injEq, @eq_comm _ built]
  simp only [Identifiers.run, hstep, returns_bind_iff, returns_modify_iff, returns_lift_iff,
    hreturns]
  constructor
  · rintro ⟨_, _, rfl, hresult, rfl⟩
    exact ⟨built, ⟨hresult, rfl⟩, rfl⟩
  · rintro ⟨_, ⟨hresult, rfl⟩, rfl⟩
    exact ⟨(), _, rfl, hresult, rfl⟩

variable [Installation]

/-- A license is built if its draft is, and no license before it has its category. -/
theorem returns_buildLicenses_cons_iff {before licenses : List License} {node : Node}
    {draft : LicenseDraft} {rest : List (Node × LicenseDraft)} :
    Returns (buildLicenses before ((node, draft) :: rest)) reader licenses reader' ↔
      ∃ license built,
        Returns (draft.build reader.identifiers.resolving) reader.identifiers.built license built ∧
        license.id ∉ before.map License.id ∧
        Returns (buildLicenses (before ++ [license]) rest) (reader.remembering built) licenses
          reader' := by
  have htaken (license : License) :
      before.any (·.id == license.id) = true ↔ license.id ∈ before.map License.id := by
    rw [List.any_eq_true, List.mem_map]
    exact exists_congr fun other ↦ and_congr_right fun _ ↦ beq_iff_eq
  rw [buildLicenses, returns_get_bind_iff, returns_bind_iff]
  simp only [returns_rethrow_iff, returns_building_iff]
  constructor
  · rintro ⟨license, _, ⟨built, hbuild, rfl⟩, hrest⟩
    by_cases hid : license.id ∈ before.map License.id
    · rw [if_pos ((htaken license).mpr hid)] at hrest
      exact absurd hrest not_returns_throw
    · rw [if_neg (mt (htaken license).mp hid)] at hrest
      exact ⟨license, built, hbuild, hid, hrest⟩
  · rintro ⟨license, built, hbuild, hid, hrest⟩
    refine ⟨license, _, ⟨built, hbuild, rfl⟩, ?_⟩
    rw [if_neg (mt (htaken license).mp hid)]
    exact hrest

/-- Licenses are built if every draft makes one and no category is made twice. Assumes: drafts with
builders, and what has been built before is what the declarations build. -/
theorem exists_returns_buildLicenses_iff {drafts : List (Node × LicenseDraft)}
    {before licenses : List License}
    (hroots : ∀ entry ∈ drafts, ∃ builder, entry.2.root = some (.builder builder))
    (hsound : reader.Sound) (hbefore : (before.map License.id).Nodup) :
    (∃ reader', Returns (buildLicenses before drafts) reader licenses reader') ↔
      ∃ made,
        List.Forall₂ (LicenseDraft.Makes reader.identifiers.builders) (drafts.map (·.2)) made ∧
        licenses = before ++ made ∧ (licenses.map License.id).Nodup := by
  induction drafts generalizing reader before with
  | nil =>
    simp only [List.map_nil, buildLicenses, returns_pure_iff, List.forall₂_nil_left_iff,
      exists_eq_left, List.append_nil]
    constructor
    · rintro ⟨_, rfl, _⟩
      exact ⟨rfl, hbefore⟩
    · rintro ⟨rfl, _⟩
      exact ⟨reader, rfl, rfl⟩
  | cons entry rest ih =>
    obtain ⟨node, draft⟩ := entry
    rw [List.forall_mem_cons] at hroots
    have hmakes {license : License} :
        (∃ built, Returns (draft.build reader.identifiers.resolving) reader.identifiers.built
          license built) ↔ draft.Makes reader.identifiers.builders license :=
      LicenseDraft.exists_returns_build_iff hroots.1 hsound
    have hnext (license : License) :
        ((before ++ [license]).map License.id).Nodup ↔ license.id ∉ before.map License.id := by
      rw [List.map_append, List.map_singleton, ← List.concat_eq_append, List.nodup_concat]
      exact and_iff_left hbefore
    simp only [List.map_cons, returns_buildLicenses_cons_iff]
    constructor
    · rintro ⟨reader', license, built, hbuild, hid, hrest⟩
      have hbuilt : (reader.remembering built).Sound :=
        LicenseDraft.sound_of_returns_build hroots.1 hsound hbuild
      obtain ⟨made, hmade, rfl, hnodup⟩ :=
        (ih hroots.2 hbuilt ((hnext license).mpr hid)).mp ⟨reader', hrest⟩
      exact ⟨license :: made, .cons (hmakes.mp ⟨built, hbuild⟩) hmade,
        (List.append_cons before license made).symm, hnodup⟩
    · rintro ⟨_, hmade, hlicenses, hnodup⟩
      cases hmade with
      | @cons _ license _ made hmake hmade =>
        obtain ⟨built, hbuild⟩ := hmakes.mpr hmake
        have hbuilt : (reader.remembering built).Sound :=
          LicenseDraft.sound_of_returns_build hroots.1 hsound hbuild
        rw [List.append_cons] at hlicenses
        have hid : ((before ++ [license]).map License.id).Nodup := by
          rw [hlicenses, List.map_append] at hnodup
          exact hnodup.of_append_left
        obtain ⟨reader', hrest⟩ := (ih hroots.2 hbuilt hid).mpr ⟨made, hmade, hlicenses, hnodup⟩
        exact ⟨reader', license, built, hbuild, (hnext license).mp hid, hrest⟩

/-- Where no licenses have been built before, those that the drafts make are built. -/
theorem exists_returns_buildLicenses_nil_iff {drafts : List (Node × LicenseDraft)}
    {licenses : List License}
    (hroots : ∀ entry ∈ drafts, ∃ builder, entry.2.root = some (.builder builder))
    (hsound : reader.Sound) :
    (∃ reader', Returns (buildLicenses [] drafts) reader licenses reader') ↔
      List.Forall₂ (LicenseDraft.Makes reader.identifiers.builders) (drafts.map (·.2)) licenses ∧
        (licenses.map License.id).Nodup := by
  have hnone : (([] : List License).map License.id).Nodup := List.nodup_nil
  rw [exists_returns_buildLicenses_iff hroots hsound hnone]
  constructor
  · rintro ⟨made, hmade, rfl, hnodup⟩
    exact ⟨hmade, hnodup⟩
  · rintro ⟨hmade, hnodup⟩
    exact ⟨licenses, hmade, rfl, hnodup⟩

/-- The licenses of declarations are built if every declaration makes one. -/
theorem exists_returns_buildDeclared_iff {nodes : List Node} {licenses : List License}
    (hlicenses : ∀ node ∈ nodes, node.HoldsLicense) (hsound : reader.Sound) :
    (∃ reader', Returns (buildLicenses [] (nodes.map fun node ↦ (node, node.draft))) reader
      licenses reader') ↔
      List.Forall₂ (Node.Makes reader.identifiers.builders) nodes licenses ∧
        (licenses.map License.id).Nodup := by
  have hroots : ∀ entry ∈ nodes.map fun node ↦ (node, node.draft),
      ∃ builder, entry.2.root = some (.builder builder) := by
    rw [List.forall_mem_map]
    intro node hnode
    obtain ⟨root, hroots⟩ := (hlicenses node hnode).root
    exact ⟨root.builder, Node.root_draft hroots⟩
  have hmakes : List.Forall₂ (LicenseDraft.Makes reader.identifiers.builders)
      ((nodes.map fun node ↦ (node, node.draft)).map (·.2)) licenses ↔
        List.Forall₂ (Node.Makes reader.identifiers.builders) nodes licenses := by
    rw [List.map_map, List.forall₂_map_left_iff]
    exact forall₂_congr_of_mem fun node hnode license ↦ (Node.makes_iff (hlicenses node hnode)).symm
  rw [exists_returns_buildLicenses_nil_iff hroots hsound, hmakes]

end Building

end Reader

/-! ### Approved families -/

namespace Reader

/-- A family approves the category that is written in it, if that is one of those that there are. -/
theorem readFamily_eq_ok_iff {categories : List String} {node : Node} {category : String} :
    readFamily categories node = .ok category ↔
      (∀ name ∈ node.names, name ∈ ["license_ref"]) ∧
        unlessBlank (node.get? "license_ref") = some category ∧ category ∈ categories := by
  have hrequired : required node "license_ref" .licenseReferenceMissing = .ok category ↔
      unlessBlank (node.get? "license_ref") = some category := required_eq_ok_iff
  rw [← checkAttributes_eq_ok_iff, ← hrequired, readFamily]
  rcases checkAttributes node ["license_ref"] with fault | ⟨⟩
  · exact ⟨nofun, nofun⟩
  rcases required node "license_ref" .licenseReferenceMissing with fault | found
  · exact ⟨nofun, nofun⟩
  rw [← List.contains_iff_mem]
  by_cases hknown : categories.contains found = true
  · constructor
    · intro hread
      cases (if_pos hknown).symm.trans hread
      exact ⟨rfl, rfl, hknown⟩
    · rintro ⟨_, hfound, _⟩
      cases hfound
      exact if_pos hknown
  · constructor
    · intro hread
      cases (if_neg hknown).symm.trans hread
    · rintro ⟨_, hfound, hcategory⟩
      cases hfound
      exact absurd hcategory hknown

theorem exists_readFamily_iff {categories : List String} {node : Node} :
    (∃ category, readFamily categories node = .ok category) ↔ node.Approves categories := by
  simp only [readFamily_eq_ok_iff]
  constructor
  · rintro ⟨category, hoptions, hcategory, hmem⟩
    exact ⟨hoptions, category, hmem, hcategory⟩
  · rintro ⟨hoptions, category, hmem, hcategory⟩
    exact ⟨category, hoptions, hcategory, hmem⟩

/-- The approved families are read if each of them approves one of the categories. -/
theorem exists_readFamilies_iff {categories : List String} {nodes : List Node} :
    (∃ approved, readFamilies nodes categories = .ok approved) ↔
      ∀ node ∈ nodes, node.Approves categories := by
  simp only [← exists_readFamily_iff, ← exists_mapM_eq_ok_iff]
  rw [readFamilies]
  cases nodes with
  | nil => exact ⟨fun _ ↦ ⟨[], rfl⟩, fun _ ↦ ⟨_, rfl⟩⟩
  | cons node rest =>
    rcases (node :: rest).mapM (readFamily categories) with fault | approved
    · exact ⟨nofun, nofun⟩
    · exact ⟨fun _ ↦ ⟨approved, rfl⟩, fun _ ↦ ⟨_, rfl⟩⟩

/-! ### One pass after the other -/

/-- A reader whose licenses and approved categories have been read. -/
def finished (reader : Reader) (document : Document) (licenses : List License)
    (approved : List String) : Reader :=
  { reader with
    licenses := some licenses
    approved := some approved
    document := none
    events :=
      reader.events ++ [.licensesBuilt licenses.length approved.length document.sources] }

section Passes

variable {reader reader' : Reader} [Installation]

/-- Licenses that have been read are returned again. -/
theorem returns_readLicenses_of_some {licenses : List License}
    (hsome : reader.licenses = some licenses) :
    Returns readLicenses reader licenses reader := by
  rw [readLicenses, returns_get_bind_iff, hsome]
  exact returns_pure_iff.mpr ⟨rfl, rfl⟩

/-- Approved categories that have been read are returned again. -/
theorem run_approvedCategories_of_some {approved : List String}
    (hsome : reader.approved = some approved) :
    approvedCategories.run.run reader = (.ok approved, reader) := by
  have hisNone : ¬reader.approved.isNone = true := by rw [hsome]; exact Bool.false_ne_true
  have hrun : approvedCategories.run.run reader = (.ok (reader.approved.getD []), reader) := by
    rw [approvedCategories, run_get_bind, if_neg hisNone]
    rfl
  rw [hrun, hsome, Option.getD_some]

/-- Licenses that have not been read are read in four passes. -/
theorem returns_readLicenses_iff (hnone : reader.licenses = none) {licenses : List License} :
    Returns readLicenses reader licenses reader' ↔
      ∃ bound, Returns readKinds reader () bound ∧
        ∃ drafts read, Returns (readEachLicense (bound.document.getD {}).licenses) bound drafts
            read ∧
          ∃ made built, Returns (buildLicenses [] drafts) read made built ∧
            ∃ approved, readFamilies (bound.document.getD {}).families (made.map License.id) =
                .ok approved ∧
              licenses = License.sort made ∧
              reader' = built.finished (bound.document.getD {}) licenses approved := by
  rw [readLicenses, returns_get_bind_iff, hnone]
  constructor
  · intro hreturns
    obtain ⟨_, bound, hkinds, hreturns⟩ := returns_bind_iff.mp hreturns
    rw [returns_get_bind_iff] at hreturns
    obtain ⟨drafts, read, hread, hreturns⟩ := returns_bind_iff.mp hreturns
    obtain ⟨made, built, hbuild, hreturns⟩ := returns_bind_iff.mp hreturns
    rw [returns_modify_bind_iff] at hreturns
    obtain ⟨approved, happroved, hreturns⟩ := returns_lift_bind_iff.mp hreturns
    rw [returns_modify_bind_iff, tell, returns_modify_bind_iff] at hreturns
    obtain ⟨rfl, rfl⟩ := returns_pure_iff.mp hreturns
    exact ⟨bound, hkinds, drafts, read, hread, made, built, hbuild, approved, happroved, rfl, rfl⟩
  · rintro ⟨bound, hkinds, drafts, read, hread, made, built, hbuild, approved, happroved,
      rfl, rfl⟩
    refine returns_bind_iff.mpr ⟨(), bound, hkinds, ?_⟩
    rw [returns_get_bind_iff]
    refine returns_bind_iff.mpr ⟨drafts, read, hread, ?_⟩
    refine returns_bind_iff.mpr ⟨made, built, hbuild, ?_⟩
    rw [returns_modify_bind_iff]
    exact returns_lift_bind_iff.mpr ⟨approved, happroved, rfl⟩

/-- A pass that raises a fault is the last one. Only the fault of an approved family is raised after
the licenses have been kept. -/
theorem raises_readLicenses_iff (hnone : reader.licenses = none) {fault : Fault} :
    Raises readLicenses reader fault reader' ↔
      Raises readKinds reader fault reader' ∨
        ∃ bound, Returns readKinds reader () bound ∧
          (Raises (readEachLicense (bound.document.getD {}).licenses) bound fault reader' ∨
            ∃ drafts read, Returns (readEachLicense (bound.document.getD {}).licenses) bound
                drafts read ∧
              (Raises (buildLicenses [] drafts) read fault reader' ∨
                ∃ made built, Returns (buildLicenses [] drafts) read made built ∧
                  readFamilies (bound.document.getD {}).families (made.map License.id) =
                    .error fault ∧
                  reader' = { built with licenses := some (License.sort made) })) := by
  rw [readLicenses, raises_get_bind_iff, hnone]
  constructor
  · intro hraises
    rcases raises_bind_iff.mp hraises with hkinds | ⟨_, bound, hkinds, hraises⟩
    · exact .inl hkinds
    refine .inr ⟨bound, hkinds, ?_⟩
    rw [raises_get_bind_iff] at hraises
    rcases raises_bind_iff.mp hraises with hread | ⟨drafts, read, hread, hraises⟩
    · exact .inl hread
    refine .inr ⟨drafts, read, hread, ?_⟩
    rcases raises_bind_iff.mp hraises with hbuild | ⟨made, built, hbuild, hraises⟩
    · exact .inl hbuild
    refine .inr ⟨made, built, hbuild, ?_⟩
    rw [raises_modify_bind_iff] at hraises
    rcases raises_lift_bind_iff.mp hraises with hfamilies | ⟨_, _, hraises⟩
    · exact hfamilies
    · exact absurd hraises nofun
  · rintro (hkinds | ⟨bound, hkinds, hraises⟩)
    · exact raises_bind_iff.mpr (.inl hkinds)
    refine raises_bind_iff.mpr (.inr ⟨(), bound, hkinds, ?_⟩)
    rw [raises_get_bind_iff]
    rcases hraises with hread | ⟨drafts, read, hread, hraises⟩
    · exact raises_bind_iff.mpr (.inl hread)
    refine raises_bind_iff.mpr (.inr ⟨drafts, read, hread, ?_⟩)
    rcases hraises with hbuild | ⟨made, built, hbuild, hfamilies⟩
    · exact raises_bind_iff.mpr (.inl hbuild)
    refine raises_bind_iff.mpr (.inr ⟨made, built, hbuild, ?_⟩)
    rw [raises_modify_bind_iff]
    exact raises_lift_bind_iff.mpr (.inl hfamilies)

end Passes

/-! ### Reading a document -/

/-- The declarations of kinds that have not been read are read. -/
theorem returns_readKinds_iff {reader reader' : Reader} {document : Document}
    (hdocument : reader.document = some document) :
    Returns readKinds reader () reader' ↔
      ∃ later, Returns (readEachKind (document.matchers.drop reader.kindsRead)) reader () later ∧
        reader' = { later with kindsRead :=
          later.kindsRead + (document.matchers.drop reader.kindsRead).length } := by
  rw [readKinds, returns_get_bind_iff, hdocument]
  simp only [returns_bind_iff, returns_modify_iff]
  constructor
  · rintro ⟨_, later, hread, hreader⟩
    exact ⟨later, hread, hreader⟩
  · rintro ⟨later, hread, hreader⟩
    exact ⟨(), later, hread, hreader⟩

/-- The declarations of kinds are read at once if there are none. -/
theorem returns_readKinds_nil_iff {reader reader' : Reader} {document : Document}
    (hdocument : reader.document = some document) (hmatchers : document.matchers = []) :
    Returns readKinds reader () reader' ↔ reader' = reader := by
  rw [returns_readKinds_iff hdocument]
  simp only [hmatchers, List.drop_nil, readEachKind, returns_pure_iff, true_and, exists_eq_left,
    List.length_nil, Nat.add_zero]

/-- A new reader with the built-in kinds and a document. -/
def ofDocument (catalogue : Catalogue) (document : Document) : Reader :=
  { catalogue, document := some document }

/-- Loads the licenses of a document with a new reader. -/
def load? [Installation] (catalogue : Catalogue) (document : Document) :
    Except Fault (List License) :=
  ((do add document; readLicenses).run.run { catalogue }).1

theorem ready_ofDocument (catalogue : Catalogue) (document : Document) :
    (ofDocument catalogue document).Ready :=
  ⟨rfl, List.nodup_nil⟩

end Reader

/-- The declarations of the elements of a document. -/
def Document.declarations (document : Document) : List (String × Builder) :=
  document.elements.filterMap Node.declaration?

namespace Reader

section Loading

variable {catalogue : Catalogue} {document : Document}

/-- Licenses are read from a document if the declarations of its elements can be taken up, they are
built, and the approved families approve some of them. -/
theorem exists_returns_readLicenses_iff [Installation] (hmatchers : document.matchers = [])
    {licenses : List License} :
    (∃ reader', Returns readLicenses (ofDocument catalogue document) licenses reader') ↔
      ∃ middle built, (∀ node ∈ document.licenses, node.HoldsLicense) ∧
        Declares (ofDocument catalogue document) (document.licenses.flatMap Node.roots) middle ∧
        (∃ last, Returns
          (buildLicenses [] (document.licenses.map fun node ↦ (node, node.draft))) middle built
            last) ∧
        (∀ node ∈ document.families, node.Approves (built.map License.id)) ∧
        licenses = License.sort built := by
  have hdocument : (ofDocument catalogue document).document = some document := rfl
  have hnone : (ofDocument catalogue document).licenses = none := rfl
  have hready := ready_ofDocument catalogue document
  simp only [returns_readLicenses_iff hnone, returns_readKinds_nil_iff hdocument hmatchers]
  constructor
  · rintro ⟨reader', _, rfl, drafts, middle, hread, built, last, hbuild, approved, happroved, rfl,
      _⟩
    rw [hdocument, Option.getD_some] at hread happroved
    obtain ⟨hlicenses, rfl, hdeclares⟩ := (returns_readEachLicense_iff hready).mp hread
    exact ⟨middle, built, hlicenses, hdeclares, ⟨last, hbuild⟩,
      exists_readFamilies_iff.mp ⟨approved, happroved⟩, rfl⟩
  · rintro ⟨middle, built, hlicenses, hdeclares, ⟨last, hbuild⟩, happroves, rfl⟩
    obtain ⟨approved, happroved⟩ := exists_readFamilies_iff.mpr happroves
    exact ⟨_, _, rfl, _, middle,
      (returns_readEachLicense_iff hready).mpr ⟨hlicenses, rfl, hdeclares⟩, built, last, hbuild,
      approved, happroved, rfl, rfl⟩

/-- What a new reader takes up are the declarations of the elements of its document. -/
theorem declares_ofDocument_iff {reader' : Reader} :
    Declares (ofDocument catalogue document) (document.licenses.flatMap Node.roots) reader' ↔
      (∀ element ∈ document.elements, element.Readable) ∧
        (document.declarations.map (·.1)).Nodup ∧
        reader' = (ofDocument catalogue document).declaring document.declarations := by
  have hdeclarations : (document.licenses.flatMap Node.roots).flatMap Node.declarations =
      document.declarations := by
    rw [Document.declarations, Document.elements, List.flatMap_assoc, List.filterMap_flatMap]
    simp only [List.filterMap_flatMap]
    rfl
  have helements : document.elements =
      (document.licenses.flatMap Node.roots).flatMap Node.elements := by
    rw [Document.elements, List.flatMap_assoc]
  rw [helements]
  constructor
  · rintro ⟨hreadable, hnodup, hreader⟩
    rw [hdeclarations] at hnodup hreader
    refine ⟨fun element helement ↦ ?_, hnodup, hreader⟩
    obtain ⟨root, hroot, helement⟩ := List.mem_flatMap.mp helement
    exact hreadable root hroot element helement
  · rintro ⟨hreadable, hnodup, hreader⟩
    rw [← hdeclarations] at hnodup hreader
    exact ⟨fun root hroot element helement ↦
      hreadable element (List.mem_flatMap.mpr ⟨root, hroot, helement⟩), hnodup, hreader⟩

/-- A document without declarations of kinds is loaded if every license in it can be read, every
element is readable, no identifier is declared twice, every license is made, no two of them with one
category, and every approved family approves one of them. The licenses are put in order. -/
theorem load?_eq_ok_iff [Installation] (hmatchers : document.matchers = [])
    {licenses : List License} :
    load? catalogue document = .ok licenses ↔
      (∀ node ∈ document.licenses, node.HoldsLicense) ∧
        (∀ element ∈ document.elements, element.Readable) ∧
        (document.declarations.map (·.1)).Nodup ∧
        ∃ made, List.Forall₂ (Node.Makes document.declarations) document.licenses made ∧
          (made.map License.id).Nodup ∧
          (∀ node ∈ document.families, node.Approves (made.map License.id)) ∧
          licenses = License.sort made := by
  have hload : load? catalogue document = .ok licenses ↔
      ∃ reader', Returns readLicenses (ofDocument catalogue document) licenses reader' := by
    have hadd : load? catalogue document =
        (readLicenses.run.run (ofDocument catalogue document)).1 :=
      rfl
    rw [hadd]
    exact ⟨fun h ↦ ⟨_, Prod.ext h rfl⟩, fun ⟨_, h⟩ ↦ congrArg Prod.fst h⟩
  have hsound : ((ofDocument catalogue document).declaring document.declarations).Sound :=
    nofun
  rw [hload, exists_returns_readLicenses_iff hmatchers]
  simp only [declares_ofDocument_iff]
  constructor
  · rintro ⟨_, built, hlicenses, ⟨hreadable, hnodup, rfl⟩, hbuild, happroves, hsort⟩
    obtain ⟨hmade, hcategories⟩ := (exists_returns_buildDeclared_iff hlicenses hsound).mp hbuild
    exact ⟨hlicenses, hreadable, hnodup, built, hmade, hcategories, happroves, hsort⟩
  · rintro ⟨hlicenses, hreadable, hnodup, made, hmade, hcategories, happroves, hsort⟩
    exact ⟨_, made, hlicenses, ⟨hreadable, hnodup, rfl⟩,
      (exists_returns_buildDeclared_iff hlicenses hsound).mpr ⟨hmade, hcategories⟩,
      happroves, hsort⟩

end Loading

end Reader

end LicenseHeaders
