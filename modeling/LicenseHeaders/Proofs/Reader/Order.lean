import LicenseHeaders.Proofs.Analysis
import LicenseHeaders.Proofs.Builder.Calls
import LicenseHeaders.Proofs.Builder.Completion
import LicenseHeaders.Proofs.Reader.Declaring
import LicenseHeaders.Proofs.Reader.Kinds
import LicenseHeaders.Sample

/-!
# Documents in any order

The order in which documents are added to a reader decides which license asks for an identified
matcher first, whether a reference leads forward or back, and which of several declarations binds a
tag. None of this shows: by `Reader.loadDocuments_order_independent` the licenses are the same, and
the readers agree afterwards (`Reader.Agrees`).

Each pass is carried over to the other order by itself. What a pass reads from one declaration does
not depend on the others (`Node.Binds`, `Reader.ReadsAs`, `LicenseDraft.Makes`), so its results come
in the order of the declarations, and that they are compatible with each other is a property that
does not depend on the order (`KindTable.Admits.perm`, `Reader.Fresh.perm`). What is built on the
way is determined by the identifiers that have been asked for (`Builder.lookup_eq_of_sound`).
-/

set_option autoImplicit false
set_option relaxedAutoImplicit false

namespace LicenseHeaders

/-! ### Declarations in another order -/

namespace Document

/-- Two documents declare the same, in one order or another. -/
structure Reordered (first second : Document) : Prop where
  licenses : first.licenses.Perm second.licenses
  families : first.families.Perm second.families
  matchers : first.matchers.Perm second.matchers

theorem foldl_merge (base : Document) (documents : List Document) :
    documents.foldl merge base =
      { licenses := base.licenses ++ documents.flatMap (·.licenses)
        families := base.families ++ documents.flatMap (·.families)
        matchers := base.matchers ++ documents.flatMap (·.matchers)
        sources := base.sources ++ documents.flatMap (·.sources) } := by
  induction documents generalizing base with
  | nil => simp
  | cons document rest ih => simp [ih, merge]

/-- Documents that are merged in another order declare the same. -/
theorem reordered_mergeAll {first second : List Document} (hperm : first.Perm second) :
    (mergeAll first).Reordered (mergeAll second) := by
  simp only [mergeAll, foldl_merge]
  constructor
  · exact (hperm.flatMap_right (·.licenses)).append_left []
  · exact (hperm.flatMap_right (·.families)).append_left []
  · exact (hperm.flatMap_right (·.matchers)).append_left []

end Document

/-! ### What is built on the way -/

namespace Builder

/-- What has been built is determined by the identifiers that it has been built for. -/
theorem lookup_eq_of_sound [Installation] {builders others : List (String × Builder)}
    {built later : Built} (hsame : ∀ id, others.lookup id = builders.lookup id)
    (hbuilt : Sound builders built) (hlater : Sound others later)
    (hkeys : ∀ id, id ∈ later.map (·.1) ↔ id ∈ built.map (·.1)) (id : String) :
    later.lookup id = built.lookup id := by
  have hagain : Sound builders later := hlater.mono fun other builder hlookup ↦ by
    rw [← hsame other, hlookup]
  by_cases hid : id ∈ built.map (·.1)
  · obtain ⟨matcher, hmatcher⟩ := exists_lookup_iff.mpr hid
    obtain ⟨other, hother⟩ := exists_lookup_iff.mpr ((hkeys id).mpr hid)
    obtain ⟨builder, hbuilder, hbuilds⟩ := hbuilt id matcher hmatcher
    obtain ⟨same, hsame, hbuildsOther⟩ := hagain id other hother
    have hbuilders : builder = same := Option.some.inj (hbuilder.symm.trans hsame)
    subst hbuilders
    rw [hmatcher, hother, hbuilds.unique hbuildsOther]
  · have hnone (table : Built) (hfree : id ∉ table.map (·.1)) : table.lookup id = none := by
      rw [Option.eq_none_iff_forall_ne_some]
      intro matcher hmatcher
      exact hfree (exists_lookup_iff.mp ⟨matcher, hmatcher⟩)
    rw [hnone built hid, hnone later (mt (hkeys id).mp hid)]

end Builder

namespace LicenseDraft

/-- The identifiers that the builder of a draft asks for. -/
def mentions (draft : LicenseDraft) : List String :=
  match draft.root with
  | some (.builder builder) => builder.mentions
  | _ => []

variable [Installation]

theorem completes_of_returns_build {draft : LicenseDraft} {identifiers : Identifiers}
    {before after : Built} {license : License}
    (hroot : ∃ builder, draft.root = some (.builder builder))
    (hclosed : Builder.Closed identifiers.builders before)
    (hreturns : Returns (draft.build identifiers.resolving) before license after) :
    Builder.Completes identifiers.builders draft.mentions before after := by
  obtain ⟨builder, hroot⟩ := hroot
  have hbuild := ((returns_build_iff hroot).mp hreturns).2.2.1
  rw [mentions, hroot]
  exact Identifiers.built_of_returns_build hclosed hbuild

/-- What a draft makes, it makes also where more is declared. -/
theorem Makes.mono {builders later : List (String × Builder)} {draft : LicenseDraft}
    {license : License} (hmakes : draft.Makes builders license)
    (hlater : ∀ id builder, builders.lookup id = some builder → later.lookup id = some builder) :
    draft.Makes later license := by
  obtain ⟨builder, hroot, hbuilds⟩ := hmakes.matcher
  exact { hmakes with matcher := ⟨builder, hroot, hbuilds.mono hlater⟩ }

/-- What a draft makes only depends on what is looked up among the declarations. -/
theorem Makes.of_lookup_eq {builders others : List (String × Builder)} {draft : LicenseDraft}
    {license : License} (hmakes : draft.Makes builders license)
    (hsame : ∀ id, others.lookup id = builders.lookup id) : draft.Makes others license :=
  hmakes.mono fun id _ hlookup ↦ (hsame id).trans hlookup

end LicenseDraft

namespace Reader

section Building

variable {reader reader' other : Reader} {drafts reordered : List (Node × LicenseDraft)}
  {made : List License} [Installation]

/-- After licenses have been built, there are matchers for what their drafts ask for, for what this
needs, and for nothing else. -/
theorem completes_of_returns_buildLicenses {before : List License}
    (hroots : ∀ entry ∈ drafts, ∃ builder, entry.2.root = some (.builder builder))
    (hsound : reader.Sound)
    (hclosed : Builder.Closed reader.identifiers.builders reader.identifiers.built)
    (hreturns : Returns (buildLicenses before drafts) reader made reader') :
    ∃ built, reader' = reader.remembering built ∧
      Builder.Sound reader.identifiers.builders built ∧
      Builder.Completes reader.identifiers.builders
        ((drafts.map (·.2)).flatMap LicenseDraft.mentions) reader.identifiers.built built := by
  induction drafts generalizing reader before with
  | nil =>
    obtain ⟨_, rfl⟩ := returns_pure_iff.mp hreturns
    exact ⟨reader'.identifiers.built, rfl, hsound, Builder.completes_nil _⟩
  | cons entry rest ih =>
    obtain ⟨node, draft⟩ := entry
    rw [List.forall_mem_cons] at hroots
    obtain ⟨license, built, hbuild, _, hrest⟩ := returns_buildLicenses_cons_iff.mp hreturns
    have hbuilt : (reader.remembering built).Sound :=
      LicenseDraft.sound_of_returns_build hroots.1 hsound hbuild
    have hfirst := LicenseDraft.completes_of_returns_build hroots.1 hclosed hbuild
    obtain ⟨last, hreader, hlast, hcompletes⟩ :=
      ih hroots.2 hbuilt (hfirst.closed hclosed) hrest
    exact ⟨last, hreader, hlast, hfirst.append hcompletes⟩

theorem sound_of_built_nil (hnone : reader.identifiers.built = []) : reader.Sound := by
  intro id matcher hbuilt
  rw [hnone] at hbuilt
  cases hbuilt

theorem sound_declaring_of_new (hnone : reader.identifiers = {}) (added : List (String × Builder)) :
    (reader.declaring added).Sound :=
  sound_of_built_nil (by rw [identifiers_declaring_of_new hnone])

/-- A reader that has built nothing before has matchers for what the drafts need. -/
theorem needsAmong_of_returns_buildLicenses
    (hroots : ∀ entry ∈ drafts, ∃ builder, entry.2.root = some (.builder builder))
    (hnone : reader.identifiers.built = [])
    (hreturns : Returns (buildLicenses [] drafts) reader made reader') :
    ∃ built, reader' = reader.remembering built ∧
      Builder.Sound reader.identifiers.builders built ∧
      ∀ id, id ∈ built.map (·.1) ↔ Builder.NeedsAmong reader.identifiers.builders
        ((drafts.map (·.2)).flatMap LicenseDraft.mentions) id := by
  have hclosed : Builder.Closed reader.identifiers.builders reader.identifiers.built := by
    rw [hnone]
    exact List.forall_mem_nil _
  obtain ⟨built, hreader, hbuilt, hcompletes⟩ :=
    completes_of_returns_buildLicenses hroots (sound_of_built_nil hnone) hclosed hreturns
  refine ⟨built, hreader, hbuilt, fun id ↦ ?_⟩
  rw [hcompletes id, hnone, List.map_nil, or_iff_right List.not_mem_nil]

section Reordered

variable (hperm : (drafts.map (·.2)).Perm (reordered.map (·.2)))
  (hroots : ∀ entry ∈ drafts, ∃ builder, entry.2.root = some (.builder builder))
  (hreroots : ∀ entry ∈ reordered, ∃ builder, entry.2.root = some (.builder builder))
  (hsame : ∀ id, other.identifiers.builders.lookup id = reader.identifiers.builders.lookup id)
  (hnone : reader.identifiers.built = []) (hnoneOther : other.identifiers.built = [])

include hperm hroots hreroots hsame hnone hnoneOther

/-- The same licenses are built of drafts in any order. -/
theorem exists_returns_buildLicenses_of_perm
    (hreturns : Returns (buildLicenses [] drafts) reader made reader') :
    ∃ remade other', Returns (buildLicenses [] reordered) other remade other' ∧
      remade.Perm made ∧ (made.map License.id).Nodup := by
  obtain ⟨hmakes, hnodup⟩ :=
    (exists_returns_buildLicenses_nil_iff hroots (sound_of_built_nil hnone)).mp
      ⟨reader', hreturns⟩
  obtain ⟨remade, hremakes, hremade⟩ := exists_forall₂_of_perm hmakes hperm
  have hmakesOther := hremakes.imp fun draft license hmake ↦ hmake.of_lookup_eq hsame
  have hnodupOther : (remade.map License.id).Nodup := (hremade.map License.id).nodup_iff.mp hnodup
  obtain ⟨other', hreturnsOther⟩ :=
    (exists_returns_buildLicenses_nil_iff hreroots (sound_of_built_nil hnoneOther)).mpr
      ⟨hmakesOther, hnodupOther⟩
  exact ⟨remade, other', hreturnsOther, hremade.symm, hnodup⟩

/-- The same matchers are built on the way to licenses of drafts in any order. -/
theorem lookup_built_eq_of_perm {remade : List License} {other' : Reader}
    (hreturns : Returns (buildLicenses [] drafts) reader made reader')
    (hreturnsOther : Returns (buildLicenses [] reordered) other remade other') :
    ∃ built rebuilt, reader' = reader.remembering built ∧ other' = other.remembering rebuilt ∧
      ∀ id, rebuilt.lookup id = built.lookup id := by
  obtain ⟨built, hreader, hbuilt, hneeded⟩ :=
    needsAmong_of_returns_buildLicenses hroots hnone hreturns
  obtain ⟨rebuilt, hother, hrebuilt, hreneeded⟩ :=
    needsAmong_of_returns_buildLicenses hreroots hnoneOther hreturnsOther
  have hneeds : Builder.Needs other.identifiers.builders =
      Builder.Needs reader.identifiers.builders := by
    funext id needed
    simp only [Builder.Needs, hsame]
  have hkeys (id : String) : id ∈ rebuilt.map (·.1) ↔ id ∈ built.map (·.1) := by
    rw [hneeded, hreneeded]
    simp only [Builder.NeedsAmong, hneeds, (hperm.flatMap_right LicenseDraft.mentions).mem_iff]
  exact ⟨built, rebuilt, hreader, hother,
    Builder.lookup_eq_of_sound hsame hbuilt hrebuilt hkeys⟩

end Reordered

end Building

/-! ### Approved families in another order -/

/-- The approved families are read in any order. -/
theorem readFamilies_of_perm {nodes reordered : List Node} {categories others : List String}
    (hnodes : nodes.Perm reordered) (hcategories : categories.Perm others)
    {approved : List String} (hread : readFamilies nodes categories = .ok approved) :
    readFamilies reordered others = .ok approved := by
  rw [readFamilies] at hread ⊢
  have hempty : reordered.isEmpty = nodes.isEmpty := by
    rw [Bool.eq_iff_iff, List.isEmpty_iff, List.isEmpty_iff]
    exact ⟨fun h ↦ List.Perm.eq_nil (h ▸ hnodes), fun h ↦ List.Perm.eq_nil (h ▸ hnodes.symm)⟩
  rw [hempty]
  by_cases hnone : nodes.isEmpty = true
  · rw [if_pos hnone] at hread ⊢
    rw [← sorted_eq_of_perm hcategories]
    exact hread
  · rw [if_neg hnone] at hread ⊢
    have hfamily : readFamily others = readFamily categories := by
      funext node
      have hcontains (category : String) :
          others.contains category = categories.contains category := by
        simp [hcategories.mem_iff]
      simp only [readFamily, hcontains]
    rw [hfamily]
    cases hfound : nodes.mapM (readFamily categories) with
    | error fault =>
      rw [hfound] at hread
      cases hread
    | ok found =>
      rw [hfound] at hread
      obtain ⟨refound, hrefound, hperm⟩ := exists_forall₂_of_perm (mapM_eq_ok_iff.mp hfound) hnodes
      have hdistinct : refound.eraseDups.Perm found.eraseDups := by
        rw [List.perm_ext_iff_of_nodup (nodup_eraseDups _) (nodup_eraseDups _)]
        intro category
        rw [List.mem_eraseDups, List.mem_eraseDups, hperm.mem_iff]
      rw [mapM_eq_ok_iff.mpr hrefound]
      rw [← hread]
      exact congrArg Except.ok (sorted_eq_of_perm hdistinct)

/-! ### Kinds and licenses in another order -/

section Reading

variable {reader reader' other : Reader} {nodes reordered : List Node}

/-- Declarations of kinds are read in any order, and the same tags are bound to the same kinds. -/
theorem exists_returns_readEachKind_of_perm (hperm : nodes.Perm reordered)
    (hcatalogue : other.catalogue.kind? = reader.catalogue.kind?)
    (hkinds : reader.SameKinds other)
    (hreturns : Returns (readEachKind nodes) reader () reader') :
    ∃ other', Returns (readEachKind reordered) other () other' ∧ reader'.SameKinds other' := by
  obtain ⟨parts, hparts, hbound⟩ := bound_of_returns_readEachKind hreturns
  obtain ⟨reparts, hreparts, hpermParts⟩ := exists_forall₂_of_perm hparts hperm
  have hfewer (tag : String) (kind : Kind) (hother : other.kinds.lookup tag = some kind) :
      reader.kinds.lookup tag = some kind :=
    (hkinds tag).symm.trans hother
  have hadmits : other.kinds.Admits reparts.flatten :=
    (hbound.admits.perm hpermParts.flatten).anti hfewer
  obtain ⟨other', hreturnsOther, hboundOther⟩ :=
    exists_returns_readEachKind hreparts hcatalogue hadmits
  refine ⟨other', hreturnsOther, fun tag ↦ ?_⟩
  apply Option.ext
  intro kind
  rw [hbound.joins tag kind, hboundOther.joins tag kind, hkinds tag, hpermParts.flatten.mem_iff]

/-- Licenses are read in any order, and the same is declared. Assumes: nothing has been declared
before. -/
theorem exists_returns_readEachLicense_of_perm (hperm : nodes.Perm reordered)
    (hkinds : reader.SameKinds other) (hnone : other.identifiers.builders = [])
    {drafts : List (Node × LicenseDraft)}
    (hreturns : Returns (readEachLicense nodes) reader drafts reader') :
    ∃ added redrafts readded, reader' = reader.declaring added ∧ reader.Fresh added ∧
      Returns (readEachLicense reordered) other redrafts (other.declaring readded) ∧
      (drafts.map (·.2)).Perm (redrafts.map (·.2)) ∧ added.Perm readded := by
  obtain ⟨parts, hparts, hdrafts, hreader, hfresh⟩ := reads_of_returns_readEachLicense hreturns
  obtain ⟨reparts, hreparts, hpermParts⟩ := exists_forall₂_of_perm hparts hperm
  have hadded := hpermParts.flatMap_right (·.2)
  have hfewer : ∀ id ∈ other.declaredIds, id ∈ reader.declaredIds := by
    rw [declaredIds, hnone]
    exact List.forall_mem_nil _
  obtain ⟨redrafts, hreturnsOther, hredrafts⟩ :=
    returns_readEachLicense_of_reads hreparts hkinds ((hfresh.perm hadded).anti hfewer)
  refine ⟨_, redrafts, _, hreader, hfresh, hreturnsOther, ?_, hadded⟩
  rw [hdrafts, hredrafts]
  exact hpermParts.map (·.1)

end Reading

/-! ### Whole runs -/

/-- A new reader that has been given a document. -/
def holding (catalogue : Catalogue) (kinds : KindTable) (document : Document) : Reader :=
  { catalogue, kinds, document := some document }

/-- Two readers agree: the same categories are approved, the same identifiers are declared, the same
matchers have been built for them, and the same tags are bound to the same kinds. -/
structure Agrees [Installation] (first second : Reader) : Prop where
  approved : ∃ categories, Returns approvedCategories first categories first ∧
    Returns approvedCategories second categories second
  declared : first.declaredIds.Perm second.declaredIds
  built : ∀ id, second.identifiers.built.lookup id = first.identifiers.built.lookup id
  kinds : first.SameKinds second

section Runs

variable {catalogue : Catalogue} {kinds : KindTable} {first second : Document}
  {licenses : List License} {reader' : Reader}

/-- A new reader reads all declarations of kinds. -/
theorem returns_readKinds_holding_iff {document : Document} {bound : Reader} :
    Returns readKinds (holding catalogue kinds document) () bound ↔
      ∃ later, Returns (readEachKind document.matchers) (holding catalogue kinds document) ()
          later ∧
        bound = { later with kindsRead := later.kindsRead + document.matchers.length } :=
  returns_readKinds_iff rfl

/-- Two new readers bind the same tags to the same kinds where the declarations of the one are
carried over to those of the other. Nothing has been declared then. -/
theorem exists_returns_readKinds_holding
    (hcarried : ∀ {later}, Returns (readEachKind first.matchers) (holding catalogue kinds first) ()
      later → ∃ relater, Returns (readEachKind second.matchers) (holding catalogue kinds second) ()
        relater ∧ later.SameKinds relater)
    {bound : Reader} (hreturns : Returns readKinds (holding catalogue kinds first) () bound) :
    ∃ rebound, Returns readKinds (holding catalogue kinds second) () rebound ∧
      rebound.identifiers = {} ∧ bound.SameKinds rebound := by
  obtain ⟨later, hread, rfl⟩ := returns_readKinds_holding_iff.mp hreturns
  obtain ⟨relater, hreread, hkinds⟩ := hcarried hread
  have hrebound := returns_readKinds_holding_iff.mpr ⟨relater, hreread, rfl⟩
  exact ⟨_, hrebound,
    ((keeps_unmoved_readKinds _).of_returns (Unmoved.refl _) hrebound).identifiers, hkinds⟩

variable [Installation]

/-- A new reader reads the licenses of its document in four passes. Nothing has been declared when
the second begins. -/
theorem returns_readLicenses_holding_iff {document : Document} :
    Returns readLicenses (holding catalogue kinds document) licenses reader' ↔
      ∃ bound, Returns readKinds (holding catalogue kinds document) () bound ∧
        bound.identifiers = {} ∧
        ∃ drafts read, Returns (readEachLicense document.licenses) bound drafts read ∧
          ∃ made built, Returns (buildLicenses [] drafts) read made built ∧
            ∃ approved, readFamilies document.families (made.map License.id) = .ok approved ∧
              licenses = License.sort made ∧
              reader' = built.finished document licenses approved := by
  rw [returns_readLicenses_iff rfl]
  refine exists_congr fun bound ↦ and_congr_right fun hkinds ↦ ?_
  have hunmoved := (keeps_unmoved_readKinds _).of_returns (Unmoved.refl _) hkinds
  have hdocument : bound.document = some document := hunmoved.document
  rw [hdocument, Option.getD_some]
  exact (and_iff_right hunmoved.identifiers).symm

/-- Licenses are read and built in any order. Assumes: nothing has been declared or built before. -/
theorem exists_returns_licenses_of_perm {nodes reordered : List Node} (hperm : nodes.Perm reordered)
    {bound rebound read built : Reader} {drafts : List (Node × LicenseDraft)} {made : List License}
    (hkinds : bound.SameKinds rebound) (hnone : bound.identifiers = {})
    (hnoneOther : rebound.identifiers = {})
    (hread : Returns (readEachLicense nodes) bound drafts read)
    (hbuild : Returns (buildLicenses [] drafts) read made built) :
    ∃ redrafts reread remade rebuilt,
      Returns (readEachLicense reordered) rebound redrafts reread ∧
      Returns (buildLicenses [] redrafts) reread remade rebuilt ∧
      remade.Perm made ∧ (made.map License.id).Nodup ∧
      built.declaredIds.Perm rebuilt.declaredIds ∧
      (∀ id, rebuilt.identifiers.built.lookup id = built.identifiers.built.lookup id) ∧
      built.SameKinds rebuilt := by
  have hbuilders : rebound.identifiers.builders = [] := by rw [hnoneOther]
  obtain ⟨added, redrafts, readded, rfl, hfresh, hreread, hdrafts, hadded⟩ :=
    exists_returns_readEachLicense_of_perm hperm hkinds hbuilders hread
  have hdeclared := identifiers_declaring_of_new hnone added
  have hredeclared := identifiers_declaring_of_new hnoneOther readded
  have hlookup (id : String) : (rebound.declaring readded).identifiers.builders.lookup id =
      (bound.declaring added).identifiers.builders.lookup id := by
    rw [hdeclared, hredeclared]
    exact lookup_eq_of_perm hfresh.nodup hadded id
  have hbuilt : (bound.declaring added).identifiers.built = [] := by rw [hdeclared]
  have hrebuilt : (rebound.declaring readded).identifiers.built = [] := by rw [hredeclared]
  have hroots := roots_of_returns_readEachLicense hread
  have hreroots := roots_of_returns_readEachLicense hreread
  obtain ⟨remade, rebuilt, hrebuild, hmade, hnodup⟩ :=
    exists_returns_buildLicenses_of_perm hdrafts hroots hreroots hlookup hbuilt hrebuilt hbuild
  obtain ⟨table, retable, rfl, rfl, htables⟩ :=
    lookup_built_eq_of_perm hdrafts hroots hreroots hlookup hbuilt hrebuilt hbuild hrebuild
  have hids : (bound.declaring added).declaredIds.Perm (rebound.declaring readded).declaredIds := by
    rw [declaredIds, declaredIds, hdeclared, hredeclared]
    exact hadded.map (·.1)
  exact ⟨redrafts, _, remade, _, hreread, hrebuild, hmade, hnodup, hids, htables, hkinds⟩

/-- A run over a document is carried over to one that declares the same in another order. -/
theorem exists_returns_readLicenses_of_reordered (hsame : first.Reordered second)
    (hreturns : Returns readLicenses (holding catalogue kinds first) licenses reader') :
    ∃ other', Returns readLicenses (holding catalogue kinds second) licenses other' ∧
      reader'.Agrees other' := by
  obtain ⟨bound, hkinds, hnone, drafts, read, hread, made, built, hbuild, approved, hfamilies, rfl,
    rfl⟩ := returns_readLicenses_holding_iff.mp hreturns
  obtain ⟨rebound, hrekinds, hrenone, hsameKinds⟩ := exists_returns_readKinds_holding
    (exists_returns_readEachKind_of_perm hsame.matchers rfl fun _ ↦ rfl) hkinds
  obtain ⟨redrafts, reread, remade, rebuilt, hreread, hrebuild, hmade, hnodup, hids, htables,
    hsameKinds⟩ := exists_returns_licenses_of_perm hsame.licenses hsameKinds hnone hrenone hread
      hbuild
  have hrefamilies : readFamilies second.families (remade.map License.id) = .ok approved :=
    readFamilies_of_perm hsame.families (hmade.symm.map License.id) hfamilies
  have hsorted : License.sort made = License.sort remade :=
    (License.sort_eq_of_perm hmade hnodup).symm
  refine ⟨rebuilt.finished second (License.sort made) approved, ?_, ?_⟩
  · exact returns_readLicenses_holding_iff.mpr ⟨rebound, hrekinds, hrenone, redrafts, reread,
      hreread, remade, rebuilt, hrebuild, approved, hrefamilies, hsorted, rfl⟩
  · exact ⟨⟨approved, rfl, rfl⟩, hids, htables, hsameKinds⟩

end Runs

/-! ### Documents one after the other -/

theorem run_forM_add (documents : List Document) {reader : Reader} {document : Document}
    (hdocument : reader.document = some document) :
    (documents.forM add).run.run reader =
      (.ok (), { reader with document := some (documents.foldl Document.merge document) }) := by
  induction documents generalizing reader document with
  | nil => rw [List.foldl_nil, ← hdocument]; rfl
  | cons next rest ih =>
    have hadd : (add next).run.run reader =
        (.ok (), { reader with document := some (document.merge next) }) := by
      rw [add, run_get_bind, hdocument]
      rfl
    have hsplit : (next :: rest).forM add = (do add next; rest.forM add) := rfl
    rw [hsplit, run_bind, hadd]
    exact ih rfl

/-- Adds documents to a new reader one after the other, and reads the licenses. -/
def loadDocuments [Installation] (catalogue : Catalogue) (kinds : KindTable)
    (documents : List Document) :
    Except Fault (List License) × Reader :=
  (do documents.forM add; readLicenses).run.run { catalogue, kinds }

theorem loadDocuments_eq [Installation] (catalogue : Catalogue) (kinds : KindTable)
    (documents : List Document) :
    loadDocuments catalogue kinds documents =
      readLicenses.run.run (holding catalogue kinds (.mergeAll documents)) := by
  have hnone : ({ catalogue, kinds } : Reader).document = some {} := rfl
  rw [loadDocuments, run_bind, run_forM_add documents hnone]
  rfl

section Documents

variable {catalogue : Catalogue} {kinds : KindTable} {first second : List Document} [Installation]

theorem agrees_of_loadDocuments (hperm : first.Perm second) {licenses : List License}
    (hloaded : (loadDocuments catalogue kinds first).1 = .ok licenses) :
    (loadDocuments catalogue kinds second).1 = .ok licenses ∧
      (loadDocuments catalogue kinds first).2.Agrees (loadDocuments catalogue kinds second).2 := by
  rw [loadDocuments_eq] at hloaded
  rw [loadDocuments_eq, loadDocuments_eq]
  have hreturns : Returns readLicenses (holding catalogue kinds (.mergeAll first)) licenses _ :=
    Prod.ext hloaded rfl
  obtain ⟨other', hother, hagrees⟩ :=
    exists_returns_readLicenses_of_reordered (Document.reordered_mergeAll hperm) hreturns
  rw [Returns] at hother
  rw [hother]
  exact ⟨rfl, hagrees⟩

/-- Documents may be added in any order. The licenses that are read are the same, with the same
matchers, or there are none in either order, and the readers agree afterwards: they approve the same
categories, declare and build the same identified matchers, and bind the same tags. -/
theorem loadDocuments_order_independent (catalogue : Catalogue) (kinds : KindTable)
    {first second : List Document} (hperm : first.Perm second) :
    (∀ licenses, (loadDocuments catalogue kinds first).1 = .ok licenses ↔
      (loadDocuments catalogue kinds second).1 = .ok licenses) ∧
    ∀ licenses, (loadDocuments catalogue kinds first).1 = .ok licenses →
      (loadDocuments catalogue kinds first).2.Agrees (loadDocuments catalogue kinds second).2 := by
  constructor
  · intro licenses
    constructor
    · intro hloaded
      exact (agrees_of_loadDocuments hperm hloaded).1
    · intro hloaded
      exact (agrees_of_loadDocuments hperm.symm hloaded).1
  · intro licenses hloaded
    exact (agrees_of_loadDocuments hperm hloaded).2

end Documents

/-- A document with a license that needs another document: it refers to a matcher, uses a tag and
approves a category that are declared there. -/
def referringDocument : Document :=
  let reference : Node := { tag := "matcher_ref", attributes := [("refid", "t")] }
  let word : Node := { tag := "word", text := "Foo" }
  let root : Node := { tag := "and", children := [reference, word] }
  { licenses :=
      [{ tag := "license", attributes := [("id", "A"), ("name", "Alpha")], children := [root] }]
    families := [{ tag := "family", attributes := [("license_ref", "B")] }] }

@[inherit_doc referringDocument]
def declaringDocument : Document :=
  let root : Node := { tag := "word", attributes := [("id", "t")], text := "Bar" }
  { licenses :=
      [{ tag := "license", attributes := [("id", "B"), ("name", "Beta")], children := [root] }]
    matchers := [{ tag := "matcher", attributes := [("factory", "text"), ("name", "word")] }] }

section Sample

open Sample

/-- The reference leads forward in one order of the documents and back in the other. -/
theorem loadDocuments_order_independent_references :
    let licenses : List License :=
      [⟨⟨"A", "Alpha"⟩, .all none
          [.reference none "t" (.leaf (some "t") (.literal "Bar") .unknown),
            .leaf none (.literal "Foo") .unknown], none, none⟩,
        ⟨⟨"B", "Beta"⟩, .registered "t" (.leaf (some "t") (.literal "Bar") .unknown), none, none⟩]
    [referringDocument, declaringDocument].Perm [declaringDocument, referringDocument] ∧
      (loadDocuments {} .builtIn [referringDocument, declaringDocument]).1 = .ok licenses ∧
      (loadDocuments {} .builtIn [declaringDocument, referringDocument]).1 = .ok licenses ∧
      (loadDocuments {} .builtIn [referringDocument, declaringDocument]).2.Agrees
        (loadDocuments {} .builtIn [declaringDocument, referringDocument]).2 := by
  intro licenses
  have hperm : [referringDocument, declaringDocument].Perm [declaringDocument, referringDocument] :=
    .swap declaringDocument referringDocument []
  have hloaded :
      (loadDocuments {} .builtIn [referringDocument, declaringDocument]).1 = .ok licenses := by
    cbv
  obtain ⟨hsame, hagrees⟩ := loadDocuments_order_independent {} .builtIn hperm
  exact ⟨hperm, hloaded, (hsame licenses).mp hloaded, hagrees licenses hloaded⟩

end Sample

end Reader

end LicenseHeaders
