import LicenseHeaders.Proofs.Document.Agreement
import LicenseHeaders.Proofs.Reader.Elements
import LicenseHeaders.Proofs.Reader.Order

/-!
# Reading documents that agree

Of documents that agree, a reader makes the same licenses, and approves the same
(`Reader.loadDocuments_of_agrees`). The order of attributes is all that they may differ in. It shows
in the builders of their elements, which keep attributes in order, but in nothing that the builders
build: builders that look up the same values are `Builder.Alike`, and they build the same matchers
(`Builder.Builds.of_alike`).
-/

set_option autoImplicit false
set_option relaxedAutoImplicit false

namespace LicenseHeaders

open Text

/-! ### Builders that are alike -/

namespace Builder

/-- Two builders are alike: the same is set in them, in one order or another, and their members are
alike. -/
inductive Alike : Builder → Builder → Prop
  | plain {kind : Kind} {id : Option String} {settings others : List (String × String)}
      {text : String} {members fellows : List Builder} {resolves : Bool}
      (hsettings : ∀ name, setting? others name = setting? settings name)
      (hmembers : List.Forall₂ Alike members fellows) :
      Alike (plain kind id settings text members resolves)
        (plain kind id others text fellows resolves)
  | declared (id : String) (kind : Kind) : Alike (declared id kind) (declared id kind)

/-- Two entries declare builders that are alike under the same identifier. -/
def AlikeEntry (first second : String × Builder) : Prop :=
  second.1 = first.1 ∧ first.2.Alike second.2

section Alike

variable {builders others : List (String × Builder)} {builder other : Builder} {matcher : Matcher}

/-- Where they stand, builders that are alike are replaced alike. -/
theorem Alike.standIn (halike : builder.Alike other) : builder.standIn.Alike other.standIn := by
  cases halike with
  | declared id kind => exact .declared id kind
  | @plain kind id settings others text members fellows resolves hsettings hmembers =>
    cases id with
    | none => exact .plain hsettings hmembers
    | some id => exact .declared id kind

/-- A leaf is made of the values that are looked up. -/
theorem leaf_congr [Installation] {kind : Kind} {id : Option String}
    {settings others : List (String × String)} {text : String}
    (hsettings : ∀ name, setting? others name = setting? settings name) :
    leaf kind id others text = leaf kind id settings text := by
  have hvalues : setting? others = setting? settings := funext hsettings
  cases kind <;> simp only [leaf, hvalues]

theorem refersTo_congr {settings others : List (String × String)}
    (hsettings : ∀ name, setting? others name = setting? settings name) :
    refersTo others = refersTo settings := by
  rw [refersTo, refersTo, hsettings]

theorem exists_lookup_of_alike (htables : List.Forall₂ AlikeEntry builders others) {id : String}
    (hlookup : builders.lookup id = some builder) :
    ∃ other, others.lookup id = some other ∧ builder.Alike other := by
  induction htables with
  | nil => cases hlookup
  | @cons entry fellow builders others hentry _ ih =>
    obtain ⟨hid, halike⟩ := hentry
    rw [List.lookup_cons] at hlookup ⊢
    rw [hid]
    cases hkey : id == entry.1 with
    | true =>
      rw [hkey] at hlookup
      cases hlookup
      exact ⟨fellow.2, rfl, halike⟩
    | false =>
      rw [hkey] at hlookup
      exact ih hlookup

theorem map_fst_eq_of_alike (htables : List.Forall₂ AlikeEntry builders others) :
    others.map (·.1) = builders.map (·.1) := by
  induction htables with
  | nil => rfl
  | cons hentry _ ih => rw [List.map_cons, List.map_cons, hentry.1, ih]

/-- Builders that are alike build the same, among declarations that are alike. -/
theorem Builds.of_alike [Installation] (htables : List.Forall₂ AlikeEntry builders others)
    (hbuilds : Builds builders builder matcher) (halike : builder.Alike other) :
    Builds others other matcher := by
  induction hbuilds using Builds.induction generalizing other with
  | declared hlookup _ ih =>
    cases halike with
    | declared id kind =>
      obtain ⟨found, hfound, hsame⟩ := exists_lookup_of_alike htables hlookup
      exact .declared hfound (ih hsame)
  | leaf hmembers hreference hleaf =>
    cases halike with
    | plain hsettings _ =>
      exact .leaf hmembers hreference ((leaf_congr hsettings).trans hleaf)
  | combination hkind hcount _ hcombine ih =>
    cases halike with
    | plain _ hfellows =>
      refine .combination hkind (hfellows.length_eq ▸ hcount) ?_ hcombine
      refine forall₂_of_common (fun member _ fellow built hfellow hbuilt ↦ ?_) hfellows ih
      obtain ⟨_, hsame⟩ := hbuilt
      exact hsame hfellow
  | reference hname hlookup _ ih =>
    cases halike with
    | plain hsettings _ =>
      have hrefers := refersTo_congr hsettings
      obtain ⟨found, hfound, hsame⟩ := exists_lookup_of_alike htables hlookup
      rw [← hrefers] at hname hfound ⊢
      exact .reference hname hfound (ih hsame)

end Alike

end Builder

/-! ### Elements that agree -/

namespace Node.Agrees

section Elements

variable {kinds others : KindTable} {first second : Node}

theorem setting?_settings (hagrees : first.Agrees second) (name : String) :
    Builder.setting? second.settings name = Builder.setting? first.settings name := by
  have hown (node : Node) : Builder.setting? node.settings "id" = none := by
    rw [Builder.setting?, List.lookup_eq_none_iff]
    intro entry hentry
    rw [settings, List.mem_reverse, List.mem_filter, bne_iff_ne] at hentry
    exact bne_iff_ne.mpr (Ne.symm hentry.2)
  by_cases hname : name = "id"
  · rw [hname, hown, hown]
  · rw [second.setting?_settings hname, first.setting?_settings hname, hagrees.last?]

theorem kindIn (hkinds : ∀ tag, others.lookup tag = kinds.lookup tag)
    (hagrees : first.Agrees second) : second.kindIn others = first.kindIn kinds := by
  rw [Node.kindIn, Node.kindIn, hkinds, hagrees.tag]

theorem accepted (hkinds : ∀ tag, others.lookup tag = kinds.lookup tag)
    (hagrees : first.Agrees second) {kind : Kind} (haccepted : first.accepted kinds = .ok kind) :
    second.accepted others = .ok kind := by
  rw [accepted_eq_ok_iff] at haccepted ⊢
  rw [hkinds, hagrees.tag, hagrees.options_iff, hagrees.children_eq_nil_iff]
  exact haccepted

/-- The builder of an element is alike if those of what stands in it are. -/
theorem alike_plainIn_of_children (hkinds : ∀ tag, others.lookup tag = kinds.lookup tag)
    (hagrees : first.Agrees second)
    (hchildren : ∀ child ∈ first.children, ∀ other, child.Agrees other →
      (child.builderIn kinds).Alike (other.builderIn others)) :
    (first.plainIn kinds).Alike (second.plainIn others) := by
  have hmembers : List.Forall₂ Builder.Alike (first.children.map (builderIn kinds))
      (second.children.map (builderIn others)) := by
    rw [List.forall₂_map_left_iff, List.forall₂_map_right_iff]
    exact forall₂_imp_of_mem hchildren hagrees.children
  rw [plainIn, plainIn, ofKind, ofKind, hagrees.kindIn hkinds, hagrees.declaredId?, hagrees.text]
  exact .plain hagrees.setting?_settings hmembers

/-- Elements that agree have builders that are alike. -/
theorem alike_builderIn (hkinds : ∀ tag, others.lookup tag = kinds.lookup tag)
    (hagrees : first.Agrees second) : (first.builderIn kinds).Alike (second.builderIn others) := by
  induction first using induction_children generalizing second with
  | step first ih =>
    rw [builderIn_eq, builderIn_eq]
    exact (hagrees.alike_plainIn_of_children hkinds fun child hchild _ ↦ ih child hchild).standIn

theorem alike_plainIn (hkinds : ∀ tag, others.lookup tag = kinds.lookup tag)
    (hagrees : first.Agrees second) : (first.plainIn kinds).Alike (second.plainIn others) :=
  hagrees.alike_plainIn_of_children hkinds fun _ _ _ ↦ alike_builderIn hkinds

/-- The same identifiers are declared in elements that agree, with builders that are alike. -/
theorem declarationsIn (hkinds : ∀ tag, others.lookup tag = kinds.lookup tag)
    (hagrees : first.Agrees second) :
    List.Forall₂ Builder.AlikeEntry (first.declarationsIn kinds)
      (second.declarationsIn others) := by
  refine List.rel_filterMap (fun element fellow helement ↦ ?_) hagrees.elements
  rw [declarationIn?, declarationIn?, helement.declaredId?]
  cases element.declaredId? with
  | none => exact .none
  | some id => exact .some ⟨rfl, helement.alike_plainIn hkinds⟩

theorem acceptedIn (hkinds : ∀ tag, others.lookup tag = kinds.lookup tag)
    (hagrees : first.Agrees second) (haccepted : first.Accepted kinds) :
    second.Accepted others := by
  intro fellow hfellow
  obtain ⟨element, helement, hsame⟩ := exists_of_mem_of_forall₂ hagrees.elements.flip hfellow
  obtain ⟨kind, hkind⟩ := haccepted element helement
  exact ⟨kind, hsame.accepted hkinds hkind⟩

end Elements

/-! ### Licenses, kinds and families that agree -/

section Declarations

variable {kinds others : KindTable} {first second : Node}

theorem holdsLicense (hagrees : first.Agrees second) (hlicense : first.HoldsLicense) :
    second.HoldsLicense := by
  obtain ⟨hoptions, root, hroots⟩ := hlicense
  refine ⟨hagrees.options_iff.mpr hoptions, List.length_eq_one_iff.mp ?_⟩
  rw [← hagrees.roots.length_eq, hroots, List.length_singleton]

theorem heldIn (hkinds : ∀ tag, others.lookup tag = kinds.lookup tag)
    (hagrees : first.Agrees second) :
    List.Forall₂ Builder.AlikeEntry (first.heldIn kinds) (second.heldIn others) :=
  List.rel_flatMap hagrees.roots fun _ _ hroot ↦ hroot.declarationsIn hkinds

/-- Declarations of licenses that agree make the same license. -/
theorem makes_draftIn [Installation] (hkinds : ∀ tag, others.lookup tag = kinds.lookup tag)
    (hagrees : first.Agrees second) {builders fellows : List (String × Builder)}
    (htables : List.Forall₂ Builder.AlikeEntry builders fellows) {license : License}
    (hmakes : (first.draftIn kinds).Makes builders license) :
    (second.draftIn others).Makes fellows license := by
  obtain ⟨hcategory, hname, ⟨builder, hroot, hbuilds⟩, hnotes, hderived⟩ := hmakes
  have hsame : second.notes = first.notes := by
    rw [Node.notes, Node.notes, map_text_eq_of_agrees (hagrees.filter_children (· == noteTag))]
  refine ⟨?_, ?_, ?_, ?_, ?_⟩
  · rw [category_draftIn] at hcategory ⊢
    rw [hagrees.get?, hcategory]
  · rw [name_draftIn] at hname ⊢
    rw [hagrees.get?, hname]
  · have hroots := hagrees.roots
    rw [draftIn, draftOf] at hroot ⊢
    generalize first.roots = roots at hroot hroots
    generalize second.roots = fellowRoots at hroots
    cases hroots with
    | nil => cases hroot
    | cons hhead _ =>
      cases hroot
      exact ⟨_, rfl, hbuilds.of_alike htables (hhead.alike_builderIn hkinds)⟩
  · rw [hnotes, notes_draftIn, notes_draftIn, hsame]
  · rw [hderived, derivedFrom_draftIn, derivedFrom_draftIn, hagrees.get?]

theorem binds (hagrees : first.Agrees second) {kind? : String → Option Kind}
    {bindings : List (String × Kind)} (hbinds : first.Binds kind? bindings) :
    second.Binds kind? bindings := by
  obtain ⟨hoptions, name, kind, hname, hkind, hbindings⟩ := hbinds
  refine ⟨hagrees.options_iff.mpr hoptions, name, kind, ?_, hkind, ?_⟩
  · rw [hagrees.get?, hname]
  · rw [hbindings, boundTags, boundTags, hagrees.get?]

theorem readFamily (hagrees : first.Agrees second) {categories : List String} {category : String}
    (hread : Reader.readFamily categories first = .ok category) :
    Reader.readFamily categories second = .ok category := by
  rw [Reader.readFamily_eq_ok_iff] at hread ⊢
  rw [hagrees.options_iff, hagrees.get?]
  exact hread

end Declarations

end Node.Agrees

theorem Document.Agrees.merge {first second added other : Document} (hagrees : first.Agrees second)
    (hadded : added.Agrees other) : (first.merge added).Agrees (second.merge other) := by
  refine ⟨List.rel_append hagrees.licenses hadded.licenses,
    List.rel_append hagrees.families hadded.families,
    List.rel_append hagrees.matchers hadded.matchers, ?_⟩
  rw [Document.merge, Document.merge, hagrees.sources, hadded.sources]

theorem Document.agrees_mergeAll {documents others : List Document}
    (hagrees : List.Forall₂ Agrees documents others) :
    (mergeAll documents).Agrees (mergeAll others) := by
  have hfold (first second : Document) (hbase : first.Agrees second) :
      (documents.foldl Document.merge first).Agrees (others.foldl Document.merge second) := by
    induction hagrees generalizing first second with
    | nil => exact hbase
    | cons hdocument _ ih => exact ih _ _ (hbase.merge hdocument)
  exact hfold {} {} (agrees_refl {})

/-! ### Readers -/

namespace Reader

section Reading

variable {catalogue : Catalogue} {kinds : KindTable} {reader other reader' : Reader}
  {nodes fellows : List Node}

/-- Families that agree approve the same. -/
theorem readFamilies_of_agrees (hagrees : List.Forall₂ Node.Agrees nodes fellows)
    {categories approved : List String} (hread : readFamilies nodes categories = .ok approved) :
    readFamilies fellows categories = .ok approved := by
  cases hagrees with
  | nil => exact hread
  | @cons node fellow nodes fellows hnode hrest =>
    rw [readFamilies, List.isEmpty_cons, if_neg Bool.false_ne_true] at hread ⊢
    cases hfound : (node :: nodes).mapM (readFamily categories) with
    | error fault =>
      rw [hfound] at hread
      cases hread
    | ok found =>
      have hagain : (fellow :: fellows).mapM (readFamily categories) = .ok found :=
        mapM_eq_ok_iff.mpr <| forall₂_of_common (fun _ _ _ _ hsame ↦ hsame.readFamily)
          (.cons hnode hrest) (mapM_eq_ok_iff.mp hfound)
      rw [hagain, ← hfound]
      exact hread

/-- Declarations of kinds that agree bind the same tags to the same kinds. -/
theorem exists_returns_readEachKind_of_agrees (hagrees : List.Forall₂ Node.Agrees nodes fellows)
    (hcatalogue : other.catalogue.kind? = reader.catalogue.kind?) (hkinds : reader.SameKinds other)
    (hreturns : Returns (readEachKind nodes) reader () reader') :
    ∃ other', Returns (readEachKind fellows) other () other' ∧ reader'.SameKinds other' := by
  obtain ⟨parts, hparts, hbound⟩ := bound_of_returns_readEachKind hreturns
  have hfellows : List.Forall₂ (Node.Binds reader.catalogue.kind?) fellows parts :=
    forall₂_of_common (fun _ _ _ _ hnode hbinds ↦ hnode.binds hbinds) hagrees hparts
  have hadmits : other.kinds.Admits parts.flatten :=
    hbound.admits.anti fun tag kind hother ↦ (hkinds tag).symm.trans hother
  obtain ⟨other', hreturnsOther, hboundOther⟩ :=
    exists_returns_readEachKind hfellows hcatalogue hadmits
  refine ⟨other', hreturnsOther, fun tag ↦ Option.ext fun kind ↦ ?_⟩
  rw [hbound.joins tag kind, hboundOther.joins tag kind, hkinds tag]

/-- Where licenses are read, licenses that agree with them are read, too. Assumes: nothing has been
declared before. -/
theorem returns_readEachLicense_of_agrees (hagrees : List.Forall₂ Node.Agrees nodes fellows)
    {bound rebound read : Reader} {drafts : List (Node × LicenseDraft)}
    (hkinds : bound.SameKinds rebound) (hnone : rebound.identifiers = {})
    (hread : Returns (readEachLicense nodes) bound drafts read) :
    Returns (readEachLicense fellows) rebound
      (fellows.map fun fellow ↦ (fellow, fellow.draftIn rebound.kinds))
      (rebound.declaring (fellows.flatMap (Node.heldIn rebound.kinds))) := by
  obtain ⟨hlicenses, haccepted, hfresh, _, _⟩ := returns_draftsIn_iff.mp hread
  have hheld : List.Forall₂ Builder.AlikeEntry (nodes.flatMap (Node.heldIn bound.kinds))
      (fellows.flatMap (Node.heldIn rebound.kinds)) :=
    List.rel_flatMap hagrees fun _ _ hnode ↦ hnode.heldIn hkinds
  refine returns_draftsIn_iff.mpr ⟨?_, ?_, fresh_of_new hnone ?_, rfl, rfl⟩
  · intro fellow hfellow
    obtain ⟨node, hnode, hsame⟩ := exists_of_mem_of_forall₂ hagrees.flip hfellow
    exact hsame.holdsLicense (hlicenses node hnode)
  · intro fellow hfellow other hother
    obtain ⟨node, hnode, hsame⟩ := exists_of_mem_of_forall₂ hagrees.flip hfellow
    obtain ⟨root, hroot, hsameRoot⟩ := exists_of_mem_of_forall₂ hsame.roots.flip hother
    exact hsameRoot.acceptedIn hkinds (haccepted node hnode root hroot)
  · rw [Builder.map_fst_eq_of_alike hheld]
    exact hfresh.nodup

variable [Installation]

/-- Of licenses that agree the same are read and built. Assumes: nothing has been declared or built
before. -/
theorem exists_returns_licenses_of_agrees (hagrees : List.Forall₂ Node.Agrees nodes fellows)
    {bound rebound read built : Reader} {drafts : List (Node × LicenseDraft)} {made : List License}
    (hkinds : bound.SameKinds rebound) (hnone : bound.identifiers = {})
    (hnoneOther : rebound.identifiers = {})
    (hread : Returns (readEachLicense nodes) bound drafts read)
    (hbuild : Returns (buildLicenses [] drafts) read made built) :
    ∃ redrafts reread rebuilt, Returns (readEachLicense fellows) rebound redrafts reread ∧
      Returns (buildLicenses [] redrafts) reread made rebuilt := by
  have hreread := returns_readEachLicense_of_agrees hagrees hkinds hnoneOther hread
  obtain ⟨hlicenses, _, _, rfl, rfl⟩ := returns_draftsIn_iff.mp hread
  have hroots := Node.roots_draftsIn bound.kinds hlicenses
  have hreroots := Node.roots_draftsIn rebound.kinds (returns_draftsIn_iff.mp hreread).1
  obtain ⟨hmade, hnodup⟩ :=
    (exists_returns_buildLicenses_nil_iff hroots (sound_declaring_of_new hnone _)).mp
      ⟨built, hbuild⟩
  have hremade : List.Forall₂
      (LicenseDraft.Makes (rebound.declaring (fellows.flatMap
        (Node.heldIn rebound.kinds))).identifiers.builders)
      ((fellows.map fun node ↦ (node, node.draftIn rebound.kinds)).map (·.2)) made := by
    have hheld := List.rel_flatMap hagrees fun _ _ hnode ↦ hnode.heldIn hkinds
    rw [List.map_map, List.forall₂_map_left_iff] at hmade ⊢
    refine forall₂_of_common (fun _ _ _ _ hnode hmakes ↦ ?_) hagrees hmade
    rw [identifiers_declaring_of_new hnone] at hmakes
    rw [identifiers_declaring_of_new hnoneOther]
    exact hnode.makes_draftIn hkinds hheld hmakes
  obtain ⟨rebuilt, hrebuild⟩ := (exists_returns_buildLicenses_nil_iff hreroots
    (sound_declaring_of_new hnoneOther _)).mpr ⟨hremade, hnodup⟩
  exact ⟨_, _, rebuilt, hreread, hrebuild⟩

/-- A run over a document is carried over to one that agrees with it. -/
theorem exists_returns_readLicenses_of_agrees {first second : Document}
    (hagrees : first.Agrees second) {licenses : List License}
    (hreturns : Returns readLicenses (holding catalogue kinds first) licenses reader') :
    ∃ other' approved, Returns readLicenses (holding catalogue kinds second) licenses other' ∧
      reader'.approved = some approved ∧ other'.approved = some approved := by
  obtain ⟨bound, hkinds, hnone, drafts, read, hread, made, built, hbuild, approved, hfamilies, rfl,
    rfl⟩ := returns_readLicenses_holding_iff.mp hreturns
  obtain ⟨rebound, hrekinds, hrenone, hsameKinds⟩ := exists_returns_readKinds_holding
    (exists_returns_readEachKind_of_agrees hagrees.matchers rfl fun _ ↦ rfl) hkinds
  obtain ⟨redrafts, reread, rebuilt, hreread, hrebuild⟩ :=
    exists_returns_licenses_of_agrees hagrees.licenses hsameKinds hnone hrenone hread hbuild
  have hrefamilies := readFamilies_of_agrees hagrees.families hfamilies
  refine ⟨rebuilt.finished second (License.sort made) approved, approved, ?_, rfl, rfl⟩
  exact returns_readLicenses_holding_iff.mpr ⟨rebound, hrekinds, hrenone, redrafts, reread,
    hreread, made, rebuilt, hrebuild, approved, hrefamilies, rfl, rfl⟩

end Reading

section Documents

variable (catalogue : Catalogue) (kinds : KindTable) {documents others : List Document}

/-- What is loaded of documents is loaded of documents that agree with them, and the same categories
are approved. -/
theorem loadDocuments_of_agrees [Installation]
    (hagrees : List.Forall₂ Document.Agrees documents others) {licenses : List License}
    (hloaded : (loadDocuments catalogue kinds documents).1 = .ok licenses) :
    (loadDocuments catalogue kinds others).1 = .ok licenses ∧
      ∃ approved, (loadDocuments catalogue kinds documents).2.approved = some approved ∧
        (loadDocuments catalogue kinds others).2.approved = some approved := by
  rw [loadDocuments_eq] at hloaded
  rw [loadDocuments_eq, loadDocuments_eq]
  have hreturns : Returns readLicenses (holding catalogue kinds (.mergeAll documents)) licenses _ :=
    Prod.ext hloaded rfl
  obtain ⟨other', approved, hother, happroved, happrovedOther⟩ :=
    exists_returns_readLicenses_of_agrees (Document.agrees_mergeAll hagrees) hreturns
  rw [Returns] at hother
  rw [hother]
  exact ⟨rfl, approved, happroved, happrovedOther⟩

end Documents

end Reader

end LicenseHeaders
