import LicenseHeaders.Proofs.Reader.Image
import LicenseHeaders.Sample

/-!
# Further documents

Identifiers, tags and categories of all documents are in one place each, so a document that is added
could change what another one means. It does not. A reader that accepts documents and accepts them
with others besides binds every tag as it did before (`KindTable.Within`), so it reads the same
builders and declarations from the elements that it accepted (`Node.plainIn_eq_of_within`), and what
a builder builds does not change where more is declared. Hence the licenses of the first documents
are among those of all of them (`Document.Yields.exists_perm`), wherever the others stand and
whatever they refer to.

`Reader.loadDocuments_extension` says what follows for a header and for approval. The families that
an analyser of all licenses reports on a header are, as far as the first documents have licenses of
their categories, those that an analyser of the licenses of the first documents reports, and what
was approved by families of the first documents stays approved.
-/

set_option autoImplicit false
set_option relaxedAutoImplicit false

namespace LicenseHeaders

open Text

/-! ### Tables that bind more -/

/-- A table binds all that another one does, to the same kinds. -/
def KindTable.Within (kinds larger : KindTable) : Prop :=
  ∀ tag kind, kinds.lookup tag = some kind → larger.lookup tag = some kind

/-- What the declaration of a kind binds is determined by what goes by names. -/
theorem Node.Binds.unique {kind? : String → Option Kind} {node : Node}
    {first second : List (String × Kind)} (hfirst : node.Binds kind? first)
    (hsecond : node.Binds kind? second) : first = second := by
  obtain ⟨_, name, kind, hname, hkind, rfl⟩ := hfirst
  obtain ⟨_, other, found, hother, hfound, rfl⟩ := hsecond
  cases hname.symm.trans hother
  cases hkind.symm.trans hfound
  rfl

namespace Node

section Within

variable {kinds larger : KindTable} {node : Node}

/-- The builder of an element that is accepted is the same where more is bound. -/
theorem plainIn_eq_of_within (hwithin : kinds.Within larger) (node : Node) :
    node.Accepted kinds → node.plainIn larger = node.plainIn kinds := by
  induction node using Node.induction_children with
  | step node ih =>
    intro haccepted
    obtain ⟨hchildren, kind, hkind⟩ := (node.accepted_iff kinds).mp haccepted
    have hlookup := (accepted_eq_ok_iff.mp hkind).1
    have hsame : node.kindIn larger = node.kindIn kinds := by
      rw [kindIn, kindIn, hlookup, hwithin _ _ hlookup]
    have hmembers : node.children.map (builderIn larger) =
        node.children.map (builderIn kinds) := by
      refine List.map_congr_left fun child hchild ↦ ?_
      rw [builderIn_eq, builderIn_eq, ih child hchild (hchildren child hchild)]
    rw [plainIn, plainIn, hsame, hmembers]

/-- What is declared in an element that is accepted is the same where more is bound. -/
theorem declarationsIn_eq_of_within (hwithin : kinds.Within larger) (node : Node) :
    node.Accepted kinds → node.declarationsIn larger = node.declarationsIn kinds := by
  induction node using Node.induction_children with
  | step node ih =>
    intro haccepted
    have hchildren := ((node.accepted_iff kinds).mp haccepted).1
    have hmembers : node.children.flatMap (declarationsIn larger) =
        node.children.flatMap (declarationsIn kinds) :=
      List.flatMap_congr fun child hchild ↦ ih child hchild (hchildren child hchild)
    rw [declarationsIn_eq, declarationsIn_eq, hmembers, declarationIn?, declarationIn?,
      plainIn_eq_of_within hwithin node haccepted]

variable (hwithin : kinds.Within larger) (haccepted : ∀ root ∈ node.roots, root.Accepted kinds)

include hwithin haccepted

theorem heldIn_eq_of_within : node.heldIn larger = node.heldIn kinds :=
  List.flatMap_congr fun root hroot ↦
    declarationsIn_eq_of_within hwithin root (haccepted root hroot)

theorem draftIn_eq_of_within : node.draftIn larger = node.draftIn kinds := by
  rw [draftIn, draftIn]
  cases hroots : node.roots with
  | nil => rfl
  | cons root rest =>
    have hroot : root ∈ node.roots := by simp [hroots]
    simp only [List.head?_cons, Option.map_some, builderIn_eq,
      plainIn_eq_of_within hwithin root (haccepted root hroot)]

end Within

end Node

/-! ### Licenses of more documents -/

/-- A draft makes one license at most. -/
theorem LicenseDraft.Makes.unique [Installation] {builders : List (String × Builder)}
    {draft : LicenseDraft} {first second : License} (hfirst : draft.Makes builders first)
    (hsecond : draft.Makes builders second) : first = second := by
  obtain ⟨builder, hroot, hbuilds⟩ := hfirst.matcher
  obtain ⟨other, hother, hbuildsOther⟩ := hsecond.matcher
  cases hroot.symm.trans hother
  have hcategory := Option.some.inj (hfirst.category.symm.trans hsecond.category)
  have hname := Option.some.inj (hfirst.name.symm.trans hsecond.name)
  have hmatcher := hbuilds.unique hbuildsOther
  have hnotes := hfirst.notes.trans hsecond.notes.symm
  have hderived := hfirst.derivedFrom.trans hsecond.derivedFrom.symm
  obtain ⟨⟨_, _⟩, _, _, _⟩ := first
  obtain ⟨⟨_, _⟩, _, _, _⟩ := second
  simp_all

namespace Document

theorem mergeAll_append (first second : List Document) :
    mergeAll (first ++ second) = (mergeAll first).merge (mergeAll second) := by
  simp [mergeAll, foldl_merge, merge]

variable [Installation]

section Yields

variable {kinds larger : KindTable} {document whole : Document} {made all : List License}
  {rest : List Node}

/-- What is declared in a document is declared in one with more licenses. -/
theorem Yields.lookup_declarationsIn (hyields : document.Yields kinds made)
    (hwhole : whole.Yields larger all) (hwithin : kinds.Within larger)
    (hlicenses : whole.licenses.Perm (document.licenses ++ rest)) (id : String)
    (builder : Builder) (hlookup : (document.declarationsIn kinds).lookup id = some builder) :
    (whole.declarationsIn larger).lookup id = some builder := by
  have hids : ((whole.declarationsIn larger).map (·.1)).Nodup := by
    rw [declarationsIn_map_fst]
    exact hwhole.ids
  refine lookup_of_mem hids ?_
  obtain ⟨node, hnode, hentry⟩ := List.mem_flatMap.mp (mem_of_lookup hlookup)
  refine List.mem_flatMap.mpr ⟨node, hlicenses.mem_iff.mpr (List.mem_append_left rest hnode), ?_⟩
  rw [Node.heldIn_eq_of_within hwithin (hyields.accepted node hnode)]
  exact hentry

/-- The licenses of a document are among those of one with more licenses, with the same matchers.
Assumes: tags that are bound for the one are bound to the same kinds for the other. -/
theorem Yields.exists_perm (hyields : document.Yields kinds made) (hwhole : whole.Yields larger all)
    (hwithin : kinds.Within larger)
    (hlicenses : whole.licenses.Perm (document.licenses ++ rest)) :
    ∃ others, all.Perm (made ++ others) := by
  obtain ⟨remade, hremade, hperm⟩ := exists_forall₂_of_perm hwhole.makes hlicenses
  have hfirst : List.Forall₂
      (fun node ↦ (node.draftIn larger).Makes (whole.declarationsIn larger)) document.licenses
      (remade.take document.licenses.length) :=
    (List.forall₂_take_append remade document.licenses rest hremade.flip).flip
  have hsame : List.Forall₂ (· = ·) (remade.take document.licenses.length) made := by
    refine forall₂_of_common (fun node hnode license other hlicense hother ↦ ?_) hfirst
      hyields.makes
    rw [Node.draftIn_eq_of_within hwithin (hyields.accepted node hnode)] at hlicense
    exact hlicense.unique
      (hother.mono (hyields.lookup_declarationsIn hwhole hwithin hlicenses))
  rw [List.forall₂_eq_eq_eq] at hsame
  refine ⟨remade.drop document.licenses.length, ?_⟩
  rw [← hsame, List.take_append_drop]
  exact hperm

end Yields

end Document

/-! ### Families of more licenses -/

namespace License

/-- Of sorted licenses those that have the category of one of the given ones are these, sorted. -/
theorem filter_sort_of_perm {licenses others all : List License}
    (hperm : all.Perm (licenses ++ others)) (hdistinct : (all.map id).Nodup) :
    (sort all).filter (fun license ↦ license.id ∈ licenses.map id) = sort licenses := by
  have hapart := (hperm.map id).nodup_iff.mp hdistinct
  rw [List.map_append] at hapart
  have hothers : others.filter (fun license ↦ license.id ∈ licenses.map id) = [] := by
    refine List.filter_eq_nil_iff.mpr fun license hlicense htaken ↦ ?_
    exact List.disjoint_of_nodup_append hapart (of_decide_eq_true htaken)
      (List.mem_map_of_mem hlicense)
  have hgiven : licenses.filter (fun license ↦ license.id ∈ licenses.map id) = licenses :=
    List.filter_eq_self.mpr fun license hlicense ↦ decide_eq_true (List.mem_map_of_mem hlicense)
  have hselected : ((sort all).filter fun license ↦ license.id ∈ licenses.map id).Perm
      (sort licenses) := by
    have hfiltered := ((sort_perm all).trans hperm).filter fun license ↦
      license.id ∈ licenses.map id
    rw [List.filter_append, hothers, hgiven, List.append_nil] at hfiltered
    exact hfiltered.trans (sort_perm licenses).symm
  refine hselected.eq_of_pairwise (fun first second hfirst hsecond hle hge ↦ ?_)
    ((pairwise_sort all).filter _) (pairwise_sort licenses)
  have hmem (license : License) (hlicense : license ∈ sort licenses) : license ∈ all :=
    hperm.mem_iff.mpr (List.mem_append_left others
      ((sort_perm licenses).mem_iff.mp hlicense))
  exact List.inj_on_of_nodup_map hdistinct (hmem first (hselected.mem_iff.mp hfirst))
    (hmem second hsecond) (le_antisymm hle hge)

end License

namespace Analyser

/-- The families that a new analyser of licenses reports on lines that belong to a source. -/
def familiesOn (licenses : List License) (policy : Policy) (window : Int)
    (lines : List (List Char)) (source : String) : Except Fault (List Family) := do
  let analyser ← ofLicenses licenses policy window
  let report ← analyser.analyse lines source
  return report.families

/-- Families are reported if the window is positive and can be counted. -/
theorem familiesOn_eq (licenses : List License) (policy : Policy) {window : Nat}
    (hwindow : 1 ≤ window) (hcountable : window ≤ maxWindow) (lines : List (List Char))
    (source : String) :
    familiesOn licenses policy window lines source =
      .ok (families { licenses := (License.sort licenses).map License.fresh, policy, window }
        lines) := by
  rw [familiesOn, ofLicenses_eq licenses policy hwindow, ok_bind, analyse_eq hcountable]
  rfl

/-- Whatever the window, each license has a part of its own in the families that are reported. -/
theorem exists_familiesOn_eq (window : Int) (lines : List (List Char)) :
    ∃ recognized : License → Bool, ∀ licenses policy source,
      familiesOn licenses policy window lines source =
        if window < 1 then .error (.value (.windowNotPositive window))
        else if maxWindow < window.toNat then .error (.value .windowTooLarge)
        else .ok (((License.sort licenses).filter recognized).map (·.family)) := by
  let recognized (license : License) : Bool :=
    (license.fresh.reset.matcher.feedLines ((lines.take window.toNat).map chomp)).finish.1 = .holds
  refine ⟨recognized, fun licenses policy source ↦ ?_⟩
  rw [familiesOn, ofLicenses]
  by_cases hpositive : window < 1
  · rw [if_pos hpositive, if_pos hpositive]
    rfl
  rw [if_neg hpositive, if_neg hpositive, ok_bind, analyse]
  by_cases hlarge : maxWindow < window.toNat
  · rw [if_pos hlarge, if_pos hlarge]
    rfl
  rw [if_neg hlarge, if_neg hlarge, License.sort_map_fresh, families_eq_of_each]
  have hfilter : (License.sort licenses).filterMap (fun license ↦
      if recognized license then some license.family else none) =
        ((License.sort licenses).filter recognized).map (·.family) :=
    List.filterMap_filter.symm.trans (congrFun List.filterMap_eq_map' _)
  rw [← hfilter]
  simp only [recognized, decide_eq_true_eq]
  rfl

/-- Licenses that are given beside others are recognized in the same headers, in the same order. -/
theorem familiesOn_eq_filter {licenses others all : List License}
    (hperm : all.Perm (licenses ++ others)) (hdistinct : (all.map License.id).Nodup)
    (policy another : Policy) (window : Int) (lines : List (List Char)) (source : String) :
    familiesOn licenses policy window lines source =
      (familiesOn all another window lines source).map
        (List.filter fun family ↦ family.category ∈ licenses.map License.id) := by
  obtain ⟨recognized, hfamilies⟩ := exists_familiesOn_eq window lines
  rw [hfamilies, hfamilies, ← License.filter_sort_of_perm hperm hdistinct]
  split
  · rfl
  split
  · rfl
  have hcomm (license : License) :
      (recognized license && decide (license.id ∈ licenses.map License.id)) =
        (decide (license.family.category ∈ licenses.map License.id) && recognized license) :=
    Bool.and_comm _ _
  simp only [Except.map, List.filter_map, List.filter_filter, hcomm]
  rfl

end Analyser

/-! ### Loading more documents -/

namespace Reader

section Loading

variable {catalogue : Catalogue} {kinds : KindTable} {first second : Document}
  {licenses : List License}

theorem unread_holding (catalogue : Catalogue) (kinds : KindTable) (document : Document) :
    (holding catalogue kinds document).Unread document :=
  ⟨rfl, rfl, rfl, rfl⟩

/-- Where more kinds are declared, more tags are bound. -/
theorem within_of_returns_readKinds {bound later : Reader}
    (hmatchers : first.matchers ⊆ second.matchers)
    (hbound : Returns readKinds (holding catalogue kinds first) () bound)
    (hlater : Returns readKinds (holding catalogue kinds second) () later) :
    bound.kinds.Within later.kinds := by
  obtain ⟨_, hread, rfl⟩ := returns_readKinds_holding_iff.mp hbound
  obtain ⟨_, hreread, rfl⟩ := returns_readKinds_holding_iff.mp hlater
  obtain ⟨parts, hparts, hjoined⟩ := bound_of_returns_readEachKind hread
  obtain ⟨reparts, hreparts, hrejoined⟩ := bound_of_returns_readEachKind hreread
  intro tag kind hlookup
  refine (hrejoined.joins tag kind).mpr (((hjoined.joins tag kind).mp hlookup).imp_right ?_)
  intro hbinding
  obtain ⟨bindings, hbindings, hmem⟩ := List.mem_flatten.mp hbinding
  obtain ⟨node, hnode, hbinds⟩ := exists_of_mem_of_forall₂ hparts.flip hbindings
  obtain ⟨rebindings, hrebindings, hrebinds⟩ :=
    exists_of_mem_of_forall₂ hreparts (hmatchers hnode)
  have hsame : bindings = rebindings := Node.Binds.unique hbinds hrebinds
  exact List.mem_flatten.mpr ⟨rebindings, hrebindings, hsame ▸ hmem⟩

variable [Installation]

/-- What a loaded document has been read as. -/
theorem hasRead_of_loadDocuments {documents : List Document}
    (hloaded : (loadDocuments catalogue kinds documents).1 = .ok licenses) :
    ∃ bound made approved,
      Returns readKinds (holding catalogue kinds (.mergeAll documents)) () bound ∧
      (loadDocuments catalogue kinds documents).2.kinds = bound.kinds ∧
      licenses = License.sort made ∧
      (loadDocuments catalogue kinds documents).2.HasRead (.mergeAll documents) made approved := by
  rw [loadDocuments_eq] at hloaded ⊢
  exact hasRead_of_returns (unread_holding catalogue kinds _) (Prod.ext hloaded rfl)

/-- Further documents extend what was loaded and change nothing about it. The families that an
analyser of all licenses reports on a header are, as far as they have the category of a license that
was there without the further documents, those that an analyser of the licenses without them
reports, in the same order, or both refuse the window. Where approved families were declared
without them, what was approved is approved, and another category that was there is not unless one
of the further documents has a family that names it. Assumes: documents that are accepted by
themselves, and accepted together with the further ones, in any order. -/
theorem loadDocuments_extension (catalogue : Catalogue) (kinds : KindTable)
    {base extra documents : List Document} (hperm : documents.Perm (base ++ extra))
    {licenses merged : List License}
    (hbase : (loadDocuments catalogue kinds base).1 = .ok licenses)
    (hmerged : (loadDocuments catalogue kinds documents).1 = .ok merged) :
    (∀ (policy another : Policy) (window : Int) lines source,
      Analyser.familiesOn licenses policy window lines source =
        (Analyser.familiesOn merged another window lines source).map
          (List.filter fun family ↦ family.category ∈ licenses.map License.id)) ∧
      (∀ (policy : Policy) (window : Int) lines source, 1 ≤ window → window ≤ maxWindow →
        ∃ families, Analyser.familiesOn merged policy window lines source = .ok families) ∧
      ∃ approved all,
        Returns approvedCategories (loadDocuments catalogue kinds base).2 approved
          (loadDocuments catalogue kinds base).2 ∧
        Returns approvedCategories (loadDocuments catalogue kinds documents).2 all
          (loadDocuments catalogue kinds documents).2 ∧
        ((Document.mergeAll base).families ≠ [] → approved ⊆ all ∧
          ∀ category ∈ licenses.map License.id, category ∈ all → category ∈ approved ∨
            ∃ node ∈ (Document.mergeAll extra).families,
              (node.get? "license_ref").map trimmed = some category) := by
  obtain ⟨bound, made, approved, hbound, hkinds, rfl, hread⟩ := hasRead_of_loadDocuments hbase
  obtain ⟨later, remade, all, hlater, hrekinds, rfl, hreread⟩ := hasRead_of_loadDocuments hmerged
  have hreordered := Document.reordered_mergeAll hperm
  rw [Document.mergeAll_append] at hreordered
  have hmatchers : (Document.mergeAll base).matchers ⊆ (Document.mergeAll documents).matchers :=
    List.Subset.trans (List.subset_append_left _ _) hreordered.matchers.symm.subset
  have hwithin := within_of_returns_readKinds hmatchers hbound hlater
  rw [← hkinds, ← hrekinds] at hwithin
  obtain ⟨others, hothers⟩ := hread.yields.exists_perm hreread.yields hwithin hreordered.licenses
  have hlicenses : (License.sort remade).Perm (License.sort made ++ others) :=
    (License.sort_perm remade).trans
      (hothers.trans ((License.sort_perm made).symm.append_right others))
  have hdistinct : ((License.sort remade).map License.id).Nodup :=
    ((License.sort_perm remade).map License.id).nodup_iff.mpr hreread.yields.distinct
  refine ⟨Analyser.familiesOn_eq_filter hlicenses hdistinct, ?_, approved, all,
    run_approvedCategories_of_some hread.approved,
    run_approvedCategories_of_some hreread.approved, fun hsome ↦ ?_⟩
  · intro policy window lines source hpositive hcountable
    lift window to Nat using by omega
    exact ⟨_, Analyser.familiesOn_eq _ policy (by omega) (by omega) lines source⟩
  have hfamilies (node : Node) : node ∈ (Document.mergeAll documents).families ↔
      node ∈ (Document.mergeAll base).families ∨ node ∈ (Document.mergeAll extra).families :=
    hreordered.families.mem_iff.trans List.mem_append
  obtain ⟨given, hgiven⟩ := List.exists_mem_of_ne_nil _ hsome
  have hresome : (Document.mergeAll documents).families ≠ [] :=
    List.ne_nil_of_mem ((hfamilies given).mpr (.inl hgiven))
  constructor
  · intro category hcategory
    obtain ⟨node, hnode, hnamed⟩ := (mem_of_readFamilies_iff hread.families hsome).mp hcategory
    exact (mem_of_readFamilies_iff hreread.families hresome).mpr
      ⟨node, (hfamilies node).mpr (.inl hnode), hnamed⟩
  · intro category _ hcategory
    obtain ⟨node, hnode, hnamed⟩ := (mem_of_readFamilies_iff hreread.families hresome).mp hcategory
    rcases (hfamilies node).mp hnode with hnode | hnode
    · exact .inl ((mem_of_readFamilies_iff hread.families hsome).mpr ⟨node, hnode, hnamed⟩)
    · exact .inr ⟨node, hnode, hnamed⟩

/-- A document with two licenses, of which one is approved. -/
def approvingDocument : Document :=
  let license (category id text : String) : Node :=
    let root : Node := { tag := "text", attributes := [("id", id)], text }
    { tag := "license", attributes := [("id", category), ("name", category)], children := [root] }
  { licenses := [license "C" "u" "Bar", license "A" "t" "Foo"]
    families := [{ tag := "family", attributes := [("license_ref", "A")] }] }

/-- A further document whose license refers to the first one, and that approves the second one. -/
def furtherDocument : Document :=
  let reference : Node := { tag := "matcher_ref", attributes := [("refid", "t")] }
  { licenses :=
      [{ tag := "license", attributes := [("id", "B"), ("name", "B")], children := [reference] }]
    families := [{ tag := "family", attributes := [("license_ref", "C")] }] }

end Loading

section Sample

open Sample

/-- The further document comes first. The license in it recognizes the same header as the license
that it refers to, which is recognized as without it. -/
theorem loadDocuments_extension_referring :
    let word (id text : String) : Matcher :=
      .registered id (.leaf (some id) (.literal text) .unknown)
    let first : License := ⟨⟨"A", "A"⟩, word "t" "Foo", none, none⟩
    let last : License := ⟨⟨"C", "C"⟩, word "u" "Bar", none, none⟩
    let middle : License :=
      ⟨⟨"B", "B"⟩, .reference none "t" (.leaf (some "t") (.literal "Foo") .unknown), none, none⟩
    let lines := ["Foo Bar".toList]
    let reader := (loadDocuments {} .builtIn [furtherDocument, approvingDocument]).2
    ([furtherDocument, approvingDocument].Perm ([approvingDocument] ++ [furtherDocument]) ∧
      (loadDocuments {} .builtIn [approvingDocument]).1 = .ok [first, last] ∧
      (loadDocuments {} .builtIn [furtherDocument, approvingDocument]).1 =
        .ok [first, middle, last]) ∧
      Analyser.familiesOn [first, middle, last] ⟨["B"]⟩ 1 lines "header" =
        .ok [⟨"A", "A"⟩, ⟨"B", "B"⟩, ⟨"C", "C"⟩] ∧
      Analyser.familiesOn [first, last] ⟨["A"]⟩ 1 lines "header" =
        .ok [⟨"A", "A"⟩, ⟨"C", "C"⟩] ∧
      ∃ all, Returns approvedCategories reader all reader ∧ "A" ∈ all := by
  intro word first last middle lines reader
  have hbase : (loadDocuments {} .builtIn [approvingDocument]).1 = .ok [first, last] := by cbv
  have hmerged : (loadDocuments {} .builtIn [furtherDocument, approvingDocument]).1 =
      .ok [first, middle, last] := by
    cbv
  have hperm : [furtherDocument, approvingDocument].Perm
      ([approvingDocument] ++ [furtherDocument]) := .swap _ _ []
  have hall : Analyser.familiesOn [first, middle, last] ⟨["B"]⟩ 1 lines "header" =
      .ok [⟨"A", "A"⟩, ⟨"B", "B"⟩, ⟨"C", "C"⟩] := by
    have hread : Analyser.families
        { licenses := (License.sort [first, middle, last]).map License.fresh, policy := ⟨["B"]⟩,
          window := 1 } lines = [⟨"A", "A"⟩, ⟨"B", "B"⟩, ⟨"C", "C"⟩] := by
      cbv
    exact (Analyser.familiesOn_eq _ ⟨["B"]⟩ le_rfl (by decide) lines "header").trans
      (congrArg Except.ok hread)
  have happroved : (approvedCategories.run.run
      (loadDocuments {} .builtIn [approvingDocument]).2).1 = .ok ["A"] := by
    cbv
  obtain ⟨hfamilies, _, approved, all, hreturns, hreturnsAll, hkept⟩ :=
    loadDocuments_extension {} .builtIn hperm hbase hmerged
  have hlicenses : Analyser.familiesOn [first, last] ⟨["A"]⟩ 1 lines "header" =
      .ok [⟨"A", "A"⟩, ⟨"C", "C"⟩] := by
    rw [hfamilies ⟨["A"]⟩ ⟨["B"]⟩, hall, Except.map, Except.ok.injEq]
    decide
  have hmem : "A" ∈ approved := by
    rw [congrArg Prod.fst hreturns, Except.ok.injEq] at happroved
    rw [happroved]
    exact List.mem_singleton_self _
  exact ⟨⟨hperm, hbase, hmerged⟩, hall, hlicenses, all, hreturnsAll,
    (hkept (List.cons_ne_nil _ _)).1 hmem⟩

end Sample

end Reader

end LicenseHeaders
