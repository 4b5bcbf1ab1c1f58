import LicenseHeaders.Proofs.Reader.Batch
import LicenseHeaders.Sample

/-!
# Further tags for a kind

The declaration of a kind can give it a second tag, and an element may be written with either. This
module shows that it does not matter which one is used, and where.

`Node.Renamed` relates an element to one in which a tag has been replaced by another one here and
there. Where both tags are bound to one kind, the builders and the declarations of the two are equal
(`Node.Renamed.builderIn_eq`, `Node.Renamed.declarationsIn_eq`), as a builder keeps the kind and not
the tag. So a document yields the same licenses after its elements have been renamed
(`Document.Yields.renamed`), and it yields them with any table that binds more
(`Document.Yields.of_within`).

A new tag may be declared anywhere among the kinds (`Reader.exists_returns_readKinds_alias`): it is
bound to the kind of the old one, all other tags keep theirs. `Reader.loadDocuments_alias` is what
follows for loading.
-/

set_option autoImplicit false
set_option relaxedAutoImplicit false

namespace LicenseHeaders

open Text

namespace Node

/-! ### Renamed elements -/

/-- An element is another one in which a tag is replaced by a new one here and there, at any
depth. -/
inductive Renamed (old new : String) : Node → Node → Prop
  | intro {first second : Node}
      (htag : second.tag = first.tag ∨ first.tag = old ∧ second.tag = new)
      (hattributes : second.attributes = first.attributes) (htext : second.text = first.text)
      (hsource : second.source = first.source)
      (hchildren : List.Forall₂ (Renamed old new) first.children second.children) :
      Renamed old new first second

/-- A declaration in a license is a note and stays as it is, or it is an element and is renamed. -/
def RenamedUnlessNote (old new : String) (first second : Node) : Prop :=
  if first.tag = noteTag then second = first else first.Renamed old new second

/-- The declaration of a license is another one in which elements are renamed. -/
structure HoldsRenamed (old new : String) (first second : Node) : Prop where
  tag : second.tag = first.tag
  attributes : second.attributes = first.attributes
  text : second.text = first.text
  source : second.source = first.source
  children : List.Forall₂ (RenamedUnlessNote old new) first.children second.children

section Renamed

variable {old new : String} {first second : Node} {kinds : KindTable}

theorem Renamed.attributes (hrenamed : first.Renamed old new second) :
    second.attributes = first.attributes := by
  cases hrenamed
  assumption

theorem Renamed.children (hrenamed : first.Renamed old new second) :
    List.Forall₂ (Renamed old new) first.children second.children := by
  cases hrenamed
  assumption

theorem Renamed.declaredId? (hrenamed : first.Renamed old new second) :
    second.declaredId? = first.declaredId? := by
  rw [Node.declaredId?, Node.declaredId?, last?, last?, hrenamed.attributes]

/-- The builder over the builders of the members is that of the other element. -/
theorem Renamed.ofKind_eq (hrenamed : first.Renamed old new second) (kind : Kind)
    (members : List Builder) : second.ofKind kind members = first.ofKind kind members := by
  have htext : second.text = first.text := by
    cases hrenamed
    assumption
  have hsettings : second.settings = first.settings := by
    rw [settings, settings, hrenamed.attributes]
  rw [ofKind, ofKind, hrenamed.declaredId?, hsettings, htext]

section Kinds

variable (hsame : kinds.lookup new = kinds.lookup old)

include hsame

/-- The tags of the two are bound alike. -/
theorem Renamed.lookup_tag (hrenamed : first.Renamed old new second) :
    kinds.lookup second.tag = kinds.lookup first.tag := by
  obtain ⟨htag | ⟨hfirst, hsecond⟩, _, _, _, _⟩ := hrenamed
  · rw [htag]
  · rw [hfirst, hsecond, hsame]

theorem Renamed.accepted (hrenamed : first.Renamed old new second) {kind : Kind}
    (haccepted : first.accepted kinds = .ok kind) : second.accepted kinds = .ok kind := by
  rw [accepted_eq_ok_iff] at haccepted ⊢
  have hnames : second.names = first.names := by rw [names, names, hrenamed.attributes]
  have hnone : second.children = [] ↔ first.children = [] := by
    rw [← List.length_eq_zero_iff, ← List.length_eq_zero_iff, hrenamed.children.length_eq]
  rw [hrenamed.lookup_tag hsame, hnames, hnone]
  exact haccepted

theorem Renamed.plainIn_eq_of_children (hrenamed : first.Renamed old new second)
    (hchildren : ∀ child ∈ first.children, ∀ other, child.Renamed old new other →
      child.builderIn kinds = other.builderIn kinds) :
    second.plainIn kinds = first.plainIn kinds := by
  have hmembers : first.children.map (builderIn kinds) =
      second.children.map (builderIn kinds) := by
    rw [← List.forall₂_eq_eq_eq, List.forall₂_map_left_iff, List.forall₂_map_right_iff]
    exact forall₂_imp_of_mem hchildren hrenamed.children
  rw [plainIn, plainIn, kindIn, kindIn, hrenamed.lookup_tag hsame, hrenamed.ofKind_eq, hmembers]

/-- The builder of a renamed element is that of the element. -/
theorem Renamed.builderIn_eq (hrenamed : first.Renamed old new second) :
    first.builderIn kinds = second.builderIn kinds := by
  induction first using induction_children generalizing second with
  | step first ih =>
    rw [Node.builderIn_eq, Node.builderIn_eq, hrenamed.plainIn_eq_of_children hsame
      fun child hchild _ ↦ ih child hchild]

/-- In a renamed element the same is declared. -/
theorem Renamed.declarationsIn_eq (hrenamed : first.Renamed old new second) :
    first.declarationsIn kinds = second.declarationsIn kinds := by
  induction first using induction_children generalizing second with
  | step first ih =>
    have hall : first.children.flatMap (declarationsIn kinds) =
        second.children.flatMap (declarationsIn kinds) :=
      flatMap_eq_of_forall₂
        (forall₂_imp_of_mem (fun child hchild _ ↦ ih child hchild) hrenamed.children)
    have hplain := hrenamed.plainIn_eq_of_children hsame fun _ _ _ ↦ Renamed.builderIn_eq hsame
    rw [Node.declarationsIn_eq, Node.declarationsIn_eq, hall, declarationIn?, declarationIn?,
      hrenamed.declaredId?, hplain]

theorem Renamed.acceptedIn (hrenamed : first.Renamed old new second)
    (haccepted : first.Accepted kinds) : second.Accepted kinds := by
  induction first using induction_children generalizing second with
  | step first ih =>
    rw [accepted_iff] at haccepted ⊢
    obtain ⟨hchildren, kind, hkind⟩ := haccepted
    refine ⟨fun other hother ↦ ?_, kind, hrenamed.accepted hsame hkind⟩
    obtain ⟨child, hchild, hsameChild⟩ :=
      exists_of_mem_of_forall₂ hrenamed.children.flip hother
    exact ih child hchild hsameChild (hchildren child hchild)

end Kinds

/-! ### Licenses with renamed elements -/

theorem renamedUnlessNote_iff_eq (htag : first.tag = noteTag) :
    first.RenamedUnlessNote old new second ↔ second = first := by
  rw [RenamedUnlessNote, if_pos htag]

theorem renamedUnlessNote_iff_renamed (htag : first.tag ≠ noteTag) :
    first.RenamedUnlessNote old new second ↔ first.Renamed old new second := by
  rw [RenamedUnlessNote, if_neg htag]

section Licenses

variable (hnote : new ≠ noteTag)

include hnote

/-- No element is renamed to a note. -/
theorem RenamedUnlessNote.isNote_iff (hrenamed : first.RenamedUnlessNote old new second) :
    first.tag = noteTag ↔ second.tag = noteTag := by
  by_cases htag : first.tag = noteTag
  · rw [(renamedUnlessNote_iff_eq htag).mp hrenamed]
  · obtain ⟨hsame | ⟨_, hnew⟩, _, _, _, _⟩ := (renamedUnlessNote_iff_renamed htag).mp hrenamed
    · rw [hsame]
    · rw [hnew]
      exact iff_of_false htag hnote

/-- What is no note in the license is renamed. -/
theorem HoldsRenamed.roots (hholds : first.HoldsRenamed old new second) :
    List.Forall₂ (Renamed old new) first.roots second.roots := by
  have hfilter : List.Forall₂ (RenamedUnlessNote old new) first.roots second.roots := by
    refine List.rel_filter (fun child other hchild ↦ ?_) hholds.children
    show (child.tag != noteTag) = true ↔ (other.tag != noteTag) = true
    rw [bne_iff_ne, bne_iff_ne, Ne, hchild.isNote_iff hnote]
  refine forall₂_imp_of_mem (fun root hroot other hother ↦ ?_) hfilter
  exact (renamedUnlessNote_iff_renamed (bne_iff_ne.mp (List.mem_filter.mp hroot).2)).mp hother

/-- The notes in the license are the same. -/
theorem HoldsRenamed.notes (hholds : first.HoldsRenamed old new second) :
    second.notes = first.notes := by
  have hfilter : List.Forall₂ (RenamedUnlessNote old new)
      (first.children.filter (·.tag == noteTag)) (second.children.filter (·.tag == noteTag)) := by
    refine List.rel_filter (fun child other hchild ↦ ?_) hholds.children
    show (child.tag == noteTag) = true ↔ (other.tag == noteTag) = true
    rw [beq_iff_eq, beq_iff_eq, hchild.isNote_iff hnote]
  have hsame : List.Forall₂ (fun note other : Node ↦ note = other)
      (first.children.filter (·.tag == noteTag)) (second.children.filter (·.tag == noteTag)) := by
    refine forall₂_imp_of_mem (fun note hmem other hother ↦ ?_) hfilter
    have htag : note.tag = noteTag := beq_iff_eq.mp (List.mem_filter.mp hmem).2
    exact ((renamedUnlessNote_iff_eq htag).mp hother).symm
  rw [List.forall₂_eq_eq_eq] at hsame
  rw [Node.notes, Node.notes, hsame]

theorem HoldsRenamed.holdsLicense (hholds : first.HoldsRenamed old new second)
    (hlicense : first.HoldsLicense) : second.HoldsLicense := by
  obtain ⟨hoptions, root, hroots⟩ := hlicense
  refine ⟨?_, List.length_eq_one_iff.mp ?_⟩
  · rw [names, hholds.attributes]
    exact hoptions
  · rw [← (hholds.roots hnote).length_eq, hroots, List.length_singleton]

variable (hsame : kinds.lookup new = kinds.lookup old)

include hsame

theorem HoldsRenamed.heldIn_eq (hholds : first.HoldsRenamed old new second) :
    first.heldIn kinds = second.heldIn kinds :=
  flatMap_eq_of_forall₂ ((hholds.roots hnote).imp fun _ _ hroot ↦ hroot.declarationsIn_eq hsame)

/-- The license to be is that of the other declaration. -/
theorem HoldsRenamed.draftIn_eq (hholds : first.HoldsRenamed old new second) :
    second.draftIn kinds = first.draftIn kinds := by
  have hget (name : String) : second.get? name = first.get? name := by
    rw [get?, get?, hholds.attributes]
  have hroot : (second.roots.head?.map fun root ↦ Root.builder (root.builderIn kinds)) =
      first.roots.head?.map fun root ↦ .builder (root.builderIn kinds) := by
    have hroots := hholds.roots hnote
    generalize first.roots = roots at hroots
    generalize second.roots = others at hroots
    cases hroots with
    | nil => rfl
    | cons hhead _ =>
      rw [List.head?_cons, List.head?_cons, Option.map_some, Option.map_some,
        hhead.builderIn_eq hsame]
  rw [draftIn, draftIn, draftOf, draftOf, hroot, hget, hget, hget, hholds.notes hnote]

end Licenses

end Renamed

end Node

/-! ### What renamed documents yield -/

namespace Document

variable [Installation]

section Yields

variable {kinds larger : KindTable} {document another : Document} {made : List License}
  {old new : String}

/-- What a document yields with a table of kinds, it yields where more is bound. -/
theorem Yields.of_within (hyields : document.Yields kinds made) (hwithin : kinds.Within larger) :
    document.Yields larger made := by
  have hdeclarations : document.declarationsIn larger = document.declarationsIn kinds :=
    List.flatMap_congr fun node hnode ↦
      Node.heldIn_eq_of_within hwithin (hyields.accepted node hnode)
  refine ⟨hyields.holds, fun node hnode root hroot element helement ↦ ?_, hyields.ids, ?_,
    hyields.distinct⟩
  · obtain ⟨kind, hkind⟩ := hyields.accepted node hnode root hroot element helement
    rw [Node.accepted_eq_ok_iff] at hkind
    exact ⟨kind, Node.accepted_eq_ok_iff.mpr ⟨hwithin _ _ hkind.1, hkind.2⟩⟩
  · rw [hdeclarations]
    refine forall₂_imp_of_mem (fun node hnode license hmakes ↦ ?_) hyields.makes
    rw [Node.draftIn_eq_of_within hwithin (hyields.accepted node hnode)]
    exact hmakes

/-- A document with renamed elements yields the same licenses. Assumes: both tags are bound to the
same kind. -/
theorem Yields.renamed (hyields : document.Yields kinds made)
    (hlicenses : List.Forall₂ (Node.HoldsRenamed old new) document.licenses another.licenses)
    (hnote : new ≠ noteTag) (hsame : kinds.lookup new = kinds.lookup old) :
    another.Yields kinds made := by
  have hdeclarations : document.declarationsIn kinds = another.declarationsIn kinds :=
    flatMap_eq_of_forall₂ (hlicenses.imp fun _ _ hholds ↦ hholds.heldIn_eq hnote hsame)
  refine ⟨fun other hother ↦ ?_, fun other hother root hroot ↦ ?_, ?_, ?_, hyields.distinct⟩
  · obtain ⟨node, hnode, hholds⟩ := exists_of_mem_of_forall₂ hlicenses.flip hother
    exact hholds.holdsLicense hnote (hyields.holds node hnode)
  · obtain ⟨node, hnode, hholds⟩ := exists_of_mem_of_forall₂ hlicenses.flip hother
    obtain ⟨origin, horigin, hrenamed⟩ :=
      exists_of_mem_of_forall₂ (hholds.roots hnote).flip hroot
    exact hrenamed.acceptedIn hsame (hyields.accepted node hnode origin horigin)
  · rw [← another.declarationsIn_map_fst kinds, ← hdeclarations, declarationsIn_map_fst]
    exact hyields.ids
  · rw [← hdeclarations]
    refine forall₂_of_common (fun node _ other license hholds hmakes ↦ ?_) hlicenses hyields.makes
    rw [hholds.draftIn_eq hnote hsame]
    exact hmakes

end Yields

end Document

/-- The declaration of a kind gives a new tag to the kind of an old one: the old one is the name of
a built-in kind or of one that is declared in the document, and the new one is neither that of a
note nor one that is bound already. -/
structure Node.DeclaresAlias (declaration : Node) (document : Document) (old new : String) :
    Prop where
  options : ∀ name ∈ declaration.names, name ∈ ["factory", "name"]
  factory : unlessBlank (declaration.get? "factory") = some old
  name : unlessBlank (declaration.get? "name") = some new
  named : (∃ kind ∈ Kind.builtIn, kind.tag = old) ∨
    ∃ node ∈ document.matchers, unlessBlank (node.get? "factory") = some old
  notNote : new ≠ noteTag
  notBuiltIn : ∀ kind ∈ Kind.builtIn, kind.tag ≠ new
  notBound : ∀ node ∈ document.matchers, unlessBlank (node.get? "factory") ≠ some new ∧
    unlessBlank (node.get? "name") ≠ some new

/-- A document is another one in which a kind is given a new tag, by a declaration that stands
anywhere among those of the kinds, and in which elements are renamed to it. -/
structure Document.Aliases (first second : Document) (declaration : Node) (old new : String) :
    Prop where
  declares : declaration.DeclaresAlias first old new
  matchers : ∃ before behind, first.matchers = before ++ behind ∧
    second.matchers = before ++ declaration :: behind
  licenses : List.Forall₂ (Node.HoldsRenamed old new) first.licenses second.licenses
  families : second.families = first.families

/-- A table that binds a tag admits its kind for a tag that is free. -/
theorem KindTable.admits_of_lookup {table : KindTable} {old new : String} {kind : Kind}
    (hold : table.lookup old = some kind) (hnew : table.lookup new = none) :
    table.Admits [(old, kind), (new, kind)] := by
  have hbound (tag : String) (htag : tag = old ∨ tag = new) (other : Kind)
      (hother : table.lookup tag = some other) : other = kind := by
    rcases htag with rfl | rfl
    · exact Option.some_inj.mp (hother.symm.trans hold)
    · cases hother.symm.trans hnew
  have hmem (tag : String) (other : Kind) (hmem : (tag, other) ∈ [(old, kind), (new, kind)]) :
      (tag = old ∨ tag = new) ∧ other = kind := by
    simp only [List.mem_cons, Prod.mk.injEq, List.not_mem_nil, or_false] at hmem
    exact or_and_right.mpr hmem
  rintro tag found hfound other (hother | hother)
  · rw [(hmem tag found hfound).2]
    exact hbound tag (hmem tag found hfound).1 other hother
  · rw [(hmem tag found hfound).2, (hmem tag other hother).2]

namespace Node.DeclaresAlias

variable {declaration : Node} {document : Document} {old new : String}

theorem ne (hdeclares : declaration.DeclaresAlias document old new) : new ≠ old := by
  rintro rfl
  rcases hdeclares.named with ⟨kind, hkind, htag⟩ | ⟨node, hnode, hfactory⟩
  · exact hdeclares.notBuiltIn kind hkind htag
  · exact (hdeclares.notBound node hnode).1 hfactory

/-- What is bound by the declaration are the old tag and the new one. -/
theorem binds (hdeclares : declaration.DeclaresAlias document old new)
    {kind? : String → Option Kind} {kind : Kind} (hkind : kind? old = some kind) :
    declaration.Binds kind? [(old, kind), (new, kind)] := by
  refine ⟨hdeclares.options, old, kind, hdeclares.factory, hkind, ?_⟩
  have hne : (new != old) = true := bne_iff_ne.mpr hdeclares.ne
  rw [boundTags, hdeclares.name, Option.filter_some, if_pos hne]
  rfl

/-- No other declaration binds the new tag. -/
theorem not_binds (hdeclares : declaration.DeclaresAlias document old new) {node : Node}
    (hnode : node ∈ document.matchers) {kind? : String → Option Kind}
    {bindings : List (String × Kind)} (hbinds : node.Binds kind? bindings) (kind : Kind) :
    (new, kind) ∉ bindings := by
  obtain ⟨hfactory, hname⟩ := hdeclares.notBound node hnode
  obtain ⟨_, name, _, hwritten, _, rfl⟩ := hbinds
  intro hmem
  obtain ⟨tag, htag, heq⟩ := List.mem_map.mp hmem
  cases heq
  rcases List.mem_cons.mp htag with rfl | hgiven
  · exact hfactory hwritten
  · exact hname (Option.filter_eq_some_iff.mp (Option.mem_toList.mp hgiven)).1

end Node.DeclaresAlias

namespace Reader

section Alias

variable {catalogue : Catalogue} {first second document : Document} {declaration : Node}
  {old new : String} {bound : Reader} {made : List License} {approved : List String}

/-- The kinds of a document that has been read are bound: no other kind goes by the old tag than the
one that it is bound to, and the new tag is free. -/
theorem lookup_of_declaresAlias (hdeclares : declaration.DeclaresAlias first old new)
    (hbound : Returns readKinds (holding catalogue .builtIn first) () bound) :
    (∃ kind, bound.kinds.lookup old = some kind ∧ catalogue.kind? old = some kind) ∧
      bound.kinds.lookup new = none := by
  obtain ⟨later, hread, rfl⟩ := returns_readKinds_holding_iff.mp hbound
  obtain ⟨parts, hparts, hjoined⟩ := bound_of_returns_readEachKind hread
  constructor
  · rcases hdeclares.named with ⟨kind, hkind, rfl⟩ | ⟨node, hnode, hfactory⟩
    · refine ⟨kind, (hjoined.joins kind.tag kind).mpr (.inl ?_), Catalogue.kind?_of_known? ?_⟩
      · exact (KindTable.lookup_builtIn kind.tag).trans (Kind.builtIn?_tag kind hkind)
      · rw [Catalogue.known?, Kind.builtIn?_tag kind hkind, Option.some_or]
    · obtain ⟨part, hpart, hbinds⟩ := exists_of_mem_of_forall₂ hparts hnode
      obtain ⟨_, name, kind, hname, hkind, rfl⟩ := hbinds
      cases hname.symm.trans hfactory
      refine ⟨kind, (hjoined.joins old kind).mpr (.inr ?_), hkind⟩
      exact List.mem_flatten.mpr ⟨_, hpart, List.mem_map_of_mem List.mem_cons_self⟩
  · refine Option.eq_none_iff_forall_ne_some.mpr fun kind hlookup ↦ ?_
    rcases (hjoined.joins new kind).mp hlookup with hstart | hmem
    · obtain ⟨other, hother, heq⟩ := List.mem_map.mp (mem_of_lookup hstart)
      exact hdeclares.notBuiltIn other hother (congrArg Prod.fst heq)
    · obtain ⟨part, hpart, hmem⟩ := List.mem_flatten.mp hmem
      obtain ⟨node, hnode, hbinds⟩ := exists_of_mem_of_forall₂ hparts.flip hpart
      exact hdeclares.not_binds hnode hbinds kind hmem

/-- A new tag may be declared anywhere among the kinds: it is bound to the kind of the old one, and
the other tags stay bound as they are. -/
theorem exists_returns_readKinds_alias (haliases : first.Aliases second declaration old new)
    (hbound : Returns readKinds (holding catalogue .builtIn first) () bound) :
    ∃ rebound, Returns readKinds (holding catalogue .builtIn second) () rebound ∧
      bound.kinds.Within rebound.kinds ∧ rebound.kinds.lookup new = rebound.kinds.lookup old := by
  have hdeclares := haliases.declares
  obtain ⟨before, behind, hfirst, hsecond⟩ := haliases.matchers
  obtain ⟨⟨kind, hold, hkind⟩, hnew⟩ := lookup_of_declaresAlias hdeclares hbound
  obtain ⟨later, hread, rfl⟩ := returns_readKinds_holding_iff.mp hbound
  obtain ⟨parts, hparts, hjoined⟩ := bound_of_returns_readEachKind hread
  have hperm : (declaration :: first.matchers).Perm second.matchers := by
    rw [hfirst, hsecond]
    exact List.perm_middle.symm
  obtain ⟨reparts, hreparts, hpermParts⟩ :=
    exists_forall₂_of_perm (.cons (hdeclares.binds hkind) hparts) hperm
  have hadmitsOwn : later.kinds.Admits [(old, kind), (new, kind)] :=
    KindTable.admits_of_lookup hold hnew
  have hadmits : KindTable.builtIn.Admits reparts.flatten := by
    have hboth := (KindTable.admits_append_iff hjoined.joins).mpr ⟨hjoined.admits, hadmitsOwn⟩
    refine (hboth.perm List.perm_append_comm).perm ?_
    exact hpermParts.flatten
  obtain ⟨rebound, hrebound, hrejoined⟩ :=
    @exists_returns_readKinds second (holding catalogue .builtIn second) rfl reparts hreparts
      hadmits
  have hmatchers : first.matchers ⊆ second.matchers := by
    rw [hfirst, hsecond]
    exact ((List.Sublist.refl before).append (List.sublist_cons_self declaration behind)).subset
  have hwithin := within_of_returns_readKinds hmatchers hbound hrebound
  refine ⟨rebound, hrebound, hwithin, ?_⟩
  rw [hwithin old kind hold]
  refine (hrejoined new kind).mpr (.inr (hpermParts.flatten.mem_iff.mp ?_))
  simp

variable [Installation]

/-- What a document yields is returned. -/
theorem exists_returns_readLicenses_of_yields {kinds : KindTable}
    (hbound : Returns readKinds (holding catalogue kinds document) () bound)
    (hyields : document.Yields bound.kinds made)
    (hfamilies : readFamilies document.families (made.map License.id) = .ok approved) :
    ∃ reader', Returns readLicenses (holding catalogue kinds document) (License.sort made) reader' ∧
      reader'.approved = some approved := by
  have hunread := (unread_holding catalogue kinds document).of_unmoved
    ((keeps_unmoved_readKinds _).of_returns (Unmoved.refl _) hbound)
  have hfresh : bound.Fresh (document.declarationsIn bound.kinds) := by
    refine fresh_of_new hunread.identifiers ?_
    rw [document.declarationsIn_map_fst]
    exact hyields.ids
  have hread := returns_draftsIn_iff.mpr ⟨hyields.holds, hyields.accepted, hfresh, rfl, rfl⟩
  have hstart :=
    identifiers_declaring_of_new hunread.identifiers (document.declarationsIn bound.kinds)
  have hmakes := hyields.makes
  obtain ⟨built, hbuild⟩ := (exists_returns_buildLicenses_nil_iff
    (Node.roots_draftsIn bound.kinds hyields.holds)
    (sound_declaring_of_new hunread.identifiers _)).mpr
      ⟨by
        rw [List.map_map, List.forall₂_map_left_iff, hstart]
        exact hmakes, hyields.distinct⟩
  refine ⟨built.finished document (License.sort made) approved, ?_, rfl⟩
  exact returns_readLicenses_holding_iff.mpr ⟨bound, hbound, hunread.identifiers, _, _, hread, made,
    built, hbuild, approved, hfamilies, rfl, rfl⟩

/-- A further tag for a kind is as good as the old one. When a kind is given a new tag in a document
that is accepted, and elements are renamed to it, here and there and at any depth, the document is
accepted as before: the same licenses are returned, with the same matchers, and the same categories
are approved. Assumes: the new tag is not that of a note, and neither a built-in kind nor a
declaration of the document has it. -/
theorem loadDocuments_alias (catalogue : Catalogue)
    (haliases : first.Aliases second declaration old new) {licenses : List License}
    (hloaded : (loadDocuments catalogue .builtIn [first]).1 = .ok licenses) :
    (loadDocuments catalogue .builtIn [second]).1 = .ok licenses ∧
      ∃ approved,
        Returns approvedCategories (loadDocuments catalogue .builtIn [first]).2 approved
          (loadDocuments catalogue .builtIn [first]).2 ∧
        Returns approvedCategories (loadDocuments catalogue .builtIn [second]).2 approved
          (loadDocuments catalogue .builtIn [second]).2 := by
  obtain ⟨bound, made, approved, hbound, hkinds, rfl, hread⟩ := hasRead_of_loadDocuments hloaded
  obtain ⟨rebound, hrebound, hwithin, hsame⟩ := exists_returns_readKinds_alias haliases hbound
  have hyields : second.Yields rebound.kinds made := by
    have hfirst : first.Yields bound.kinds made := hkinds ▸ hread.yields
    exact (hfirst.of_within hwithin).renamed haliases.licenses haliases.declares.notNote hsame
  have hfamilies : readFamilies second.families (made.map License.id) = .ok approved := by
    rw [haliases.families]
    exact hread.families
  obtain ⟨reader', hreturns, happroved⟩ :=
    exists_returns_readLicenses_of_yields hrebound hyields hfamilies
  have hsecond :
      loadDocuments catalogue .builtIn [second] = (.ok (License.sort made), reader') := by
    rw [loadDocuments_eq]
    exact hreturns
  rw [hsecond]
  exact ⟨rfl, approved, run_approvedCategories_of_some hread.approved,
    run_approvedCategories_of_some happroved⟩

end Alias

/-- Two texts in a conjunction, of which the second is written with the given tag. -/
def twoTexts (tag : String) : Node :=
  { tag := "and"
    children :=
      [{ tag := "text", attributes := [("id", "foo")], text := "foo" },
        { tag, attributes := [("id", "bar")], text := "bar" }] }

/-- The document of a license with a note, in which the second of two texts is written with the
given tag. -/
def notedDocument (matchers : List Node) (tag : String) : Document :=
  { licenses :=
      [{ tag := "license", attributes := [("id", "A"), ("name", "Alpha")],
         children := [{ tag := "note", text := "as is" }, twoTexts tag] }]
    matchers }

/-- The declaration of a further tag for texts. -/
def wordDeclaration : Node :=
  { tag := "matcher", attributes := [("factory", "text"), ("name", "word")] }

theorem aliases_notedDocument :
    (notedDocument [] "text").Aliases (notedDocument [wordDeclaration] "word") wordDeclaration
      "text" "word" where
  declares :=
    ⟨by decide, by cbv, by cbv, .inl ⟨.text, by decide, rfl⟩, by decide, by decide, nofun⟩
  matchers := ⟨[], [], rfl, rfl⟩
  licenses := by
    have hroot : (twoTexts "text").Renamed "text" "word" (twoTexts "word") :=
      .intro (.inl rfl) rfl rfl rfl
        (.cons (.intro (.inl rfl) rfl rfl rfl .nil)
          (.cons (.intro (.inr ⟨rfl, rfl⟩) rfl rfl rfl .nil) .nil))
    have hchild : (twoTexts "text").RenamedUnlessNote "text" "word" (twoTexts "word") :=
      (Node.renamedUnlessNote_iff_renamed (by decide)).mpr hroot
    have hnote (note : Node) (htag : note.tag = noteTag) :
        note.RenamedUnlessNote "text" "word" note :=
      (Node.renamedUnlessNote_iff_eq htag).mpr rfl
    exact .cons ⟨rfl, rfl, rfl, rfl, .cons (hnote _ rfl) (.cons hchild .nil)⟩ .nil
  families := rfl

section Sample

open Sample

/-- The second text is written with the further tag, and the license is the same. -/
theorem loadDocuments_alias_noted :
    let word (text : String) : Matcher :=
      .registered text (.leaf (some text) (.literal text) .unknown)
    let licenses : List License :=
      [⟨⟨"A", "Alpha"⟩, .all none [word "foo", word "bar"], some "as is", none⟩]
    let plain := notedDocument [] "text"
    let renamed := notedDocument [wordDeclaration] "word"
    plain.Aliases renamed wordDeclaration "text" "word" ∧
      (loadDocuments {} .builtIn [plain]).1 = .ok licenses ∧
      (loadDocuments {} .builtIn [renamed]).1 = .ok licenses ∧
      ∃ approved,
        Returns approvedCategories (loadDocuments {} .builtIn [plain]).2 approved
          (loadDocuments {} .builtIn [plain]).2 ∧
        Returns approvedCategories (loadDocuments {} .builtIn [renamed]).2 approved
          (loadDocuments {} .builtIn [renamed]).2 := by
  intro word licenses plain renamed
  have hloaded : (loadDocuments {} .builtIn [notedDocument [] "text"]).1 = .ok licenses := by cbv
  obtain ⟨hagain, happroved⟩ := loadDocuments_alias {} aliases_notedDocument hloaded
  exact ⟨aliases_notedDocument, hloaded, hagain, happroved⟩

end Sample

end Reader

end LicenseHeaders
