import LicenseHeaders.Proofs.Builder.Names
import LicenseHeaders.Proofs.Reader.Elements
import LicenseHeaders.Proofs.Reader.Order

/-!
# Which license an identified matcher belongs to

An identified matcher stands where it is declared, and everything else that names it has a copy. So
the registered matchers in the tree of a license are those of the identifiers that are declared in
the license (`Reader.names_of_builderIn`), no two licenses share one, and the table of
built matchers holds the very matchers that the licenses do. `Node.Owns` says the former of the
declaration of a license, `Reader.Holds` says the others of a reader and its licenses, and
`Reader.holds_of_returns_buildLicenses` is the main result: this is how licenses are built.
-/

set_option autoImplicit false
set_option relaxedAutoImplicit false

namespace LicenseHeaders

namespace Node

/-- A license belongs to a declaration: it has its category, and the registered matchers in its tree
are those of the identifiers that are declared there. -/
structure Owns (node : Node) (license : License) : Prop where
  category : node.category? = some license.id
  names : license.matcher.names.Perm node.heldIds

end Node

namespace Reader

section Names

variable {kinds : KindTable} {builders : List (String × Builder)} [Installation]

/-- What the builder of an element builds holds the registered matchers of what stands in the
element. -/
private theorem names_of_plainIn {node : Node} {kind : Kind} {matcher : Matcher}
    (haccepted : node.accepted kinds = .ok kind)
    (hchildren : ∀ child ∈ node.children, ∀ {matcher},
      Builder.Builds builders (child.builderIn kinds) matcher →
        matcher.names.Perm child.declaredIds)
    (hbuilds : Builder.Builds builders (node.plainIn kinds) matcher) :
    matcher.names.Perm (node.children.flatMap Node.declaredIds) := by
  have hleaf := (Node.accepted_eq_ok_iff.mp haccepted).2.2
  rw [Node.plainIn, Node.kindIn_eq_of_accepted haccepted, Node.ofKind] at hbuilds
  generalize node.children = children at hchildren hleaf hbuilds ⊢
  have hnone (hnamed : matcher.named = []) (hmembers : kind.hasMembers = false) :
      matcher.names.Perm (children.flatMap Node.declaredIds) := by
    rw [Matcher.names, hnamed, hleaf hmembers]
    exact .nil
  generalize hbuilders : children.map (Node.builderIn kinds) = members at hbuilds
  cases hbuilds with
  | leaf hmembers _ hmade => exact hnone (Builder.named_leaf hmade) hmembers
  | @combination _ _ _ _ _ _ matchers _ _ _ hbuilt hcombine =>
    have hnames : matcher.names = matchers.flatMap Matcher.names := by
      rw [Matcher.names, Builder.named_combine hcombine, List.map_flatMap]
      rfl
    rw [← hbuilders, List.forall₂_map_left_iff] at hbuilt
    rw [hnames]
    have hperm := (List.forall₂_and_left children matchers).mpr ⟨hchildren, hbuilt⟩
    exact (flatMap_perm_of_forall₂ (hperm.imp fun child built h ↦ (h.1 h.2).symm)).symm
  | reference => exact hnone (Matcher.named_ofReference _ _ _) rfl

/-- What the builder of an element builds holds the registered matchers of the identifiers that are
declared in the element, and no others. Assumes: an element with everything in it accepted, and a
table of declarations with those of the element. -/
theorem names_of_builderIn (node : Node) :
    node.Accepted kinds →
      (∀ entry ∈ node.declarationsIn kinds, builders.lookup entry.1 = some entry.2) →
      ∀ {matcher}, Builder.Builds builders (node.builderIn kinds) matcher →
        matcher.names.Perm node.declaredIds := by
  induction node using Node.induction_children with
  | step node ih =>
    intro haccepted htable matcher hbuilds
    obtain ⟨hchildren, kind, hkind⟩ := (node.accepted_iff kinds).mp haccepted
    rw [Node.declarationsIn_eq, List.forall_mem_append, List.forall_mem_flatMap] at htable
    have hplain {built : Matcher} (hbuilt : Builder.Builds builders (node.plainIn kinds) built) :
        built.names.Perm (node.children.flatMap Node.declaredIds) :=
      names_of_plainIn hkind (fun child hchild ↦
        ih child hchild (hchildren child hchild) (htable.1 child hchild)) hbuilt
    have hid : (node.plainIn kinds).id? = node.declaredId? := rfl
    rw [Node.builderIn_eq, Builder.standIn, hid] at hbuilds
    rw [Node.declaredIds_eq]
    -- An identified element is built where its declaration is, and registered where it stands.
    cases hown : node.declaredId? with
    | none =>
      rw [hown] at hbuilds
      rw [Option.toList_none, List.append_nil]
      exact hplain hbuilds
    | some id =>
      rw [hown] at hbuilds
      rw [Node.declarationIn?, hown] at htable
      cases hbuilds with
      | @declared _ _ declaration built hlookup hbuilt =>
        have hdeclared : builders.lookup id = some (node.plainIn kinds) :=
          htable.2 (id, node.plainIn kinds) (List.mem_singleton_self _)
        cases hlookup.symm.trans hdeclared
        rw [Matcher.names_registered, Option.toList_some]
        exact ((hplain hbuilt).cons id).trans (List.perm_append_singleton id _).symm

end Names

/-! ### Licenses -/

section Licenses

variable {reader reader' : Reader} {nodes : List Node} {drafts : List (Node × LicenseDraft)}

/-- All identifiers that a reader has declared are among the given ones. -/
def DeclaresAmong (allowed : List String) (reader : Reader) : Prop :=
  ∀ id ∈ reader.declaredIds, id ∈ allowed

theorem declaresAmong_declaring_iff {allowed : List String} {added : List (String × Builder)} :
    DeclaresAmong allowed (reader.declaring added) ↔
      DeclaresAmong allowed reader ∧ ∀ id ∈ added.map (·.1), id ∈ allowed := by
  rw [DeclaresAmong, declaredIds_declaring, List.forall_mem_append]
  rfl

/-- Whether an element is read or not, no identifiers are declared but those that are written in
it. -/
theorem keeps_declaresAmong_readMatcher {allowed : List String} (node : Node) :
    (∀ id ∈ node.declaredIds, id ∈ allowed) → Keeps (DeclaresAmong allowed) (readMatcher node) := by
  induction node using Node.induction_children with
  | step node ih =>
    intro hallowed
    rw [Node.declaredIds_eq, List.forall_mem_append] at hallowed
    have hmembers : Keeps (DeclaresAmong allowed) (readMatchers node.children) := by
      have hchildren : ∀ child ∈ node.children, Keeps (DeclaresAmong allowed) (readMatcher child) :=
        fun child hchild ↦ ih child hchild fun id hid ↦
          hallowed.1 id (List.mem_flatMap.mpr ⟨child, hchild, hid⟩)
      generalize node.children = children at hchildren
      induction children with
      | nil => exact keeps_pure []
      | cons child rest ih =>
        rw [List.forall_mem_cons] at hchildren
        rw [readMatchers]
        exact keeps_bind hchildren.1 fun _ ↦ keeps_bind (ih hchildren.2) fun _ ↦ keeps_pure _
    rw [readMatcher_eq]
    intro reader hreader
    rw [run_get_bind]
    refine keeps_bind (keeps_lift _) (fun kind ↦ keeps_bind hmembers fun members ↦ ?_) reader
      hreader
    refine keeps_of_outcomes ?_ ?_
    · intro before value after hbefore hreturns
      obtain ⟨_, _, rfl⟩ := returns_declare_iff.mp hreturns
      refine declaresAmong_declaring_iff.mpr ⟨hbefore, fun id hid ↦ hallowed.2 id ?_⟩
      rw [Node.ofKind, Builder.id?] at hid
      cases hown : node.declaredId? with
      | none =>
        rw [hown] at hid
        exact absurd hid List.not_mem_nil
      | some own =>
        rw [hown] at hid
        exact hid
    · intro before cause after hbefore hraises
      obtain ⟨_, _, _, _, rfl⟩ := raises_declare_iff.mp hraises
      exact hbefore

/-- Whether licenses are read or not, no identifiers are declared but those that are written in
them. -/
theorem keeps_declaresAmong_readEachLicense {allowed : List String}
    (hallowed : ∀ id ∈ nodes.flatMap Node.heldIds, id ∈ allowed) :
    Keeps (DeclaresAmong allowed) (readEachLicense nodes) := by
  have hlicense (node : Node) (hids : ∀ id ∈ node.heldIds, id ∈ allowed) :
      Keeps (DeclaresAmong allowed) (readLicense node) := by
    by_cases hlength : node.roots.length = 1
    · obtain ⟨root, hroots⟩ := List.length_eq_one_iff.mp hlength
      rw [Node.heldIds, hroots, List.flatMap_singleton] at hids
      rw [readLicense_eq hroots]
      exact keeps_bind (keeps_lift _) fun _ ↦
        keeps_bind (keeps_declaresAmong_readMatcher root hids) fun _ ↦ keeps_pure _
    · rw [readLicense_eq_throw hlength]
      exact keeps_bind (keeps_lift _) fun _ ↦ keeps_throw _
  induction nodes with
  | nil => exact keeps_pure []
  | cons node rest ih =>
    rw [List.flatMap_cons, List.forall_mem_append] at hallowed
    rw [readEachLicense]
    exact keeps_bind (hlicense node hallowed.1) fun _ ↦
      keeps_bind (ih hallowed.2) fun _ ↦ keeps_pure _

variable [Installation]

/-- What the draft of a license makes belongs to its declaration. Assumes: a license with everything
in it accepted, and a table of declarations with those of the license. -/
theorem owns_of_makes {kinds : KindTable} {builders : List (String × Builder)} {node : Node}
    {license : License} (hlicense : node.HoldsLicense)
    (haccepted : ∀ root ∈ node.roots, root.Accepted kinds)
    (htable : ∀ entry ∈ node.heldIn kinds, builders.lookup entry.1 = some entry.2)
    (hmakes : (node.draftIn kinds).Makes builders license) : node.Owns license := by
  obtain ⟨root, hroots⟩ := hlicense.root
  obtain ⟨builder, hbuilder, hbuilds⟩ := hmakes.matcher
  rw [Node.heldIn, hroots, List.flatMap_singleton] at htable
  rw [hroots, List.forall_mem_singleton] at haccepted
  cases (Node.root_draftIn hroots).symm.trans hbuilder
  refine ⟨hmakes.category, ?_⟩
  rw [Node.heldIds, hroots, List.flatMap_singleton]
  exact names_of_builderIn root haccepted htable hbuilds

/-- A reader holds licenses: no registered matcher occurs in them twice, and each of those that do
occur is the one that the reader has for its identifier. -/
structure Holds (reader : Reader) (licenses : List License) : Prop where
  apart : Matcher.Apart (licenses.map License.matcher)
  registered : ∀ license ∈ licenses, ∀ entry ∈ license.matcher.named,
    reader.identifiers.built.lookup entry.1 = some entry.2

/-- A reader has declared nothing before if it can take up what is written in its licenses, although
all that it has declared is written there. -/
private theorem identifiers_of_fresh (hsound : reader.Sound)
    (hamong : DeclaresAmong (nodes.flatMap Node.heldIds) reader)
    (hfresh : reader.Fresh (nodes.flatMap (Node.heldIn reader.kinds))) :
    reader.identifiers = {} := by
  have hnone : reader.identifiers.builders = [] := by
    rw [List.eq_nil_iff_forall_not_mem]
    intro entry hentry
    have hid : entry.1 ∈ reader.declaredIds := List.mem_map_of_mem hentry
    refine hfresh.free entry.1 ?_ hid
    rw [Node.heldInEach_map_fst]
    exact hamong entry.1 hid
  have hbuilt : reader.identifiers.built = [] := by
    rw [List.eq_nil_iff_forall_not_mem]
    intro entry hentry
    obtain ⟨matcher, hmatcher⟩ := exists_lookup_iff.mpr (List.mem_map_of_mem hentry)
    obtain ⟨_, hdeclaration, _⟩ := hsound entry.1 matcher hmatcher
    rw [hnone] at hdeclaration
    cases hdeclaration
  calc
    reader.identifiers = ⟨reader.identifiers.builders, reader.identifiers.built⟩ := rfl
    _ = {} := by rw [hnone, hbuilt]

/-- Licenses that are made of drafts belong to their declarations. -/
private theorem owns_of_makes_each {kinds : KindTable}
    (hlicenses : ∀ node ∈ nodes, node.HoldsLicense)
    (haccepted : ∀ node ∈ nodes, ∀ root ∈ node.roots, root.Accepted kinds)
    (hnodup : ((nodes.flatMap (Node.heldIn kinds)).map (·.1)).Nodup) {made : List License}
    (hmakes : List.Forall₂ (fun node license ↦
      (node.draftIn kinds).Makes (nodes.flatMap (Node.heldIn kinds)) license) nodes made) :
    List.Forall₂ Node.Owns nodes made := by
  refine forall₂_imp_of_mem (fun node hnode license hmake ↦ ?_) hmakes
  refine owns_of_makes (hlicenses node hnode) (haccepted node hnode) (fun entry hentry ↦ ?_) hmake
  exact lookup_of_mem hnodup (List.mem_flatMap.mpr ⟨node, hnode, hentry⟩)

/-- What stands under a name in a license is what has been built for the name. Assumes: what has
been built is what the declarations build, and there is all that the draft of the license needs. -/
private theorem lookup_of_mem_named {builders : List (String × Builder)}
    {table : List (String × Matcher)} {draft : LicenseDraft} {license : License}
    (htable : Builder.Sound builders table)
    (hneeded : ∀ id, Builder.NeedsAmong builders draft.mentions id → id ∈ table.map (·.1))
    (hmakes : draft.Makes builders license) {entry : String × Matcher}
    (hentry : entry ∈ license.matcher.named) : table.lookup entry.1 = some entry.2 := by
  obtain ⟨builder, hroot, hbuilds⟩ := hmakes.matcher
  obtain ⟨⟨mentioned, hmentioned, hneeds⟩, declaration, hdeclaration, hentryBuilds⟩ :=
    hbuilds.of_mem_named entry hentry
  have hmentions : mentioned ∈ draft.mentions := by
    rw [LicenseDraft.mentions, hroot]
    exact hmentioned
  obtain ⟨matcher, hmatcher⟩ :=
    exists_lookup_iff.mpr (hneeded entry.1 ⟨mentioned, hmentions, hneeds⟩)
  obtain ⟨found, hfound, hmatcherBuilds⟩ := htable entry.1 matcher hmatcher
  cases hdeclaration.symm.trans hfound
  rw [hentryBuilds.unique hmatcherBuilds]
  exact hmatcher

/-- The licenses that a reader builds are held by it, and they belong to their declarations.
Assumes: a reader that has declared nothing but identifiers that are written in its licenses. -/
theorem holds_of_returns_buildLicenses {read built : Reader} {made : List License}
    (hsound : reader.Sound) (hamong : DeclaresAmong (nodes.flatMap Node.heldIds) reader)
    (hread : Returns (readEachLicense nodes) reader drafts read)
    (hbuild : Returns (buildLicenses [] drafts) read made built) :
    built.Holds made ∧ List.Forall₂ Node.Owns nodes made := by
  have hroots := roots_of_returns_readEachLicense hread
  obtain ⟨hlicenses, haccepted, hfresh, rfl, rfl⟩ := returns_draftsIn_iff.mp hread
  have hnone := identifiers_of_fresh hsound hamong hfresh
  have hstart := identifiers_declaring_of_new hnone (nodes.flatMap (Node.heldIn reader.kinds))
  have hbuiltNone :
      (reader.declaring (nodes.flatMap (Node.heldIn reader.kinds))).identifiers.built = [] := by
    rw [hstart]
  obtain ⟨hmakes, _⟩ := (exists_returns_buildLicenses_nil_iff hroots
    (sound_of_built_nil hbuiltNone)).mp ⟨built, hbuild⟩
  obtain ⟨table, rfl, htable, hneeded⟩ :=
    needsAmong_of_returns_buildLicenses hroots hbuiltNone hbuild
  rw [hstart] at hmakes htable hneeded
  have howns : List.Forall₂ Node.Owns nodes made := by
    rw [List.map_map, List.forall₂_map_left_iff] at hmakes
    exact owns_of_makes_each hlicenses haccepted hfresh.nodup hmakes
  refine ⟨⟨?_, ?_⟩, howns⟩
  · -- The names in all trees are the identifiers in all declarations, each of which is fresh.
    have hnames := flatMap_perm_of_forall₂ (howns.imp fun node license hown ↦ hown.names.symm)
    rw [Matcher.Apart, Matcher.namesEach, List.flatMap_map, ← hnames.nodup_iff,
      ← Node.heldInEach_map_fst reader.kinds]
    exact hfresh.nodup
  · intro license hlicense entry hentry
    obtain ⟨draft, hdraft, hmake⟩ := exists_of_mem_of_forall₂ hmakes.flip hlicense
    refine lookup_of_mem_named htable (fun id hneeds ↦ (hneeded id).mpr ?_) hmake hentry
    obtain ⟨mentioned, hmentioned, hneeds⟩ := hneeds
    exact ⟨mentioned, List.mem_flatMap.mpr ⟨draft, hdraft, hmentioned⟩, hneeds⟩

end Licenses

end Reader

end LicenseHeaders
