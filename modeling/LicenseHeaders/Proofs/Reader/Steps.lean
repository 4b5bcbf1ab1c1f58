import LicenseHeaders.Proofs.Reader.Extension
import LicenseHeaders.Proofs.Reader.Registration

/-!
# Passes over kinds that fail midway

A reader has a cursor into the declarations of kinds, which moves at the end of a pass that returns.
A pass that raises leaves what it has bound so far, and the next one starts with the same
declaration. This module says what is true of a reader at any time, whatever has failed
(`Reader.InSteps`): its table is that of the start with bindings of declarations, and the
declarations up to the cursor have been read.

The declarations behind the cursor may be bound in part. What is bound of them is what they bind
once more in the next pass: a kind that was looked up is known from then on, and what is known does
not change (`Catalogue.Grows`). So the next pass meets no conflict that a first one would not meet
(`Reader.InSteps.admits`), and when all declarations have been read, the table has joined what they
bind (`Reader.InSteps.exists_parts`).

`Reader.TakesUp` is what a pass does, whether it returns or raises (`Reader.takesUp_readEachKind`).
-/

set_option autoImplicit false
set_option relaxedAutoImplicit false

namespace LicenseHeaders

/-! ### Catalogues that grow -/

namespace Catalogue

/-- What is known and what is taken in a catalogue stays so. -/
structure Grows (before after : Catalogue) : Prop where
  known : ∀ name kind, before.known? name = some kind → after.known? name = some kind
  taken : ∀ name kind, before.taken? name = some kind → after.taken? name = some kind

variable {catalogue middle after : Catalogue} {name : String} {kind : Kind}

theorem Grows.refl (catalogue : Catalogue) : catalogue.Grows catalogue :=
  ⟨fun _ _ ↦ id, fun _ _ ↦ id⟩

theorem Grows.trans (hfirst : catalogue.Grows middle) (hsecond : middle.Grows after) :
    catalogue.Grows after :=
  ⟨fun name kind hknown ↦ hsecond.known name kind (hfirst.known name kind hknown),
    fun name kind htaken ↦ hsecond.taken name kind (hfirst.taken name kind htaken)⟩

theorem kind?_of_known? (hknown : catalogue.known? name = some kind) :
    catalogue.kind? name = some kind := by
  rw [kind?_eq, ← known?, hknown, Option.some_or]

/-- A name is free if it is taken neither by a built-in kind nor by one that is plugged in. -/
theorem taken?_eq_none_iff :
    catalogue.taken? name = none ↔
      catalogue.plugins.lookup name = none ∧ Kind.builtIn? name = none :=
  Option.or_eq_none_iff

theorem known?_eq_none_iff : catalogue.known? name = none ↔ catalogue.taken? name = none := by
  rw [known?, Option.or_eq_none_iff, taken?_eq_none_iff, and_comm]

section Noting

variable (hfree : catalogue.taken? name = none)

include hfree

/-- Under a free name a kind is known once it is noted. -/
theorem known?_noting (kind : Kind) (other : String) :
    ({ catalogue with plugins := (name, kind) :: catalogue.plugins } : Catalogue).known? other =
      if other = name then some kind else catalogue.known? other := by
  rw [known?, known?, List.lookup_cons]
  by_cases hother : other = name
  · rw [beq_iff_eq.mpr hother, if_pos hother, hother, (taken?_eq_none_iff.mp hfree).2,
      Option.none_or]
  · rw [beq_false_of_ne hother, if_neg hother]

theorem kind?_noting (kind : Kind) (other : String) :
    ({ catalogue with plugins := (name, kind) :: catalogue.plugins } : Catalogue).kind? other =
      if other = name then some kind else catalogue.kind? other := by
  rw [kind?_eq, ← known?, known?_noting hfree, kind?_eq, ← known?]
  by_cases hother : other = name
  · rw [if_pos hother, if_pos hother, Option.some_or]
  · rw [if_neg hother, if_neg hother]

theorem grows_noting (kind : Kind) :
    catalogue.Grows { catalogue with plugins := (name, kind) :: catalogue.plugins } := by
  refine ⟨fun other known hknown ↦ ?_, fun other _ ↦ (Takes.newly hfree).taken?_of_taken?⟩
  have hother : other ≠ name := by
    rintro rfl
    cases hknown.symm.trans (known?_eq_none_iff.mpr hfree)
  rw [known?_noting hfree, if_neg hother]
  exact hknown

end Noting

theorem Takes.grows (htakes : catalogue.Takes name kind after) : catalogue.Grows after := by
  cases htakes with
  | already _ => exact .refl catalogue
  | newly hfree => exact grows_noting hfree kind

/-- What is looked up is known from then on. -/
theorem grows_of_lookup (hlookup : (catalogue.lookup name).1 = .ok (kind, after)) :
    catalogue.Grows after ∧ after.known? name = some kind := by
  rcases lookup_cases hlookup with ⟨hknown, rfl⟩ | ⟨hunknown, rfl⟩
  · exact ⟨.refl after, hknown⟩
  · have hfree := known?_eq_none_iff.mp hunknown
    exact ⟨grows_noting hfree kind, by rw [known?_noting hfree, if_pos rfl]⟩

end Catalogue

theorem Node.Binds.mono {kind? other? : String → Option Kind} {node : Node}
    {bindings : List (String × Kind)} (hbinds : node.Binds kind? bindings)
    (hmore : ∀ name kind, kind? name = some kind → other? name = some kind) :
    node.Binds other? bindings := by
  obtain ⟨hoptions, name, kind, hname, hkind, rfl⟩ := hbinds
  exact ⟨hoptions, name, kind, hname, hmore name kind hkind, rfl⟩

/-- One of several declarations binds a tag to a kind that is known. -/
def Catalogue.Declares (catalogue : Catalogue) (nodes : List Node) (tag : String) (kind : Kind) :
    Prop :=
  ∃ node ∈ nodes, ∃ bindings, node.Binds catalogue.known? bindings ∧ (tag, kind) ∈ bindings

theorem Catalogue.Declares.mono {catalogue after : Catalogue} {nodes more : List Node}
    {tag : String} {kind : Kind} (hdeclares : catalogue.Declares nodes tag kind)
    (hgrows : catalogue.Grows after) (hmore : nodes ⊆ more) : after.Declares more tag kind := by
  obtain ⟨node, hnode, bindings, hbinds, hmem⟩ := hdeclares
  exact ⟨node, hmore hnode, bindings, hbinds.mono hgrows.known, hmem⟩

namespace Reader

/-! ### What a pass does, also if it fails -/

/-- A reader has come from another one by reading some of several declarations, or parts of them. -/
structure TakesUp (nodes : List Node) (before after : Reader) : Prop
    extends Later before after where
  grows : before.catalogue.Grows after.catalogue
  only : ∀ tag kind, after.kinds.lookup tag = some kind →
    before.kinds.lookup tag = some kind ∨ after.catalogue.Declares nodes tag kind

/-- A declaration has been read: the kind in it is known, and what it binds is bound. -/
def Done (reader : Reader) (node : Node) : Prop :=
  ∃ bindings, node.Binds reader.catalogue.known? bindings ∧
    ∀ tag kind, (tag, kind) ∈ bindings → reader.kinds.lookup tag = some kind

section Pass

variable {nodes : List Node} {node : Node} {reader middle reader' : Reader}

theorem TakesUp.refl (nodes : List Node) (reader : Reader) : reader.TakesUp nodes reader :=
  ⟨Later.refl reader, .refl _, fun _ _ ↦ .inl⟩

theorem TakesUp.trans (hfirst : TakesUp nodes reader middle)
    (hsecond : TakesUp nodes middle reader') : TakesUp nodes reader reader' := by
  refine ⟨hfirst.toLater.trans hsecond.toLater, hfirst.grows.trans hsecond.grows,
    fun tag kind hbound ↦ ?_⟩
  rcases hsecond.only tag kind hbound with hmiddle | hdeclares
  · refine (hfirst.only tag kind hmiddle).imp_right fun hdeclares ↦ ?_
    exact hdeclares.mono hsecond.grows (List.Subset.refl nodes)
  · exact .inr hdeclares

/-- What has been read stays read. -/
theorem Done.mono (hdone : reader.Done node) (hgrows : reader.catalogue.Grows reader'.catalogue)
    (hkinds : ∀ tag kind, reader.kinds.lookup tag = some kind →
      reader'.kinds.lookup tag = some kind) : reader'.Done node := by
  obtain ⟨bindings, hbinds, hbound⟩ := hdone
  exact ⟨bindings, hbinds.mono hgrows.known,
    fun tag kind hmem ↦ hkinds tag kind (hbound tag kind hmem)⟩

/-- Looking for a kind binds nothing, and a kind that is found is known. -/
theorem takesUp_kindNamed (nodes : List Node) (node : Node) (name : String) (reader : Reader) :
    reader.TakesUp nodes ((kindNamed node name).run.run reader).2 ∧
      ∀ kind, ((kindNamed node name).run.run reader).1 = .ok kind →
        ((kindNamed node name).run.run reader).2.catalogue.known? name = some kind := by
  have hlater := (bound_kindNamed node name reader).toLater
  rw [run_kindNamed] at hlater ⊢
  rcases hlookup : reader.catalogue.lookup name with ⟨fault | ⟨kind, catalogue⟩, events⟩
  · rw [hlookup] at hlater
    exact ⟨⟨hlater, .refl _, fun _ _ ↦ .inl⟩, nofun⟩
  · rw [hlookup] at hlater
    obtain ⟨hgrows, hknown⟩ := Catalogue.grows_of_lookup (congrArg Prod.fst hlookup)
    refine ⟨⟨hlater, hgrows, fun _ _ ↦ .inl⟩, fun found hfound ↦ ?_⟩
    cases hfound
    exact hknown

/-- Binding some of the tags of a declaration takes up a part of it. -/
theorem takesUp_bindTags {name : String} {kind : Kind} {bindings : List (String × Kind)}
    (hnode : node ∈ nodes) (hbinds : node.Binds reader.catalogue.known? bindings)
    {tags : List String} (htags : ∀ tag ∈ tags, (tag, kind) ∈ bindings) :
    reader.TakesUp nodes ((bindTags node name kind tags).run.run reader).2 := by
  induction tags generalizing reader with
  | nil => exact .refl nodes reader
  | cons tag rest ih =>
    rw [List.forall_mem_cons] at htags
    rw [run_bindTags_cons]
    cases hregister : reader.kinds.register tag kind with
    | error fault => exact .refl nodes reader
    | ok kinds =>
      have hjoins := KindTable.joins_of_register hregister
      have hfirst : reader.TakesUp nodes { reader with
          kinds, events := reader.events ++ [.kindRegistered tag name node.source] } := by
        refine ⟨⟨fun other bound hbound ↦ (hjoins other bound).mpr (.inl hbound), rfl, rfl⟩,
          .refl _, fun other bound hbound ↦ ?_⟩
        refine ((hjoins other bound).mp hbound).imp_right fun hmem ↦ ?_
        cases List.mem_singleton.mp hmem
        exact ⟨node, hnode, bindings, hbinds, htags.1⟩
      exact hfirst.trans (ih hbinds htags.2)

/-- Where a declaration is read, a part of it is taken up, and all of it if this succeeds. -/
theorem takesUp_readKind (hnode : node ∈ nodes) (reader : Reader) :
    reader.TakesUp nodes ((readKind node).run.run reader).2 ∧
      (((readKind node).run.run reader).1 = .ok () →
        ((readKind node).run.run reader).2.Done node) := by
  rw [readKind, run_bind, run_lift]
  cases hcheck : checkAttributes node ["factory", "name"] with
  | error fault => exact ⟨.refl nodes reader, by rintro ⟨⟩⟩
  | ok _ =>
    dsimp only
    rw [run_bind, run_lift]
    cases hname : required node "factory" .factoryMissing with
    | error fault => exact ⟨.refl nodes reader, by rintro ⟨⟩⟩
    | ok name =>
      dsimp only
      obtain ⟨hfirst, hknown⟩ := takesUp_kindNamed nodes node name reader
      rw [run_bind]
      rcases hkind : (kindNamed node name).run.run reader with ⟨fault | kind, middle⟩
      · rw [hkind] at hfirst
        exact ⟨hfirst, by rintro ⟨⟩⟩
      · rw [hkind] at hfirst hknown
        have hbinds : node.Binds middle.catalogue.known?
            ((node.boundTags name).map fun tag ↦ (tag, kind)) :=
          ⟨checkAttributes_eq_ok_iff.mp hcheck, name, kind, required_eq_ok_iff.mp hname,
            hknown kind rfl, rfl⟩
        have hsecond : middle.TakesUp nodes
            ((bindTags node name kind (node.boundTags name)).run.run middle).2 :=
          takesUp_bindTags hnode hbinds fun tag htag ↦ List.mem_map_of_mem htag
        refine ⟨hfirst.trans hsecond, fun hresult ↦ ?_⟩
        have hbound := bound_of_returns_bindTags (Prod.ext hresult rfl)
        exact ⟨_, hbinds.mono hsecond.grows.known,
          fun tag bound hmem ↦ (hbound.joins tag bound).mpr (.inr hmem)⟩

/-- Declarations are taken up one after the other, and each of them is read if all are. -/
theorem takesUp_readEachKind {pending : List Node} (hpending : pending ⊆ nodes) (reader : Reader) :
    reader.TakesUp nodes ((readEachKind pending).run.run reader).2 ∧
      (((readEachKind pending).run.run reader).1 = .ok () →
        ∀ node ∈ pending, ((readEachKind pending).run.run reader).2.Done node) := by
  induction pending generalizing reader with
  | nil => exact ⟨.refl nodes reader, fun _ ↦ List.forall_mem_nil _⟩
  | cons node rest ih =>
    rw [List.cons_subset] at hpending
    obtain ⟨hfirst, hdone⟩ := takesUp_readKind hpending.1 reader
    rw [readEachKind, run_bind]
    rcases hnode : (readKind node).run.run reader with ⟨fault | _, middle⟩
    · rw [hnode] at hfirst
      exact ⟨hfirst, by rintro ⟨⟩⟩
    · rw [hnode] at hfirst hdone
      obtain ⟨hrest, hdoneRest⟩ := ih hpending.2 middle
      refine ⟨hfirst.trans hrest, fun hresult ↦ List.forall_mem_cons.mpr ⟨?_, hdoneRest hresult⟩⟩
      exact (hdone rfl).mono hrest.grows hrest.kinds

end Pass

/-! ### A reader at any time -/

/-- What is true of a reader that was made with a table of kinds and was given a document, part by
part: its table is that of the start with bindings of declarations, and the declarations up to the
cursor have been read. -/
structure InSteps (kinds : KindTable) (document : Document) (reader : Reader) : Prop where
  unread : reader.Unread document
  within : kinds.Within reader.kinds
  only : ∀ tag kind, reader.kinds.lookup tag = some kind →
    kinds.lookup tag = some kind ∨ reader.catalogue.Declares document.matchers tag kind
  counted : reader.kindsRead ≤ document.matchers.length
  done : ∀ node ∈ document.matchers.take reader.kindsRead, reader.Done node

section InSteps

variable {kinds : KindTable} {document : Document} {reader reader' : Reader}

theorem inSteps_new (catalogue : Catalogue) (kinds : KindTable) :
    InSteps kinds {} { catalogue, kinds } :=
  ⟨unread_new catalogue kinds, fun _ _ ↦ id, fun _ _ ↦ .inl, Nat.zero_le _,
    fun _ hmem ↦ by cases hmem⟩

/-- A document is added to those before. -/
theorem afterAction_add [Installation] (hdocument : reader.document = some document)
    (added : Document) :
    reader.afterAction (.add added) = { reader with document := some (document.merge added) } := by
  rw [afterAction, add, run_get_bind, hdocument]
  rfl

/-- What the table binds is declared still where more is known and more is declared. -/
theorem InSteps.only_mono (hsteps : InSteps kinds document reader) {catalogue : Catalogue}
    (hgrows : reader.catalogue.Grows catalogue) {more : List Node}
    (hmore : document.matchers ⊆ more) {tag : String} {kind : Kind}
    (hbound : reader.kinds.lookup tag = some kind) :
    kinds.lookup tag = some kind ∨ catalogue.Declares more tag kind :=
  (hsteps.only tag kind hbound).imp_right fun hdeclares ↦ hdeclares.mono hgrows hmore

/-- Further documents are added at the end, behind the cursor. -/
theorem InSteps.add [Installation] (hsteps : InSteps kinds document reader) (added : Document) :
    InSteps kinds (document.merge added) (reader.afterAction (.add added)) := by
  have hunread : (reader.afterAction (.add added)).Unread (document.merge added) :=
    hsteps.unread.afterAction trivial
  rw [afterAction_add hsteps.unread.document] at hunread ⊢
  refine ⟨hunread, hsteps.within, fun tag kind hbound ↦ ?_, ?_, ?_⟩
  · exact hsteps.only_mono (.refl _) (List.subset_append_left _ _) hbound
  · exact hsteps.counted.trans (by simp [Document.merge])
  · change ∀ node ∈ (document.matchers ++ added.matchers).take reader.kindsRead, reader.Done node
    rw [List.take_append_of_le_length hsteps.counted]
    exact hsteps.done

/-- What is plugged in is taken up by the catalogue only. -/
theorem InSteps.plugIn (hsteps : InSteps kinds document reader) {catalogue : Catalogue}
    (hgrows : reader.catalogue.Grows catalogue) :
    InSteps kinds document { reader with catalogue } := by
  refine ⟨⟨hsteps.unread.licenses, hsteps.unread.approved, hsteps.unread.document,
    hsteps.unread.identifiers⟩, hsteps.within, fun tag kind hbound ↦ ?_, hsteps.counted,
    fun node hnode ↦ (hsteps.done node hnode).mono hgrows fun _ _ ↦ id⟩
  exact hsteps.only_mono hgrows (List.Subset.refl _) hbound

/-- Where some declarations are taken up and the cursor stays, nothing else changes. -/
theorem InSteps.takesUp (hsteps : InSteps kinds document reader)
    (htakes : reader.TakesUp document.matchers reader') : InSteps kinds document reader' := by
  have hcursor : reader'.kindsRead = reader.kindsRead := by rw [htakes.rest]
  refine ⟨hsteps.unread.of_unmoved htakes.toLater.unmoved,
    fun tag kind hbound ↦ htakes.kinds tag kind (hsteps.within tag kind hbound),
    fun tag kind hbound ↦ ?_, hcursor ▸ hsteps.counted, fun node hnode ↦ ?_⟩
  · rcases htakes.only tag kind hbound with hbefore | hdeclares
    · exact hsteps.only_mono htakes.grows (List.Subset.refl _) hbefore
    · exact .inr hdeclares
  · rw [hcursor] at hnode
    exact (hsteps.done node hnode).mono htakes.grows htakes.kinds

/-- What a pass over the kinds does: declarations are taken up, and the cursor moves behind them if
each of them has been read. -/
theorem run_readKinds_cases (hdocument : reader.document = some document) :
    ∃ later, reader.TakesUp document.matchers later ∧
      ((readKinds.run.run reader).2 = later ∨
        (readKinds.run.run reader).2 = { later with kindsRead :=
            later.kindsRead + (document.matchers.drop reader.kindsRead).length } ∧
          ∀ node ∈ document.matchers.drop reader.kindsRead, later.Done node) := by
  have hpending : document.matchers.drop reader.kindsRead ⊆ document.matchers :=
    List.drop_subset _ _
  obtain ⟨htakes, hdone⟩ := takesUp_readEachKind hpending reader
  rw [readKinds, run_get_bind, hdocument]
  dsimp only
  rw [run_bind]
  rcases hread : (readEachKind (document.matchers.drop reader.kindsRead)).run.run reader with
    ⟨fault | _, later⟩
  · rw [hread] at htakes
    exact ⟨later, htakes, .inl rfl⟩
  · rw [hread] at htakes hdone
    exact ⟨later, htakes, .inr ⟨rfl, hdone rfl⟩⟩

/-- A pass over the kinds keeps the invariant, whether it returns or raises. -/
theorem InSteps.readKinds (hsteps : InSteps kinds document reader) :
    InSteps kinds document (readKinds.run.run reader).2 := by
  obtain ⟨later, htakes, hsame | ⟨hsame, hdone⟩⟩ := run_readKinds_cases hsteps.unread.document
  · rw [hsame]
    exact hsteps.takesUp htakes
  · have hlater := hsteps.takesUp htakes
    have hcursor : later.kindsRead = reader.kindsRead := congrArg (·.kindsRead) htakes.rest
    rw [hsame]
    refine ⟨hlater.unread.of_unmoved ⟨rfl, rfl, rfl, rfl⟩, hlater.within, hlater.only, ?_, ?_⟩
    · change later.kindsRead + (document.matchers.drop reader.kindsRead).length ≤ _
      have hcounted := hsteps.counted
      rw [hcursor, List.length_drop]
      omega
    · -- A declaration up to the new cursor was read before or has been read now.
      intro node hnode
      have hmem := List.mem_of_mem_take hnode
      rw [← List.take_append_drop reader.kindsRead document.matchers, List.mem_append] at hmem
      rcases hmem with hbefore | hnow
      · rw [← hcursor] at hbefore
        exact hlater.done node hbefore
      · exact hdone node hnow

/-- When every declaration has been read, the table has joined what they bind, and the table of the
start admits all of it. -/
theorem InSteps.exists_parts (hsteps : InSteps kinds document reader)
    (hall : document.matchers.length ≤ reader.kindsRead) :
    ∃ parts, List.Forall₂ (Node.Binds reader.catalogue.known?) document.matchers parts ∧
      kinds.Admits parts.flatten ∧ kinds.Joins parts.flatten reader.kinds := by
  have hdone := hsteps.done
  rw [List.take_of_length_le hall] at hdone
  obtain ⟨parts, hparts⟩ := exists_forall₂ hdone
  have hbinds : List.Forall₂ (Node.Binds reader.catalogue.known?) document.matchers parts :=
    hparts.imp fun _ _ ↦ And.left
  have hbound : ∀ tag kind, (tag, kind) ∈ parts.flatten → reader.kinds.lookup tag = some kind := by
    intro tag kind hmem
    obtain ⟨bindings, hbindings, hmem⟩ := List.mem_flatten.mp hmem
    obtain ⟨node, _, hnode⟩ := exists_of_mem_of_forall₂ hparts.flip hbindings
    exact hnode.2 tag kind hmem
  refine ⟨parts, hbinds, fun tag kind hmem other hother ↦ ?_, fun tag kind ↦ ⟨fun hlookup ↦ ?_, ?_⟩⟩
  · -- Both are what the table binds the tag to.
    have hsame : reader.kinds.lookup tag = some other :=
      hother.elim (hsteps.within tag other) (hbound tag other)
    exact Option.some_inj.mp (hsame.symm.trans (hbound tag kind hmem))
  · refine (hsteps.only tag kind hlookup).imp_right fun ⟨node, hnode, bindings, hwritten, hmem⟩ ↦ ?_
    obtain ⟨part, hpart, hpartBinds⟩ := exists_of_mem_of_forall₂ hbinds hnode
    rw [hwritten.unique hpartBinds] at hmem
    exact List.mem_flatten.mpr ⟨part, hpart, hmem⟩
  · rintro (hstart | hmem)
    · exact hsteps.within tag kind hstart
    · exact hbound tag kind hmem

/-- What the table of the start admits does not conflict with what is bound already, even if a pass
has failed midway. -/
theorem InSteps.admits {parts : List (List (String × Kind))}
    (hsteps : InSteps kinds document reader)
    (hparts : List.Forall₂ (Node.Binds reader.catalogue.kind?) document.matchers parts)
    (hadmits : kinds.Admits parts.flatten) (cursor : Nat) :
    reader.kinds.Admits (parts.drop cursor).flatten := by
  have hsubset : (parts.drop cursor).flatten ⊆ parts.flatten := by
    intro binding hmem
    obtain ⟨part, hpart, hmem⟩ := List.mem_flatten.mp hmem
    exact List.mem_flatten.mpr ⟨part, List.mem_of_mem_drop hpart, hmem⟩
  intro tag kind hmem other hother
  refine hadmits tag kind (hsubset hmem) other ?_
  rcases hother with hbound | hmem
  · refine (hsteps.only tag other hbound).imp_right fun ⟨node, hnode, bindings, hbinds, hmem⟩ ↦ ?_
    obtain ⟨part, hpart, hpartBinds⟩ := exists_of_mem_of_forall₂ hparts hnode
    have hsame := (hbinds.mono fun _ _ ↦ Catalogue.kind?_of_known?).unique hpartBinds
    exact List.mem_flatten.mpr ⟨part, hpart, hsame ▸ hmem⟩
  · exact .inr (hsubset hmem)

end InSteps

end Reader

end LicenseHeaders
