import LicenseHeaders.Proofs.Builder.Calls
import LicenseHeaders.Proofs.Reader.Declaring
import LicenseHeaders.Proofs.Reader.Kinds
import LicenseHeaders.Sample

/-!
# Asking again after a fault

A reader that has raised a fault can be asked again. What the passes did before the fault is kept,
so the second attempt does not start where the first one did: tags are bound and identifiers are
declared already. It fails all the same, perhaps with another fault. Kinds, licenses and builders
that were refused are refused again, since a reader that binds, declares or has built more takes up
less (`Reader.raises_readKinds_again`, `Reader.raises_readEachLicense_again`,
`Reader.raises_buildLicenses_again`). So the first pass that fails stays the first one
(`Reader.Stalled`), and a reader is `Reader.Doomed` whatever it is asked for
(`Reader.Doomed.afterRequest`).

The last check is different. The licenses are kept before the approved families are looked up, so
after a fault of a family they are returned, and no category is approved (`Reader.Unapproved`).
`Reader.failed_load_stays_failed_or_unapproved` says that this is the only exception, and
`Reader.returns_after_unknown_family` shows it.
-/

set_option autoImplicit false
set_option relaxedAutoImplicit false

namespace LicenseHeaders

/-! ### What is asked of a reader -/

/-- What a reader may be asked for: to read the kinds, the licenses or the approved categories. -/
inductive Request where
  | kinds
  | licenses
  | approved

/-- What may be done to a reader. -/
inductive Action where
  | add (document : Document)
  | plugIn (name : String) (kind : Kind)
  | ask (request : Request)

namespace Reader

/-- A reader after a request, whether something was returned or a fault was raised. -/
def afterRequest [Installation] (reader : Reader) : Request → Reader
  | .kinds => (readKinds.run.run reader).2
  | .licenses => (readLicenses.run.run reader).2
  | .approved => (approvedCategories.run.run reader).2

/-- A reader after requests, one after the other. -/
def afterRequests [Installation] (reader : Reader) (requests : List Request) : Reader :=
  requests.foldl afterRequest reader

/-- A reader after something was done to it. A kind that cannot be plugged in changes nothing. -/
def afterAction [Installation] (reader : Reader) : Action → Reader
  | .add document => ((add document).run.run reader).2
  | .plugIn name kind =>
    match (reader.catalogue.register name kind).1 with
    | .ok catalogue => { reader with catalogue }
    | .error _ => reader
  | .ask request => reader.afterRequest request

/-- A reader after things were done to it, one after the other. -/
def afterActions [Installation] (reader : Reader) (actions : List Action) : Reader :=
  actions.foldl afterAction reader

/-- Neither the licenses nor the approved categories can be had. -/
structure Fails [Installation] (reader : Reader) : Prop where
  licenses : ∃ fault after, Raises readLicenses reader fault after
  approved : ∃ fault after, Raises approvedCategories reader fault after

section Approved

variable {reader reader' : Reader}

/-- Approved categories that have not been read come with the licenses. -/
theorem run_approvedCategories_of_none [Installation] (hnone : reader.approved = none) :
    approvedCategories.run.run reader =
      match readLicenses.run.run reader with
      | (.ok _, after) => (.ok (after.approved.getD []), after)
      | (.error fault, after) => (.error fault, after) := by
  have hisNone : reader.approved.isNone = true := by rw [hnone]; rfl
  rw [approvedCategories, run_get_bind, if_pos hisNone, run_bind]
  rcases readLicenses.run.run reader with ⟨fault | licenses, after⟩
  · rfl
  · rfl

end Approved

/-! ### What has been built stays sound -/

section Sound

variable {reader reader' : Reader} [Installation]

theorem sound_declaring (hsound : reader.Sound) (added : List (String × Builder)) :
    (reader.declaring added).Sound :=
  Builder.Sound.mono (fun _ _ ↦ lookup_of_start (List.prefix_append _ added)) hsound

/-- A reader has come from another one by building matchers that its declarations build. -/
def Builds (start reader : Reader) : Prop :=
  ∃ built, reader = start.remembering built ∧ Builder.Sound start.identifiers.builders built

theorem Builds.refl (hsound : reader.Sound) : reader.Builds reader :=
  ⟨reader.identifiers.built, rfl, hsound⟩

theorem Builds.sound (hbuilds : reader.Builds reader') : reader'.Sound := by
  obtain ⟨built, rfl, hbuilt⟩ := hbuilds
  exact hbuilt

theorem keeps_builds_building (start : Reader) (draft : LicenseDraft)
    (identifiers : Identifiers) (hbuilders : identifiers.builders = start.identifiers.builders) :
    Keeps start.Builds (building (draft.build identifiers.resolving)) := by
  have hresolving (id : String) :
      Keeps (Builder.Sound start.identifiers.builders) (identifiers.resolving id) := by
    rw [Identifiers.resolving, hbuilders]
    exact Identifiers.keeps_sound_resolveWithin _ [] id
  have hbuild : Keeps (Builder.Sound start.identifiers.builders)
      (draft.build identifiers.resolving) := by
    rw [LicenseDraft.build]
    split
    · exact keeps_throw _
    split
    · exact keeps_throw _
    rcases draft.root with _ | matcher | builder
    · exact keeps_throw _
    · exact keeps_bind (keeps_pure matcher) fun _ ↦ keeps_pure _
    · exact keeps_bind (Builder.keeps_build hresolving builder) fun _ ↦ keeps_pure _
  rintro before ⟨built, rfl, hbuilt⟩
  exact ⟨_, rfl, hbuild built hbuilt⟩

/-- Also where building licenses fails, nothing happens but that matchers are built. -/
theorem keeps_builds_buildLicenses (start : Reader) (before : List License)
    (drafts : List (Node × LicenseDraft)) : Keeps start.Builds (buildLicenses before drafts) := by
  induction drafts generalizing before with
  | nil => exact fun _ hbuilds ↦ hbuilds
  | cons entry rest ih =>
    obtain ⟨node, draft⟩ := entry
    intro reader hbuilds
    rw [buildLicenses, run_get_bind]
    have hbuilders : reader.identifiers.builders = start.identifiers.builders := by
      obtain ⟨built, rfl, _⟩ := hbuilds
      rfl
    have hbuilding := keeps_builds_building start draft reader.identifiers hbuilders
    refine keeps_bind (keeps_rethrow hbuilding (locatedAt node)) (fun license ↦ ?_) reader hbuilds
    split_ifs
    · exact keeps_throw _
    · exact ih _

theorem keeps_sound_readEachLicense (nodes : List Node) : Keeps Sound (readEachLicense nodes) := by
  intro before hsound
  obtain ⟨added, hadded⟩ := (framed_readEachLicense nodes).adds before
  rw [hadded]
  exact sound_declaring hsound added

theorem keeps_sound_buildLicenses (before : List License) (drafts : List (Node × LicenseDraft)) :
    Keeps Sound (buildLicenses before drafts) := by
  intro reader hsound
  exact (keeps_builds_buildLicenses reader before drafts reader (Builds.refl hsound)).sound

end Sound

/-! ### Passes that fail again -/

section Again

variable {reader middle reader' last : Reader} {nodes : List Node} {fault : Fault}
  {drafts redrafts : List (Node × LicenseDraft)}

/-- Licenses that cannot be read cannot be read later. -/
theorem raises_readEachLicense_again
    (hraises : Raises (readEachLicense nodes) reader fault reader') :
    ∃ cause last, Raises (readEachLicense nodes) reader' cause last := by
  rcases returns_or_raises (readEachLicense nodes) reader' with ⟨redrafts, last, hreturns⟩ | hagain
  · exfalso
    obtain ⟨added, rfl⟩ := (framed_readEachLicense nodes).of_raises hraises
    obtain ⟨parts, hparts, _, _, hfresh⟩ := reads_of_returns_readEachLicense hreturns
    have hkinds : (reader.declaring added).SameKinds reader := fun _ ↦ rfl
    have hfewer : ∀ id ∈ reader.declaredIds, id ∈ (reader.declaring added).declaredIds := by
      intro id hid
      rw [declaredIds_declaring]
      exact List.mem_append_left _ hid
    obtain ⟨_, hother, _⟩ := returns_readEachLicense_of_reads hparts hkinds (hfresh.anti hfewer)
    cases hraises.symm.trans hother
  · exact hagain

/-- Licenses that have been read can be read again only if nothing is declared in them, and the
drafts are the same. -/
theorem returns_readEachLicense_again
    (hreturns : Returns (readEachLicense nodes) reader drafts middle)
    (hkinds : reader'.kinds = middle.kinds) (hdeclared : reader'.declaredIds = middle.declaredIds)
    (hagain : Returns (readEachLicense nodes) reader' redrafts last) :
    last = reader' ∧ redrafts.map (·.2) = drafts.map (·.2) := by
  obtain ⟨added, rfl, _⟩ := (framed_readEachLicense nodes).of_returns hreturns
  obtain ⟨parts, hparts, hredrafts, rfl, hfresh⟩ := reads_of_returns_readEachLicense hagain
  rw [declaredIds_declaring] at hdeclared
  have hsame : reader'.SameKinds reader := by
    intro tag
    rw [hkinds, kinds_declaring]
  have hfewer : ∀ id ∈ reader.declaredIds, id ∈ reader'.declaredIds := by
    intro id hid
    rw [hdeclared]
    exact List.mem_append_left _ hid
  -- The first time, the same must have been read.
  obtain ⟨others, hother, hothers⟩ :=
    returns_readEachLicense_of_reads hparts hsame (hfresh.anti hfewer)
  have hrun := hreturns.symm.trans hother
  rw [Prod.mk.injEq, Except.ok.injEq] at hrun
  have hadded : added = parts.flatMap (·.2) := declaring_injective hrun.2
  have hnone : parts.flatMap (·.2) = [] := by
    rw [List.eq_nil_iff_forall_not_mem]
    intro entry hentry
    have hid : entry.1 ∈ (parts.flatMap (·.2)).map (·.1) := List.mem_map_of_mem hentry
    have htaken : entry.1 ∈ reader'.declaredIds := by
      rw [hdeclared, hadded]
      exact List.mem_append_right _ hid
    exact hfresh.free entry.1 hid htaken
  constructor
  · rw [hnone, declaring_nil]
  · rw [hredrafts, ← hothers, hrun.1]

/-- Licenses that cannot be built cannot be built later, of the same drafts. -/
theorem raises_buildLicenses_again [Installation] (hsound : reader.Sound)
    (hroots : ∀ entry ∈ drafts, ∃ builder, entry.2.root = some (.builder builder))
    (hreroots : ∀ entry ∈ redrafts, ∃ builder, entry.2.root = some (.builder builder))
    (hdrafts : redrafts.map (·.2) = drafts.map (·.2))
    (hraises : Raises (buildLicenses [] drafts) reader fault reader') :
    ∃ cause last, Raises (buildLicenses [] redrafts) reader' cause last := by
  rcases returns_or_raises (buildLicenses [] redrafts) reader' with
    ⟨made, last, hreturns⟩ | hagain
  · exfalso
    obtain ⟨table, rfl, htable⟩ :=
      (keeps_builds_buildLicenses reader [] drafts).of_raises (Builds.refl hsound) hraises
    have hresound : (reader.remembering table).Sound := htable
    -- What a draft makes depends on the declarations and not on what has been built.
    have hmakes := (exists_returns_buildLicenses_nil_iff hreroots hresound).mp ⟨last, hreturns⟩
    rw [hdrafts] at hmakes
    obtain ⟨other, hother⟩ := (exists_returns_buildLicenses_nil_iff hroots hsound).mpr hmakes
    cases hraises.symm.trans hother
  · exact hagain

end Again

/-! ### Readers that cannot go on -/

/-- A reader that has a document and has read no licenses from it. -/
structure Waiting [Installation] (reader : Reader) (document : Document) : Prop where
  licenses : reader.licenses = none
  approved : reader.approved = none
  document : reader.document = some document
  sound : reader.Sound

/-- The first pass over a document that fails. The passes before it change nothing any more. -/
inductive Stalled [Installation] (reader : Reader) (document : Document) : Prop where
  | kinds {fault : Fault} {after : Reader} (raises : Raises readKinds reader fault after)
  | licenses {fault : Fault} {after : Reader}
    (done : document.matchers.drop reader.kindsRead = [])
    (raises : Raises (readEachLicense document.licenses) reader fault after)
  | building {drafts : List (Node × LicenseDraft)} {fault : Fault} {after : Reader}
    (done : document.matchers.drop reader.kindsRead = [])
    (read : Returns (readEachLicense document.licenses) reader drafts reader)
    (raises : Raises (buildLicenses [] drafts) reader fault after)

/-- A reader whose licenses cannot be read. -/
def Doomed [Installation] (reader : Reader) : Prop :=
  ∃ document, reader.Waiting document ∧ reader.Stalled document

/-- A reader that has kept the licenses that it built, although a declaration of an approved family
is none or approves none of them. -/
structure Unapproved [Installation] (reader : Reader) (licenses : List License) : Prop where
  kept : reader.licenses = some licenses
  approved : reader.approved = none
  sound : reader.Sound
  families : ∃ document, reader.document = some document ∧
    document.matchers.drop reader.kindsRead = [] ∧
    ∃ node ∈ document.families, ¬node.Approves (licenses.map License.id)

section Stalled

variable {reader bound read reader' : Reader} {document : Document} {fault : Fault}
  {licenses : List License} {drafts : List (Node × LicenseDraft)} [Installation]

theorem Waiting.of_unmoved (hwaiting : reader.Waiting document)
    (hunmoved : reader.Unmoved reader') : reader'.Waiting document := by
  obtain ⟨hlicenses, happroved, hdocument, hsound⟩ := hwaiting
  refine ⟨hunmoved.licenses.trans hlicenses, hunmoved.approved.trans happroved,
    hunmoved.document.trans hdocument, ?_⟩
  rw [Sound, hunmoved.identifiers]
  exact hsound

theorem Waiting.declaring (hwaiting : reader.Waiting document) (added : List (String × Builder)) :
    (reader.declaring added).Waiting document :=
  ⟨hwaiting.licenses, hwaiting.approved, hwaiting.document, sound_declaring hwaiting.sound added⟩

theorem Waiting.of_builds (hwaiting : reader.Waiting document) (hbuilds : reader.Builds reader') :
    reader'.Waiting document := by
  have hsound := hbuilds.sound
  obtain ⟨built, rfl, _⟩ := hbuilds
  exact ⟨hwaiting.licenses, hwaiting.approved, hwaiting.document, hsound⟩

/-- A reader that cannot read the kinds of its document is doomed. -/
theorem doomed_of_raises_readKinds (hwaiting : reader.Waiting document)
    (hraises : Raises readKinds reader fault reader') : reader'.Doomed := by
  have hunmoved := (keeps_unmoved_readKinds reader).of_raises (Unmoved.refl reader) hraises
  obtain ⟨_, _, hagain⟩ := raises_readKinds_again hwaiting.document hraises
  exact ⟨document, hwaiting.of_unmoved hunmoved, .kinds hagain⟩

/-- A reader that cannot read the licenses of its document is doomed. -/
theorem doomed_of_raises_readEachLicense (hwaiting : reader.Waiting document)
    (hdone : document.matchers.drop reader.kindsRead = [])
    (hraises : Raises (readEachLicense document.licenses) reader fault reader') :
    reader'.Doomed := by
  obtain ⟨_, _, hagain⟩ := raises_readEachLicense_again hraises
  obtain ⟨added, rfl⟩ := (framed_readEachLicense document.licenses).of_raises hraises
  exact ⟨document, hwaiting.declaring added, .licenses hdone hagain⟩

/-- A reader that cannot build the licenses of its document is doomed. -/
theorem doomed_of_raises_buildLicenses (hwaiting : reader.Waiting document)
    (hdone : document.matchers.drop reader.kindsRead = [])
    (hread : Returns (readEachLicense document.licenses) reader drafts read)
    (hraises : Raises (buildLicenses [] drafts) read fault reader') : reader'.Doomed := by
  have hroots := roots_of_returns_readEachLicense hread
  obtain ⟨added, rfl, _⟩ := (framed_readEachLicense document.licenses).of_returns hread
  have hdeclaring := hwaiting.declaring added
  have hbuilds := (keeps_builds_buildLicenses (reader.declaring added) [] drafts).of_raises
    (Builds.refl hdeclaring.sound) hraises
  have hwaiting' := hdeclaring.of_builds hbuilds
  obtain ⟨table, rfl, _⟩ := hbuilds
  refine ⟨document, hwaiting', ?_⟩
  -- What is declared in the licenses is declared now, so they may not even be read again.
  rcases returns_or_raises (readEachLicense document.licenses)
    ((reader.declaring added).remembering table) with ⟨redrafts, last, hagain⟩ | ⟨_, _, hagain⟩
  · have hkinds : ((reader.declaring added).remembering table).kinds =
        (reader.declaring added).kinds := rfl
    have hdeclared : ((reader.declaring added).remembering table).declaredIds =
        (reader.declaring added).declaredIds := rfl
    obtain ⟨rfl, hdrafts⟩ := returns_readEachLicense_again hread hkinds hdeclared hagain
    have hreroots := roots_of_returns_readEachLicense hagain
    obtain ⟨_, _, hrebuild⟩ :=
      raises_buildLicenses_again hdeclaring.sound hroots hreroots hdrafts hraises
    exact .building hdone hagain hrebuild
  · exact .licenses hdone hagain

/-- A doomed reader raises a fault and is doomed after it. -/
theorem Doomed.raises (hdoomed : reader.Doomed) :
    ∃ fault after, Raises readLicenses reader fault after ∧ after.Doomed := by
  obtain ⟨document, hwaiting, hstalled⟩ := hdoomed
  have hgiven : reader.document.getD {} = document := by rw [hwaiting.document, Option.getD_some]
  simp only [raises_readLicenses_iff hwaiting.licenses]
  cases hstalled with
  | @kinds fault after hkinds =>
    exact ⟨fault, after, .inl hkinds, doomed_of_raises_readKinds hwaiting hkinds⟩
  | @licenses fault after hdone hread =>
    have hdoomed := doomed_of_raises_readEachLicense hwaiting hdone hread
    have hkinds := returns_readKinds_of_drop_nil hwaiting.document hdone
    rw [← hgiven] at hread
    exact ⟨fault, after, .inr ⟨reader, hkinds, .inl hread⟩, hdoomed⟩
  | @building drafts fault after hdone hread hbuild =>
    have hdoomed := doomed_of_raises_buildLicenses hwaiting hdone hread hbuild
    have hkinds := returns_readKinds_of_drop_nil hwaiting.document hdone
    rw [← hgiven] at hread
    exact ⟨fault, after, .inr ⟨reader, hkinds, .inr ⟨drafts, reader, hread, .inl hbuild⟩⟩, hdoomed⟩

/-- A fault of reading licenses dooms a reader, unless it is an approved family that it is about. -/
theorem doomed_or_unapproved (hwaiting : reader.Waiting document)
    (hraises : Raises readLicenses reader fault reader') :
    reader'.Doomed ∨ ∃ licenses, reader'.Unapproved licenses := by
  rcases (raises_readLicenses_iff hwaiting.licenses).mp hraises with
    hkinds | ⟨bound, hkinds, hraises⟩
  · exact .inl (doomed_of_raises_readKinds hwaiting hkinds)
  have hbound : bound.Waiting document := hwaiting.of_unmoved
    ((keeps_unmoved_readKinds reader).of_returns (Unmoved.refl reader) hkinds)
  have hdone := drop_kindsRead_of_returns_readKinds hwaiting.document hkinds
  rw [hbound.document, Option.getD_some] at hraises
  rcases hraises with hread | ⟨drafts, read, hread, hraises⟩
  · exact .inl (doomed_of_raises_readEachLicense hbound hdone hread)
  rcases hraises with hbuild | ⟨made, built, hbuild, hfamilies, rfl⟩
  · exact .inl (doomed_of_raises_buildLicenses hbound hdone hread hbuild)
  obtain ⟨added, rfl, _⟩ := (framed_readEachLicense document.licenses).of_returns hread
  have hdeclaring := hbound.declaring added
  obtain ⟨table, rfl, htable⟩ :=
    (keeps_builds_buildLicenses (bound.declaring added) [] drafts).of_returns
      (Builds.refl hdeclaring.sound) hbuild
  refine .inr ⟨License.sort made, rfl, hbound.approved, htable, document, hbound.document, hdone,
    ?_⟩
  -- Not every family is in order, and sorting the licenses does not change that.
  by_contra hall
  simp only [not_exists, not_and, not_not] at hall
  have happroves : ∀ node ∈ document.families, node.Approves (made.map License.id) := by
    intro node hnode
    obtain ⟨hoptions, category, hcategory, hreference⟩ := hall node hnode
    have hperm : ((License.sort made).map License.id).Perm (made.map License.id) :=
      (List.mergeSort_perm made _).map License.id
    exact ⟨hoptions, category, hperm.mem_iff.mp hcategory, hreference⟩
  obtain ⟨approved, happroved⟩ := exists_readFamilies_iff.mpr happroves
  cases hfamilies.symm.trans happroved

end Stalled

/-! ### Requests one after the other -/

/-- A reader as it is found after anything has been done to it: it has read licenses, or it has a
document to read them from. -/
structure Usable [Installation] (reader : Reader) : Prop where
  sound : reader.Sound
  waiting : reader.licenses = none → ∃ document, reader.Waiting document

section Requests

variable {reader reader' : Reader} {licenses : List License} {fault : Fault} [Installation]

theorem Waiting.usable {document : Document} (hwaiting : reader.Waiting document) :
    reader.Usable :=
  ⟨hwaiting.sound, fun _ ↦ ⟨document, hwaiting⟩⟩

theorem usable_of_some (hsound : reader.Sound) (hsome : reader.licenses = some licenses) :
    reader.Usable := by
  refine ⟨hsound, fun hnone ↦ ?_⟩
  rw [hsome] at hnone
  cases hnone

/-- Licenses that have been read are not refused. -/
theorem licenses_of_raises_readLicenses (hraises : Raises readLicenses reader fault reader') :
    reader.licenses = none := by
  cases hlicenses : reader.licenses with
  | some kept => cases hraises.symm.trans (returns_readLicenses_of_some hlicenses)
  | none => rfl

theorem keeps_usable_readLicenses : Keeps Usable readLicenses := by
  refine keeps_of_outcomes ?_ ?_
  · intro before licenses after husable hreturns
    cases hlicenses : before.licenses with
    | some kept =>
      cases hreturns.symm.trans (returns_readLicenses_of_some hlicenses)
      exact husable
    | none =>
      obtain ⟨document, hwaiting⟩ := husable.waiting hlicenses
      obtain ⟨bound, hkinds, drafts, read, hread, made, built, hbuild, approved, _, _, rfl⟩ :=
        (returns_readLicenses_iff hlicenses).mp hreturns
      have hbound := hwaiting.of_unmoved
        ((keeps_unmoved_readKinds before).of_returns (Unmoved.refl before) hkinds)
      have hreadSound := (keeps_sound_readEachLicense _).of_returns hbound.sound hread
      have hbuiltSound := (keeps_sound_buildLicenses [] drafts).of_returns hreadSound hbuild
      exact usable_of_some hbuiltSound rfl
  · intro before fault after husable hraises
    obtain ⟨document, hwaiting⟩ := husable.waiting (licenses_of_raises_readLicenses hraises)
    rcases doomed_or_unapproved hwaiting hraises with ⟨_, hdoomed, _⟩ | ⟨_, hunapproved⟩
    · exact hdoomed.usable
    · exact usable_of_some hunapproved.sound hunapproved.kept

/-- What a request for approved categories does is to read licenses, if it does anything. -/
theorem afterRequest_approved (reader : Reader) :
    reader.afterRequest .approved = reader ∨
      reader.approved = none ∧ reader.afterRequest .approved = reader.afterRequest .licenses := by
  simp only [afterRequest]
  cases happroved : reader.approved with
  | some approved =>
    rw [run_approvedCategories_of_some happroved]
    exact .inl rfl
  | none =>
    rw [run_approvedCategories_of_none happroved]
    rcases readLicenses.run.run reader with ⟨fault | licenses, after⟩
    · exact .inr ⟨rfl, rfl⟩
    · exact .inr ⟨rfl, rfl⟩

theorem Usable.afterRequest (husable : reader.Usable) (request : Request) :
    (reader.afterRequest request).Usable := by
  have hlicenses : (reader.afterRequest .licenses).Usable :=
    keeps_usable_readLicenses reader husable
  cases request with
  | kinds =>
    have hunmoved := keeps_unmoved_readKinds reader reader (Unmoved.refl reader)
    constructor
    · rw [Sound, Reader.afterRequest, hunmoved.identifiers]
      exact husable.sound
    · intro hnone
      obtain ⟨document, hwaiting⟩ := husable.waiting (hunmoved.licenses.symm.trans hnone)
      exact ⟨document, hwaiting.of_unmoved hunmoved⟩
  | licenses => exact hlicenses
  | approved =>
    rcases afterRequest_approved reader with hsame | ⟨_, hsame⟩
    · rw [hsame]
      exact husable
    · rw [hsame]
      exact hlicenses

theorem Usable.afterAction (husable : reader.Usable) (action : Action) :
    (reader.afterAction action).Usable := by
  cases action with
  | add document =>
    rw [Reader.afterAction, add, run_get_bind]
    cases hdocument : reader.document with
    | none =>
      refine ⟨husable.sound, fun hnone ↦ ?_⟩
      obtain ⟨_, hwaiting⟩ := husable.waiting hnone
      cases hdocument.symm.trans hwaiting.document
    | some before =>
      refine ⟨husable.sound, fun hnone ↦ ?_⟩
      obtain ⟨_, hwaiting⟩ := husable.waiting hnone
      exact ⟨before.merge document, hwaiting.licenses, hwaiting.approved, rfl, hwaiting.sound⟩
  | plugIn name kind =>
    rw [Reader.afterAction]
    split
    · refine ⟨husable.sound, fun hnone ↦ ?_⟩
      obtain ⟨document, hwaiting⟩ := husable.waiting hnone
      exact ⟨document, hwaiting.licenses, hwaiting.approved, hwaiting.document, hwaiting.sound⟩
    · exact husable
  | ask request => exact husable.afterRequest request

theorem Usable.afterActions (husable : reader.Usable) (actions : List Action) :
    (reader.afterActions actions).Usable := by
  induction actions generalizing reader with
  | nil => exact husable
  | cons action rest ih => exact ih (husable.afterAction action)

theorem usable_new (catalogue : Catalogue) (kinds : KindTable) :
    ({ catalogue, kinds } : Reader).Usable :=
  ⟨nofun, fun _ ↦ ⟨{}, rfl, rfl, rfl, nofun⟩⟩

/-- The approved categories are refused only where the licenses are. -/
theorem raises_approvedCategories_iff :
    Raises approvedCategories reader fault reader' ↔
      reader.approved = none ∧ Raises readLicenses reader fault reader' := by
  cases happroved : reader.approved with
  | some approved =>
    rw [Raises, run_approvedCategories_of_some happroved]
    constructor
    · intro hraises
      cases hraises
    · rintro ⟨⟨⟩, _⟩
  | none =>
    rw [Raises, Raises, run_approvedCategories_of_none happroved, eq_self, true_and]
    rcases readLicenses.run.run reader with ⟨cause | licenses, after⟩
    · constructor
      · intro hraises
        cases hraises
        rfl
      · intro hraises
        cases hraises
        rfl
    · constructor
      · intro hraises
        cases hraises
      · intro hraises
        cases hraises

theorem Doomed.fails (hdoomed : reader.Doomed) : reader.Fails := by
  obtain ⟨fault, after, hraises, _⟩ := hdoomed.raises
  obtain ⟨document, hwaiting, _⟩ := hdoomed
  have happroved := raises_approvedCategories_iff.mpr ⟨hwaiting.approved, hraises⟩
  exact ⟨⟨fault, after, hraises⟩, fault, after, happroved⟩

/-- A doomed reader stays doomed, whatever it is asked for. -/
theorem Doomed.afterRequest (hdoomed : reader.Doomed) (request : Request) :
    (reader.afterRequest request).Doomed := by
  have hlicenses : (reader.afterRequest .licenses).Doomed := by
    obtain ⟨fault, after, hraises, hafter⟩ := hdoomed.raises
    rw [Reader.afterRequest, congrArg Prod.snd hraises]
    exact hafter
  cases request with
  | kinds =>
    obtain ⟨document, hwaiting, hstalled⟩ := id hdoomed
    rcases returns_or_raises readKinds reader with ⟨_, after, hreturns⟩ | ⟨fault, after, hraises⟩
    · have hdone : document.matchers.drop reader.kindsRead = [] := by
        cases hstalled with
        | kinds hraises => cases hraises.symm.trans hreturns
        | licenses hdone _ => exact hdone
        | building hdone _ _ => exact hdone
      have hsame := returns_readKinds_of_drop_nil hwaiting.document hdone
      rw [Reader.afterRequest, congrArg Prod.snd hsame]
      exact hdoomed
    · rw [Reader.afterRequest, congrArg Prod.snd hraises]
      exact doomed_of_raises_readKinds hwaiting hraises
  | licenses => exact hlicenses
  | approved =>
    rcases afterRequest_approved reader with hsame | ⟨_, hsame⟩
    · rw [hsame]
      exact hdoomed
    · rw [hsame]
      exact hlicenses

theorem Doomed.afterRequests (hdoomed : reader.Doomed) (requests : List Request) :
    (reader.afterRequests requests).Doomed := by
  induction requests generalizing reader with
  | nil => exact hdoomed
  | cons request rest ih => exact ih (hdoomed.afterRequest request)

theorem Unapproved.returns (hunapproved : reader.Unapproved licenses) :
    Returns readLicenses reader licenses reader ∧ Returns approvedCategories reader [] reader := by
  have hlicenses := returns_readLicenses_of_some hunapproved.kept
  refine ⟨hlicenses, ?_⟩
  rw [Returns] at hlicenses ⊢
  rw [run_approvedCategories_of_none hunapproved.approved, hlicenses]
  dsimp only
  rw [hunapproved.approved, Option.getD_none]

/-- A reader that has kept licenses without approving any does not change any more. -/
theorem Unapproved.afterRequests_eq (hunapproved : reader.Unapproved licenses)
    (requests : List Request) : reader.afterRequests requests = reader := by
  have hrequest (request : Request) : reader.afterRequest request = reader := by
    obtain ⟨hlicenses, happroved⟩ := hunapproved.returns
    cases request with
    | kinds =>
      obtain ⟨document, hdocument, hdone, _⟩ := hunapproved.families
      exact congrArg Prod.snd (returns_readKinds_of_drop_nil hdocument hdone)
    | licenses => exact congrArg Prod.snd hlicenses
    | approved => exact congrArg Prod.snd happroved
  induction requests with
  | nil => rfl
  | cons request rest ih =>
    have hsplit : reader.afterRequests (request :: rest) =
        (reader.afterRequest request).afterRequests rest := rfl
    rw [hsplit, hrequest, ih]

/-- After a fault the licenses and the approved categories cannot be had any more, as long as
nothing is added, with one exception: where the fault is about an approved family, the licenses have
been kept. They are returned from then on, and no category is approved. Assumes: a reader to which
anything has been done, and a request that raises a fault. -/
theorem failed_load_stays_failed_or_unapproved (catalogue : Catalogue) (kinds : KindTable)
    (actions : List Action)
    (hraises :
      Raises readLicenses (({ catalogue, kinds } : Reader).afterActions actions) fault reader' ∨
        Raises approvedCategories (({ catalogue, kinds } : Reader).afterActions actions) fault
          reader') :
    (reader'.licenses = none ∧ ∀ requests, (reader'.afterRequests requests).Fails) ∨
      ∃ licenses document, reader'.licenses = some licenses ∧ reader'.document = some document ∧
        (∃ node ∈ document.families, ¬node.Approves (licenses.map License.id)) ∧
        ∀ requests, Returns readLicenses (reader'.afterRequests requests) licenses reader' ∧
          Returns approvedCategories (reader'.afterRequests requests) [] reader' := by
  have husable := (usable_new catalogue kinds).afterActions actions
  generalize (({ catalogue, kinds } : Reader).afterActions actions) = reader at hraises husable
  have hread : Raises readLicenses reader fault reader' := by
    rcases hraises with hread | happroved
    · exact hread
    · exact (raises_approvedCategories_iff.mp happroved).2
  obtain ⟨document, hwaiting⟩ := husable.waiting (licenses_of_raises_readLicenses hread)
  rcases doomed_or_unapproved hwaiting hread with hdoomed | ⟨licenses, hunapproved⟩
  · obtain ⟨_, hdoomedWaiting, _⟩ := id hdoomed
    exact .inl ⟨hdoomedWaiting.licenses, fun requests ↦ (hdoomed.afterRequests requests).fails⟩
  · obtain ⟨given, hgiven, _, hfamily⟩ := hunapproved.families
    refine .inr ⟨licenses, given, hunapproved.kept, hgiven, hfamily, fun requests ↦ ?_⟩
    rw [hunapproved.afterRequests_eq requests]
    exact hunapproved.returns

/-- A reader that has been given a license that refers to nothing. -/
def danglingReader : Reader :=
  let reference : Node := { tag := "matcher_ref", attributes := [("refid", "u")] }
  let root : Node := { tag := "not", attributes := [("id", "t")], children := [reference] }
  let license : Node :=
    { tag := "license", attributes := [("id", "A"), ("name", "Alpha")], children := [root] }
  ({} : Reader).afterActions [.add { licenses := [license] }]

end Requests

section Sample

open Sample

/-- First the reference is refused, and from then on the identifier around it. -/
theorem failed_load_stays_failed_dangling :
    Raises readLicenses danglingReader (.of (.idUnknown "u") "" "matcher_ref")
        (danglingReader.afterRequest .licenses) ∧
      (readLicenses.run.run (danglingReader.afterRequest .licenses)).1 =
        .error (.of (.idTaken "t") "" "not") ∧
      ∀ requests, ((danglingReader.afterRequest .licenses).afterRequests requests).Fails := by
  have hfault : (readLicenses.run.run danglingReader).1 =
      .error (.of (.idUnknown "u") "" "matcher_ref") := by
    cbv
  have hagain : (readLicenses.run.run (danglingReader.afterRequest .licenses)).1 =
      .error (.of (.idTaken "t") "" "not") := by
    cbv
  have hraises : Raises readLicenses danglingReader (.of (.idUnknown "u") "" "matcher_ref")
      (danglingReader.afterRequest .licenses) :=
    Prod.ext hfault rfl
  refine ⟨hraises, hagain, ?_⟩
  rcases failed_load_stays_failed_or_unapproved {} .builtIn _ (.inl hraises) with
    ⟨_, hfails⟩ | ⟨licenses, _, hlicenses, _⟩
  · exact hfails
  · have hreturns := returns_readLicenses_of_some hlicenses
    rw [congrArg Prod.fst hreturns] at hagain
    cases hagain

/-- A reader that has been given a license and an approved family that is none. -/
def unknownFamilyReader : Reader :=
  let root : Node := { tag := "text", text := "Foo" }
  let license : Node :=
    { tag := "license", attributes := [("id", "A"), ("name", "Alpha")], children := [root] }
  let family : Node := { tag := "family", attributes := [("license_ref", "B")] }
  ({} : Reader).afterActions [.add { licenses := [license], families := [family] }]

/-- After the fault the license is returned as if nothing had happened, and nothing is approved. -/
theorem returns_after_unknown_family :
    Raises readLicenses unknownFamilyReader (.of (.licenseUnknown "B") "" "family")
        (unknownFamilyReader.afterRequest .licenses) ∧
      (readLicenses.run.run (unknownFamilyReader.afterRequest .licenses)).1 =
        .ok [⟨⟨"A", "Alpha"⟩, .leaf none (.literal "Foo") .unknown, none, none⟩] ∧
      (approvedCategories.run.run (unknownFamilyReader.afterRequest .licenses)).1 = .ok [] := by
  have hfault : (readLicenses.run.run unknownFamilyReader).1 =
      .error (.of (.licenseUnknown "B") "" "family") := by
    cbv
  have hlicenses : (readLicenses.run.run (unknownFamilyReader.afterRequest .licenses)).1 =
      .ok [⟨⟨"A", "Alpha"⟩, .leaf none (.literal "Foo") .unknown, none, none⟩] := by
    cbv
  have happroved :
      (approvedCategories.run.run (unknownFamilyReader.afterRequest .licenses)).1 = .ok [] := by
    cbv
  exact ⟨Prod.ext hfault rfl, hlicenses, happroved⟩

end Sample

end Reader

end LicenseHeaders
