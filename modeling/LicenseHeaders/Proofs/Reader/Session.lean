import LicenseHeaders.Proofs.Reader.Ownership
import LicenseHeaders.Proofs.Reader.Retry
import LicenseHeaders.Sample

/-!
# Licenses that have been given out

Whoever has read the licenses of a reader may call them in any order, and go on using the reader. A
registered matcher in the tree of a license is the one that the reader holds for its identifier, so
a call changes the reader, and a change of the reader would be seen in every tree that mentions the
matcher (`Reader.callAt`).

It is seen in no other tree. A reader gives out licenses that it holds (`Reader.Gives`): this is so
once they are read, whatever has failed before (`Reader.inOrder_afterActions`), and every call keeps
it and changes one license only (`Reader.Gives.callAt`). So each license becomes what its own calls
make of it (`Reader.Gives.license?_afterMoves`), and by `Reader.licenses_stay_apart` no license has
an influence on another one or on the matchers that are declared there.
-/

set_option autoImplicit false
set_option relaxedAutoImplicit false

namespace LicenseHeaders

/-- What may be done to a reader and to the licenses that it has given out. -/
inductive Move where
  | act (action : Action)
  | call (place : Nat) (call : Matcher.Call)

/-- The declarations of licenses that are added. -/
def Action.licenses : Action → List Node
  | .add document => document.licenses
  | .plugIn _ _ => []
  | .ask _ => []

/-- The calls of the license at a place. -/
def Move.callsAt (place : Nat) : List Move → List Matcher.Call
  | [] => []
  | .act _ :: rest => callsAt place rest
  | .call called made :: rest =>
    if called = place then made :: callsAt place rest else callsAt place rest

/-- Of calls of one license, all are at its place and none at another. -/
theorem Move.callsAt_map_call (place called : Nat) (calls : List Matcher.Call) :
    Move.callsAt place (calls.map (.call called)) = if called = place then calls else [] := by
  induction calls with
  | nil => exact (ite_self []).symm
  | cons call rest ih =>
    rw [List.map_cons, Move.callsAt, ih]
    split <;> rfl

theorem License.names_call (license : License) (call : Matcher.Call) :
    (license.call call).2.matcher.names = license.matcher.names := by
  rw [License.call_eq]
  exact Matcher.names_call license.matcher call

/-- What is held for an identifier after something has been taken over: what was taken over for it,
or what was held before with what was taken over in it. -/
theorem Identifiers.lookup_renew (identifiers : Identifiers) (table : List (String × Matcher))
    (id : String) :
    (identifiers.renew table).built.lookup id =
      (identifiers.built.lookup id).map fun matcher ↦
        (table.lookup id).getD (matcher.renewed table) := by
  have hrenewed : (identifiers.renew table).built = identifiers.built.map fun entry ↦
      (entry.1, (table.lookup entry.1).getD (entry.2.renewed table)) := by
    rw [renew]
    refine List.map_congr_left fun ⟨key, matcher⟩ _ ↦ ?_
    dsimp only
    cases table.lookup key <;> rfl
  rw [hrenewed]
  induction identifiers.built with
  | nil => rfl
  | cons entry rest ih =>
    obtain ⟨key, matcher⟩ := entry
    by_cases hkey : id = key
    · subst hkey
      rw [List.map_cons, List.lookup_cons_self, List.lookup_cons_self, Option.map_some]
    · have hbeq : (id == key) = false := beq_false_of_ne hkey
      simp only [List.map_cons, List.lookup_cons, hbeq, ih]

namespace Reader

/-! ### Calls of licenses that have been read -/

/-- The license at a place among those that have been read. -/
def license? (reader : Reader) (place : Nat) : Option License :=
  reader.licenses.bind (·[place]?)

/-- A reader after a call of the license at a place: what becomes of the registered matchers in its
tree is seen in the reader and in all licenses. -/
def callAt (reader : Reader) (place : Nat) (call : Matcher.Call) : Reader :=
  match reader.license? place with
  | none => reader
  | some license =>
    let called := (license.call call).2
    let changed : Reader :=
      { reader with licenses := reader.licenses.map fun licenses ↦ licenses.set place called }
    changed.renew called.matcher.named

/-- A reader after a move. -/
def afterMove [Installation] (reader : Reader) : Move → Reader
  | .act action => reader.afterAction action
  | .call place call => reader.callAt place call

/-- A reader after moves, one after the other. -/
def afterMoves [Installation] (reader : Reader) (moves : List Move) : Reader :=
  moves.foldl afterMove reader

/-- What calls of the license at a place return. -/
def answersAt (reader : Reader) (place : Nat) : List Matcher.Call → List (Option Verdict)
  | [] => []
  | call :: rest =>
    match reader.license? place with
    | none => []
    | some license => (license.call call).1 :: (reader.callAt place call).answersAt place rest

/-- A reader gives out licenses: they have been read from some of the given declarations, and it
holds them. -/
structure Gives (given : List Node) (reader : Reader) (licenses : List License) : Prop where
  kept : reader.licenses = some licenses
  holds : reader.Holds licenses
  owned : ∀ license ∈ licenses, ∃ node ∈ given, node.Owns license

section Calls

variable {given : List Node} {reader : Reader} {licenses : List License}

theorem Gives.license?_eq (hgives : reader.Gives given licenses) (place : Nat) :
    reader.license? place = licenses[place]? := by
  rw [license?, hgives.kept, Option.bind_some]

/-- A call changes the license at its place alone. -/
theorem Gives.licenses_callAt (hgives : reader.Gives given licenses) (place : Nat)
    (call : Matcher.Call) :
    (reader.callAt place call).licenses =
      some (licenses.modify place fun license ↦ (license.call call).2) := by
  rw [callAt, hgives.license?_eq]
  cases hplace : licenses[place]? with
  | none =>
    have hlength : licenses.length ≤ place := List.getElem?_eq_none_iff.mp hplace
    rw [hgives.kept, List.modify_eq_self hlength]
  | some license =>
    have hnames := License.names_call license call
    have hmatcher : (licenses.map License.matcher)[place]? = some license.matcher := by
      rw [List.getElem?_map, hplace, Option.map_some]
    simp only [renew, hgives.kept, Option.map_some, Option.some.injEq]
    refine List.ext_getElem? fun other ↦ ?_
    rw [List.getElem?_map]
    by_cases hother : place = other
    · subst hother
      have hlength := (List.getElem?_eq_some_iff.mp hplace).1
      have hnodup := hgives.holds.apart.nodup_names (List.mem_of_getElem? hmatcher)
      rw [List.getElem?_modify_eq, List.getElem?_set_self hlength, hplace, Option.map_some,
        License.renew, Matcher.renewed_named (hnames ▸ hnodup)]
      rfl
    · rw [List.getElem?_modify_ne _ _ hother, List.getElem?_set_ne hother]
      cases hfound : licenses[other]? with
      | none => rfl
      | some found =>
        have hfoundMatcher : (licenses.map License.matcher)[other]? = some found.matcher := by
          rw [List.getElem?_map, hfound, Option.map_some]
        have hdisjoint := hgives.holds.apart.disjoint (Ne.symm hother) hfoundMatcher hmatcher
        rw [Option.map_some, License.renew,
          Matcher.renewed_of_disjoint (hnames ▸ hdisjoint)]

/-- After a call the registered matchers are still those that the reader holds. -/
theorem Gives.registered_callAt (hgives : reader.Gives given licenses) (place : Nat)
    (call : Matcher.Call) :
    ∀ license ∈ licenses.modify place fun license ↦ (license.call call).2,
      ∀ entry ∈ license.matcher.named,
        (reader.callAt place call).identifiers.built.lookup entry.1 = some entry.2 := by
  intro license hlicense entry hentry
  rw [callAt, hgives.license?_eq]
  cases hplace : licenses[place]? with
  | none =>
    rw [List.modify_eq_self (List.getElem?_eq_none_iff.mp hplace)] at hlicense
    exact hgives.holds.registered license hlicense entry hentry
  | some called =>
    have hnames := License.names_call called call
    have hmatcher : (licenses.map License.matcher)[place]? = some called.matcher := by
      rw [List.getElem?_map, hplace, Option.map_some]
    simp only [renew, Identifiers.lookup_renew]
    rcases mem_modify hlicense with ⟨found, hfound, rfl⟩ | ⟨other, hother, hfound⟩
    · -- In the tree that was called everything has been taken over.
      cases hplace.symm.trans hfound
      have hnodup : (called.call call).2.matcher.names.Nodup :=
        hnames ▸ hgives.holds.apart.nodup_names (List.mem_of_getElem? hmatcher)
      have hname : entry.1 ∈ called.matcher.names := hnames ▸ List.mem_map_of_mem hentry
      obtain ⟨before, hbefore, hsame⟩ := List.mem_map.mp hname
      have hheld := hgives.holds.registered called (List.mem_of_getElem? hplace) before hbefore
      rw [hsame] at hheld
      rw [hheld, Option.map_some, lookup_of_mem hnodup hentry, Option.getD_some]
    · -- In another tree nothing is known of what was called.
      have hfoundMatcher : (licenses.map License.matcher)[other]? = some license.matcher := by
        rw [List.getElem?_map, hfound, Option.map_some]
      have hdisjoint : List.Disjoint license.matcher.names (called.call call).2.matcher.names :=
        hnames ▸ hgives.holds.apart.disjoint hother hfoundMatcher hmatcher
      have hnone : (called.call call).2.matcher.named.lookup entry.1 = none := by
        rw [Option.eq_none_iff_forall_ne_some]
        intro current hcurrent
        exact hdisjoint (List.mem_map_of_mem hentry) (exists_lookup_iff.mp ⟨current, hcurrent⟩)
      have hinner : entry.2.names ⊆ license.matcher.names :=
        List.map_subset _ fun inner hinner ↦
          Matcher.named_of_mem_named entry hentry inner hinner
      have hrenewed : entry.2.renewed (called.call call).2.matcher.named = entry.2 :=
        Matcher.renewed_of_disjoint (List.disjoint_of_subset_left hinner hdisjoint)
      rw [hgives.holds.registered license (List.mem_of_getElem? hfound) entry hentry,
        Option.map_some, hnone, Option.getD_none, hrenewed]

/-- A reader gives out licenses after a call as before. -/
theorem Gives.callAt (hgives : reader.Gives given licenses) (place : Nat) (call : Matcher.Call) :
    (reader.callAt place call).Gives given
      (licenses.modify place fun license ↦ (license.call call).2) := by
  refine ⟨hgives.licenses_callAt place call, ⟨?_, hgives.registered_callAt place call⟩, ?_⟩
  · have hnames : List.Forall₂ (fun first second ↦ second.names = first.names)
        (licenses.map License.matcher)
        ((licenses.modify place fun license ↦ (license.call call).2).map License.matcher) := by
      rw [List.forall₂_map_left_iff, List.forall₂_map_right_iff, List.forall₂_iff_get]
      refine ⟨(List.length_modify ..).symm, fun other hbefore hafter ↦ ?_⟩
      simp only [List.get_eq_getElem, List.getElem_modify]
      split
      · exact License.names_call _ call
      · rfl
    rw [Matcher.Apart, Matcher.namesEach_eq_of_forall₂ hnames]
    exact hgives.holds.apart
  · intro license hlicense
    rcases mem_modify hlicense with ⟨found, hfound, rfl⟩ | ⟨other, _, hfound⟩
    · obtain ⟨node, hnode, howns⟩ := hgives.owned found (List.mem_of_getElem? hfound)
      refine ⟨node, hnode, ?_, ?_⟩
      · rw [License.call_eq]
        exact howns.category
      · rw [License.names_call]
        exact howns.names
    · exact hgives.owned license (List.mem_of_getElem? hfound)

/-- Calls of a license that has been given out are answered as calls of the license itself. -/
theorem Gives.answersAt_eq (hgives : reader.Gives given licenses) {place : Nat} {license : License}
    (hlicense : reader.license? place = some license) (calls : List Matcher.Call) :
    reader.answersAt place calls = license.answers calls := by
  induction calls generalizing reader licenses license with
  | nil => rfl
  | cons call rest ih =>
    have hafter : (reader.callAt place call).license? place = some (license.call call).2 := by
      rw [hgives.license?_eq] at hlicense
      rw [(hgives.callAt place call).license?_eq, List.getElem?_modify_eq, hlicense]
      rfl
    rw [answersAt, hlicense, License.answers, ← ih (hgives.callAt place call) hafter]

end Calls

/-! ### A reader that is used on -/

section Moves

variable {given : List Node} {reader : Reader} {licenses : List License}

/-- Whatever is done to a reader that has read its licenses, the licenses and what it holds for
identifiers stay the same. -/
theorem afterAction_of_some [Installation] (hsome : reader.licenses = some licenses)
    (action : Action) :
    (reader.afterAction action).licenses = some licenses ∧
      (reader.afterAction action).identifiers = reader.identifiers := by
  have hlicenses : reader.afterRequest .licenses = reader :=
    congrArg Prod.snd (returns_readLicenses_of_some hsome)
  cases action with
  | add document =>
    rw [afterAction, add, run_get_bind]
    cases reader.document with
    | none => exact ⟨hsome, rfl⟩
    | some before => exact ⟨hsome, rfl⟩
  | plugIn name kind =>
    rw [afterAction]
    split
    · exact ⟨hsome, rfl⟩
    · exact ⟨hsome, rfl⟩
  | ask request =>
    rw [afterAction]
    cases request with
    | kinds =>
      have hunmoved := keeps_unmoved_readKinds reader reader (Unmoved.refl reader)
      exact ⟨hunmoved.licenses.trans hsome, hunmoved.identifiers⟩
    | licenses =>
      rw [hlicenses]
      exact ⟨hsome, rfl⟩
    | approved =>
      rcases afterRequest_approved reader with hsame | ⟨_, hsame⟩
      · rw [hsame]
        exact ⟨hsome, rfl⟩
      · rw [hsame, hlicenses]
        exact ⟨hsome, rfl⟩

theorem Gives.of_same {other : Reader} {more : List Node} (hgives : reader.Gives given licenses)
    (hkept : other.licenses = some licenses) (hsame : other.identifiers = reader.identifiers)
    (hmore : given ⊆ more) : other.Gives more licenses := by
  refine ⟨hkept, ⟨hgives.holds.apart, ?_⟩, fun license hlicense ↦ ?_⟩
  · rw [hsame]
    exact hgives.holds.registered
  · obtain ⟨node, hnode, howns⟩ := hgives.owned license hlicense
    exact ⟨node, hmore hnode, howns⟩

variable [Installation]

theorem Gives.afterAction (hgives : reader.Gives given licenses) (action : Action) :
    (reader.afterAction action).Gives given licenses := by
  obtain ⟨hkept, hsame⟩ := afterAction_of_some hgives.kept action
  exact hgives.of_same hkept hsame (List.Subset.refl given)

/-- After any moves a reader gives out licenses, and each of them is what its own calls have made of
it, however the calls were interleaved with others. -/
theorem Gives.afterMoves (hgives : reader.Gives given licenses) (moves : List Move) :
    ∃ called, (reader.afterMoves moves).Gives given called ∧
      ∀ place : Nat, called[place]? =
        licenses[place]?.map (License.afterCalls · (Move.callsAt place moves)) := by
  induction moves generalizing reader licenses with
  | nil => exact ⟨licenses, hgives, fun place ↦ Option.map_id'.symm⟩
  | cons move rest ih =>
    cases move with
    | act action => exact ih (hgives.afterAction action)
    | call changed call =>
      obtain ⟨called, hcalled, hplaces⟩ := ih (hgives.callAt changed call)
      refine ⟨called, hcalled, fun place ↦ ?_⟩
      rw [hplaces, Move.callsAt]
      by_cases hplace : changed = place
      · rw [if_pos hplace, hplace, List.getElem?_modify_eq]
        cases licenses[place]? <;> rfl
      · rw [if_neg hplace, List.getElem?_modify_ne _ _ hplace]

theorem Gives.license?_afterMoves (hgives : reader.Gives given licenses) (moves : List Move)
    (place : Nat) :
    (reader.afterMoves moves).license? place =
      (reader.license? place).map (License.afterCalls · (Move.callsAt place moves)) := by
  obtain ⟨called, hcalled, hplaces⟩ := hgives.afterMoves moves
  rw [hcalled.license?_eq, hplaces, hgives.license?_eq]

end Moves

/-! ### How licenses come to be given out -/

/-- A reader that has read no licenses from its document. It may have declared some of the
identifiers that are written there, if it has tried before. -/
structure Pending [Installation] (given : List Node) (reader : Reader) (document : Document) :
    Prop where
  waiting : reader.Waiting document
  among : DeclaresAmong document.ids reader
  given : document.licenses ⊆ given

/-- A reader gives out licenses if it has read any, and can still read some if it has not. -/
structure InOrder [Installation] (given : List Node) (reader : Reader) : Prop where
  pending : reader.licenses = none → ∃ document, reader.Pending given document
  gives : ∀ licenses, reader.licenses = some licenses → reader.Gives given licenses

section InOrder

variable {given : List Node} {reader bound read built reader' : Reader} {document : Document}
  {licenses made : List License} {drafts : List (Node × LicenseDraft)} [Installation]

theorem Pending.inOrder (hpending : reader.Pending given document) : reader.InOrder given := by
  refine ⟨fun _ ↦ ⟨document, hpending⟩, fun licenses hsome ↦ ?_⟩
  cases hpending.waiting.licenses.symm.trans hsome

theorem Gives.inOrder (hgives : reader.Gives given licenses) : reader.InOrder given := by
  refine ⟨fun hnone ↦ ?_, fun others hothers ↦ ?_⟩
  · cases hnone.symm.trans hgives.kept
  · cases hgives.kept.symm.trans hothers
    exact hgives

theorem Pending.of_unmoved (hpending : reader.Pending given document)
    (hunmoved : reader.Unmoved reader') : reader'.Pending given document := by
  refine ⟨hpending.waiting.of_unmoved hunmoved, ?_, hpending.given⟩
  rw [DeclaresAmong, declaredIds, hunmoved.identifiers]
  exact hpending.among

/-- Licenses that have been built are given out in order. -/
theorem Pending.gives (hpending : bound.Pending given document)
    (hread : Returns (readEachLicense document.licenses) bound drafts read)
    (hbuild : Returns (buildLicenses [] drafts) read made built)
    (hkept : reader'.licenses = some (License.sort made))
    (hsame : reader'.identifiers = built.identifiers) :
    reader'.Gives given (License.sort made) := by
  have hperm : (License.sort made).Perm made := List.mergeSort_perm made _
  have hamong := hpending.among
  rw [Document.ids_eq_flatMap] at hamong
  obtain ⟨hholds, howns⟩ :=
    holds_of_returns_buildLicenses hpending.waiting.sound hamong hread hbuild
  refine ⟨hkept, ⟨?_, ?_⟩, ?_⟩
  · have hnames := (hperm.map License.matcher).flatMap_right Matcher.names
    exact hnames.nodup_iff.mpr hholds.apart
  · rw [hsame]
    exact fun license hlicense ↦ hholds.registered license (hperm.mem_iff.mp hlicense)
  · intro license hlicense
    obtain ⟨node, hnode, hown⟩ := exists_of_mem_of_forall₂ howns.flip (hperm.mem_iff.mp hlicense)
    exact ⟨node, hpending.given hnode, hown⟩

theorem licenses_of_returns_readLicenses (hreturns : Returns readLicenses reader licenses reader') :
    reader'.licenses = some licenses := by
  cases hlicenses : reader.licenses with
  | some kept =>
    cases hreturns.symm.trans (returns_readLicenses_of_some hlicenses)
    exact hlicenses
  | none =>
    obtain ⟨_, _, _, _, _, _, _, _, _, _, rfl, rfl⟩ :=
      (returns_readLicenses_iff hlicenses).mp hreturns
    rfl

/-- A reader that has not got beyond reading and building licenses can still read some. -/
theorem Pending.inOrder_of_raises (hpending : bound.Pending given document) {fault : Fault}
    (hraises : Raises (readEachLicense document.licenses) bound fault reader' ∨
      ∃ drafts read, Returns (readEachLicense document.licenses) bound drafts read ∧
        Raises (buildLicenses [] drafts) read fault reader') :
    reader'.InOrder given := by
  have hids : ∀ id ∈ document.licenses.flatMap Node.heldIds, id ∈ document.ids := by
    rw [← Document.ids_eq_flatMap]
    exact fun id hid ↦ hid
  have hkeeps := keeps_declaresAmong_readEachLicense hids
  rcases hraises with hread | ⟨drafts, read, hread, hbuild⟩
  · have hamong := hkeeps.of_raises hpending.among hread
    obtain ⟨added, rfl⟩ := (framed_readEachLicense document.licenses).of_raises hread
    exact Pending.inOrder ⟨hpending.waiting.declaring added, hamong, hpending.given⟩
  · have hamong := hkeeps.of_returns hpending.among hread
    obtain ⟨added, rfl, _⟩ := (framed_readEachLicense document.licenses).of_returns hread
    have hwaiting := hpending.waiting.declaring added
    have hbuilds := (keeps_builds_buildLicenses (bound.declaring added) [] drafts).of_raises
      (Builds.refl hwaiting.sound) hbuild
    have hbuilt := hwaiting.of_builds hbuilds
    obtain ⟨table, rfl, _⟩ := hbuilds
    exact Pending.inOrder ⟨hbuilt, hamong, hpending.given⟩

/-- Reading licenses leaves a reader in order, whether it fails or not. -/
theorem keeps_inOrder_readLicenses : Keeps (InOrder given) readLicenses := by
  have hkinds {before after : Reader} {document : Document}
      (hpending : before.Pending given document) (hreturns : Returns readKinds before () after) :
      after.Pending given document :=
    hpending.of_unmoved
      ((keeps_unmoved_readKinds before).of_returns (Unmoved.refl before) hreturns)
  refine keeps_of_outcomes ?_ ?_
  · intro before licenses after hordered hreturns
    cases hlicenses : before.licenses with
    | some kept =>
      cases hreturns.symm.trans (returns_readLicenses_of_some hlicenses)
      exact hordered
    | none =>
      obtain ⟨document, hpending⟩ := hordered.pending hlicenses
      obtain ⟨bound, hbound, drafts, read, hread, made, built, hbuild, approved, _, rfl, rfl⟩ :=
        (returns_readLicenses_iff hlicenses).mp hreturns
      have hpending := hkinds hpending hbound
      rw [hpending.waiting.document, Option.getD_some] at hread
      have hgives : (built.finished (bound.document.getD {}) (License.sort made) approved).Gives
          given (License.sort made) :=
        hpending.gives hread hbuild rfl rfl
      exact hgives.inOrder
  · intro before fault after hordered hraises
    have hlicenses := licenses_of_raises_readLicenses hraises
    obtain ⟨document, hpending⟩ := hordered.pending hlicenses
    rcases (raises_readLicenses_iff hlicenses).mp hraises with hraises | ⟨bound, hbound, hraises⟩
    · exact (hpending.of_unmoved ((keeps_unmoved_readKinds before).of_raises
        (Unmoved.refl before) hraises)).inOrder
    have hpending := hkinds hpending hbound
    rw [hpending.waiting.document, Option.getD_some] at hraises
    rcases hraises with hread | ⟨drafts, read, hread, hbuild | ⟨made, built, hbuild, _, rfl⟩⟩
    · exact hpending.inOrder_of_raises (.inl hread)
    · exact hpending.inOrder_of_raises (.inr ⟨drafts, read, hread, hbuild⟩)
    · -- The licenses have been kept, although a family is refused.
      have hgives : ({ built with licenses := some (License.sort made) } : Reader).Gives given
          (License.sort made) :=
        hpending.gives hread hbuild rfl rfl
      exact hgives.inOrder

theorem inOrder_new (catalogue : Catalogue) (kinds : KindTable) :
    ({ catalogue, kinds } : Reader).InOrder [] := by
  have hpending : ({ catalogue, kinds } : Reader).Pending [] {} :=
    ⟨⟨rfl, rfl, rfl, nofun⟩, nofun, List.Subset.refl []⟩
  exact hpending.inOrder

theorem InOrder.afterAction (hordered : reader.InOrder given) (action : Action) :
    (reader.afterAction action).InOrder (given ++ action.licenses) := by
  have hmore : given ⊆ given ++ action.licenses := List.subset_append_left ..
  cases hlicenses : reader.licenses with
  | some licenses =>
    obtain ⟨hkept, hsame⟩ := afterAction_of_some hlicenses action
    exact ((hordered.gives licenses hlicenses).of_same hkept hsame hmore).inOrder
  | none =>
    obtain ⟨document, hpending⟩ := hordered.pending hlicenses
    have hwaiting := hpending.waiting
    cases action with
    | add added =>
      have hids : (document.merge added).ids = document.ids ++ added.ids := by
        simp only [Document.ids_eq_flatMap, Document.merge, List.flatMap_append]
      rw [Reader.afterAction, add, run_get_bind, hwaiting.document]
      have hmerged : ({ reader with document := some (document.merge added) } : Reader).Pending
          (given ++ added.licenses) (document.merge added) := by
        refine ⟨⟨hwaiting.licenses, hwaiting.approved, rfl, hwaiting.sound⟩, ?_, ?_⟩
        · rw [hids]
          exact fun id hid ↦ List.mem_append_left _ (hpending.among id hid)
        · exact List.append_subset.mpr ⟨fun node hnode ↦ hmore (hpending.given hnode),
            List.subset_append_right ..⟩
      exact hmerged.inOrder
    | plugIn name kind =>
      rw [Action.licenses, List.append_nil, Reader.afterAction]
      rcases (reader.catalogue.register name kind).1 with _ | catalogue
      · exact hordered
      · have hunmoved : reader.Unmoved { reader with catalogue } := ⟨rfl, rfl, rfl, rfl⟩
        exact (hpending.of_unmoved hunmoved).inOrder
    | ask request =>
      have hread : (reader.afterRequest .licenses).InOrder given :=
        keeps_inOrder_readLicenses reader hordered
      rw [Action.licenses, List.append_nil, Reader.afterAction]
      cases request with
      | kinds =>
        exact (hpending.of_unmoved
          (keeps_unmoved_readKinds reader reader (Unmoved.refl reader))).inOrder
      | licenses => exact hread
      | approved =>
        rcases afterRequest_approved reader with hsame | ⟨_, hsame⟩
        · rw [hsame]
          exact hordered
        · rw [hsame]
          exact hread

/-- Whatever has been done to a reader, it gives out the licenses that it has read. -/
theorem InOrder.afterActions (hordered : reader.InOrder given) (actions : List Action) :
    (reader.afterActions actions).InOrder (given ++ actions.flatMap Action.licenses) := by
  induction actions generalizing reader given with
  | nil => rw [List.flatMap_nil, List.append_nil]; exact hordered
  | cons action rest ih =>
    rw [List.flatMap_cons, ← List.append_assoc]
    exact ih (hordered.afterAction action)

end InOrder

/-! ### No influence -/

/-- Licenses of one reader never influence each other. After anything that has been done to the
reader and to its licenses, calls of the license at one place leave the license at another place as
it was: it answers later calls as it would have done, and what the reader holds for the identifiers
that are declared in it is the same. The license that was called has become what the calls make of
it by itself, and before and after them the reader holds for each identifier that is declared in it
the very matcher in its tree. Assumes: a reader to which anything has been done, and that returns
its licenses. -/
theorem licenses_stay_apart [Installation] (catalogue : Catalogue) (kinds : KindTable)
    (actions : List Action) {licenses : List License} {reader : Reader}
    (hreturns : Returns readLicenses (({ catalogue, kinds } : Reader).afterActions actions) licenses
      reader)
    (moves : List Move) (calls : List Matcher.Call) {first second : Nat} (hne : first ≠ second)
    {called other : License} (hcalled : (reader.afterMoves moves).license? first = some called)
    (hother : (reader.afterMoves moves).license? second = some other) :
    let before := reader.afterMoves moves
    let after := before.afterMoves (calls.map (.call first))
    reader.licenses = some licenses ∧
      (∃ node ∈ actions.flatMap Action.licenses, node.Owns called) ∧
      (∃ node ∈ actions.flatMap Action.licenses, node.Owns other) ∧
      after.license? first = some (called.afterCalls calls) ∧
      after.license? second = some other ∧
      (∀ later, after.answersAt second later = before.answersAt second later) ∧
      (∀ id ∈ other.matcher.names,
        after.identifiers.built.lookup id = before.identifiers.built.lookup id) ∧
      (∀ entry ∈ called.matcher.named, before.identifiers.built.lookup entry.1 = some entry.2) ∧
      ∀ entry ∈ (called.afterCalls calls).matcher.named,
        after.identifiers.built.lookup entry.1 = some entry.2 := by
  intro before after
  have hordered := keeps_inOrder_readLicenses.of_returns
    ((inOrder_new catalogue kinds).afterActions actions) hreturns
  have hkept := licenses_of_returns_readLicenses hreturns
  have hgives := hordered.gives licenses hkept
  rw [List.nil_append] at hgives
  obtain ⟨shown, hbefore, _⟩ := hgives.afterMoves moves
  obtain ⟨reshown, hafter, hplaces⟩ := hbefore.afterMoves (calls.map (.call first))
  have hfirst : after.license? first = some (called.afterCalls calls) := by
    rw [hbefore.license?_afterMoves, hcalled, Move.callsAt_map_call, if_pos rfl, Option.map_some]
  have hsecond : after.license? second = some other := by
    rw [hbefore.license?_afterMoves, hother, Move.callsAt_map_call, if_neg hne, Option.map_some]
    rfl
  have hmem {reader : Reader} {licenses : List License} {place : Nat} {license : License}
      (hgives : reader.Gives (actions.flatMap Action.licenses) licenses)
      (hlicense : reader.license? place = some license) : license ∈ licenses :=
    List.mem_of_getElem? ((hgives.license?_eq place).symm.trans hlicense)
  refine ⟨hkept, hbefore.owned called (hmem hbefore hcalled),
    hbefore.owned other (hmem hbefore hother), hfirst, hsecond, fun later ↦ ?_, fun id hid ↦ ?_,
    hbefore.holds.registered called (hmem hbefore hcalled),
    hafter.holds.registered _ (hmem hafter hfirst)⟩
  · rw [hafter.answersAt_eq hsecond, hbefore.answersAt_eq hother]
  · obtain ⟨entry, hentry, rfl⟩ := List.mem_map.mp hid
    rw [hafter.holds.registered other (hmem hafter hsecond) entry hentry,
      hbefore.holds.registered other (hmem hbefore hother) entry hentry]

/-- A reader that has been given two licenses, each of which refers to a matcher in the other. -/
def crossingReader [Installation] : Reader :=
  let license (category own text other : String) : Node :=
    { tag := "license", attributes := [("id", category), ("name", category)]
      children := [{ tag := "and"
                     children := [{ tag := "text", attributes := [("id", own)], text },
                       { tag := "matcher_ref", attributes := [("refid", other)] }] }] }
  ({} : Reader).afterActions [.add { licenses := [license "A" "x" "Foo" "y",
    license "B" "y" "Bar" "x"] }]

section Sample

open Sample

/-- One license finds its own text and that of the other, which has still found nothing. -/
theorem licenses_stay_apart_crossed :
    let reader := crossingReader.afterRequest .licenses
    let word (id text : String) (verdict : Verdict) : Matcher :=
      .leaf (some id) (.literal text) verdict
    let license (category own text other otherText : String) : License :=
      ⟨⟨category, category⟩, .all none [.registered own (word own text .unknown),
        .reference none other (word other otherText .unknown)], none, none⟩
    let first := license "A" "x" "Foo" "y" "Bar"
    let second := license "B" "y" "Bar" "x" "Foo"
    let calls := [Matcher.Call.feed "Foo Bar".toList]
    let after := reader.afterMoves (calls.map (.call 0))
    Returns readLicenses crossingReader [first, second] reader ∧
      after.license? 0 = some (first.afterCalls calls) ∧ after.license? 1 = some second ∧
      (∀ later, after.answersAt 1 later = reader.answersAt 1 later) ∧
      reader.identifiers.built.lookup "y" = some (word "y" "Bar" .unknown) ∧
      after.identifiers.built.lookup "y" = reader.identifiers.built.lookup "y" ∧
      after.identifiers.built.lookup "x" = some (word "x" "Foo" .holds) := by
  have hbuilt : (crossingReader.afterRequest .licenses).identifiers.built.lookup "y" =
      some (.leaf (some "y") (.literal "Bar") .unknown) := by
    cbv
  intro reader word license first second calls after
  have hread : (readLicenses.run.run crossingReader).1 = .ok [first, second] := by cbv
  have hreturns : Returns readLicenses crossingReader [first, second] reader :=
    Prod.ext hread rfl
  have hkept : reader.licenses = some [first, second] := licenses_of_returns_readLicenses hreturns
  have hfirst : (reader.afterMoves []).license? 0 = some first :=
    congrArg (Option.bind · (·[0]?)) hkept
  have hsecond : (reader.afterMoves []).license? 1 = some second :=
    congrArg (Option.bind · (·[1]?)) hkept
  obtain ⟨_, _, _, hcalled, hother, hanswers, hheld, _, hregistered⟩ :=
    licenses_stay_apart {} .builtIn _ hreturns [] calls Nat.zero_ne_one hfirst hsecond
  have hx : ("x", word "x" "Foo" .holds) ∈ (first.afterCalls calls).matcher.named := by
    have hnamed : (first.afterCalls calls).matcher.named = [("x", word "x" "Foo" .holds)] := by cbv
    rw [hnamed]
    exact List.mem_singleton_self _
  exact ⟨hreturns, hcalled, hother, hanswers, hbuilt, hheld "y" (by decide), hregistered _ hx⟩

end Sample

end Reader

end LicenseHeaders
