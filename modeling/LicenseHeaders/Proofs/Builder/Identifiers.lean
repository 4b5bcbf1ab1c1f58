import LicenseHeaders.Proofs.Builder.Basic
import LicenseHeaders.Proofs.Effects

/-!
# Building with memory

Here building is related to `Builder.Builds`. A resolver is `Faithful` if it returns what the
declarations build and keeps the memory of built matchers `Sound`; it `Answers` an identifier if it
returns a matcher for it. With a faithful resolver a builder returns what it builds
(`Builder.build_faithful`), and it returns a matcher if it is valid and what it asks for is answered
(`Builder.build_answers`).

Both properties of `Identifiers.resolveWithin` are shown by induction on the steps that are left. It
is faithful with any chain and any number of steps. It answers an identifier whose matcher can be
had, if every identifier of the chain needs it: then it is not in the chain, since nothing that can
be had needs itself, and the chain is shorter than the list of declarations. The result is
`Identifiers.exists_returns_build_iff`.
-/

set_option autoImplicit false
set_option relaxedAutoImplicit false

namespace LicenseHeaders

open Text

namespace Builder

section Building

variable {resolve : String → Building Matcher} {before after : Built}

/-! ### The steps of building -/

theorem returns_lifted_iff {tag : String} {result : Except Fault Matcher} {matcher : Matcher} :
    Returns (lifted tag result) before matcher after ↔ result = .ok matcher ∧ after = before := by
  cases result with
  | ok built =>
    rw [lifted, returns_pure_iff, Except.ok.injEq]
    exact and_congr_left fun _ ↦ eq_comm
  | error fault => exact ⟨fun hreturn ↦ absurd hreturn not_returns_throw, nofun⟩

theorem returns_refer_iff {id : Option String} {name : String} {resolves : Bool}
    {matcher : Matcher} :
    Returns (refer resolve id name resolves) before matcher after ↔
      name ≠ "" ∧ resolves = true ∧ ∃ target, Returns (resolve name) before target after ∧
        matcher = .ofReference name target id := by
  unfold refer
  by_cases hname : name = ""
  · subst hname
    exact ⟨fun hreturn ↦ absurd hreturn not_returns_throw, fun hname ↦ absurd rfl hname.1⟩
  have hempty : ¬name.isEmpty = true := by simpa using hname
  rw [if_neg hempty]
  cases resolves with
  | false => exact ⟨fun hreturn ↦ absurd hreturn not_returns_throw, nofun⟩
  | true =>
    simp only [Bool.not_true, Bool.false_eq_true, if_false, returns_bind_iff, returns_pure_iff]
    constructor
    · rintro ⟨target, middle, hresolve, rfl, rfl⟩
      exact ⟨hname, trivial, target, hresolve, rfl⟩
    · rintro ⟨_, _, target, hresolve, rfl⟩
      exact ⟨target, after, hresolve, rfl, rfl⟩

theorem returns_buildEach_cons_iff [Installation] {builder : Builder} {rest : List Builder}
    {matchers : List Matcher} :
    Returns (buildEach resolve (builder :: rest)) before matchers after ↔
      ∃ matcher middle others, Returns (builder.build resolve) before matcher middle ∧
        Returns (buildEach resolve rest) middle others after ∧ matchers = matcher :: others := by
  rw [buildEach]
  simp only [returns_bind_iff, returns_pure_iff]
  constructor
  · rintro ⟨matcher, middle, hbuild, others, _, hrest, rfl, rfl⟩
    exact ⟨matcher, middle, others, hbuild, hrest, rfl⟩
  · rintro ⟨matcher, middle, others, hbuild, hrest, rfl⟩
    exact ⟨matcher, middle, hbuild, others, after, hrest, rfl, rfl⟩

/-- A combination is built if it has as many members as its kind must have, all of them are built
and they can be combined. -/
theorem returns_build_combination_iff [Installation] {kind : Kind} {id : Option String}
    {settings : List (String × String)} {text : String} {members : List Builder} {resolves : Bool}
    {matcher : Matcher} (hkind : kind.hasMembers = true) :
    Returns ((plain kind id settings text members resolves).build resolve) before matcher after ↔
      memberFault? kind members.length = none ∧
        ∃ matchers, Returns (buildEach resolve members) before matchers after ∧
          combine kind id matchers = .ok matcher := by
  rw [build, if_pos hkind]
  cases memberFault? kind members.length with
  | some fault => exact ⟨fun hreturn ↦ absurd hreturn not_returns_throw, nofun⟩
  | none =>
    simp only [returns_bind_iff, returns_lifted_iff]
    constructor
    · rintro ⟨matchers, middle, hmembers, hcombine, rfl⟩
      exact ⟨trivial, matchers, hmembers, hcombine⟩
    · rintro ⟨_, matchers, hmembers, hcombine⟩
      exact ⟨matchers, after, hmembers, hcombine, rfl⟩

theorem returns_build_leaf_iff [Installation] {kind : Kind} {id : Option String}
    {settings : List (String × String)} {text : String} {members : List Builder} {resolves : Bool}
    {matcher : Matcher} (hmembers : kind.hasMembers = false) (hreference : kind ≠ .reference) :
    Returns ((plain kind id settings text members resolves).build resolve) before matcher after ↔
      leaf kind id settings text = .ok matcher ∧ after = before := by
  rw [build, if_neg (Bool.eq_false_iff.mp hmembers), if_neg hreference]
  exact returns_lifted_iff

theorem returns_build_reference_iff [Installation] {id : Option String}
    {settings : List (String × String)} {text : String} {members : List Builder} {resolves : Bool}
    {matcher : Matcher} :
    Returns ((plain .reference id settings text members resolves).build resolve) before matcher
        after ↔
      refersTo settings ≠ "" ∧ resolves = true ∧
        ∃ target, Returns (resolve (refersTo settings)) before target after ∧
          matcher = .ofReference (refersTo settings) target id := by
  have hmembers : ¬Kind.reference.hasMembers = true := Bool.false_ne_true
  rw [build, if_neg hmembers, if_pos rfl]
  exact returns_refer_iff

end Building

/-! ### Resolvers -/

variable [Installation]

/-- What has been built for identifiers is what their declarations build. -/
def Sound (builders : List (String × Builder)) (built : Built) : Prop :=
  ∀ id matcher, built.lookup id = some matcher →
    ∃ builder, builders.lookup id = some builder ∧ Builds builders builder matcher

/-- What has been built stays sound when what a declaration builds is added. -/
theorem Sound.append {builders : List (String × Builder)} {built : Built}
    (hsound : Sound builders built) {id : String} {builder : Builder} {matcher : Matcher}
    (hlookup : builders.lookup id = some builder) (hbuilds : Builds builders builder matcher) :
    Sound builders (built ++ [(id, matcher)]) := by
  intro other otherMatcher hother
  rcases lookup_concat_iff.mp hother with hother | ⟨_, rfl, rfl⟩
  · exact hsound other otherMatcher hother
  · exact ⟨builder, hlookup, hbuilds⟩

/-- A resolver returns for an identifier what its declaration builds, and what has been built stays
sound. -/
def Faithful (builders : List (String × Builder)) (resolve : String → Building Matcher) : Prop :=
  ∀ id before matcher after, Sound builders before → Returns (resolve id) before matcher after →
    Sound builders after ∧ ∃ builder target, builders.lookup id = some builder ∧
      Builds builders builder target ∧ matcher = .registered id target

/-- A resolver returns a matcher for an identifier, whatever has been built soundly before. -/
def Answers (builders : List (String × Builder)) (resolve : String → Building Matcher)
    (id : String) : Prop :=
  ∀ before, Sound builders before → ∃ matcher after, Returns (resolve id) before matcher after

section Resolvers

variable {builders : List (String × Builder)} {resolve : String → Building Matcher}

/-- Members that are built one after the other are built as each of them is. -/
private theorem buildEach_faithful {members : List Builder}
    (hmembers : ∀ member ∈ members, ∀ before matcher after, Sound builders before →
      Returns (member.build resolve) before matcher after →
      Sound builders after ∧ Builds builders member matcher)
    {before after : Built} {matchers : List Matcher} (hsound : Sound builders before)
    (hreturns : Returns (buildEach resolve members) before matchers after) :
    Sound builders after ∧ List.Forall₂ (Builds builders) members matchers := by
  induction members generalizing before matchers with
  | nil =>
    obtain ⟨rfl, rfl⟩ := returns_pure_iff.mp hreturns
    exact ⟨hsound, .nil⟩
  | cons member rest ih =>
    obtain ⟨matcher, middle, others, hbuild, hrest, rfl⟩ := returns_buildEach_cons_iff.mp hreturns
    obtain ⟨hmiddle, hbuilds⟩ :=
      hmembers member List.mem_cons_self before matcher middle hsound hbuild
    obtain ⟨hafter, hothers⟩ := ih
      (fun other hother ↦ hmembers other (List.mem_cons_of_mem member hother)) hmiddle hrest
    exact ⟨hafter, .cons hbuilds hothers⟩

/-- With a faithful resolver a builder returns what it builds. -/
theorem build_faithful (hfaithful : Faithful builders resolve) (builder : Builder) :
    ∀ before matcher after, Sound builders before →
      Returns (builder.build resolve) before matcher after →
      Sound builders after ∧ Builds builders builder matcher := by
  induction builder using induction with
  | declared id kind =>
    intro before matcher after hsound hreturns
    obtain ⟨hafter, builder, target, hlookup, hbuilds, rfl⟩ :=
      hfaithful id before matcher after hsound hreturns
    exact ⟨hafter, .declared hlookup hbuilds⟩
  | plain kind id settings text members resolves ih =>
    intro before matcher after hsound hreturns
    by_cases hkind : kind.hasMembers = true
    · obtain ⟨hcount, matchers, hbuild, hcombine⟩ :=
        (returns_build_combination_iff hkind).mp hreturns
      obtain ⟨hafter, hmembers⟩ := buildEach_faithful ih hsound hbuild
      exact ⟨hafter, .combination hkind hcount hmembers hcombine⟩
    by_cases hreference : kind = .reference
    · subst hreference
      obtain ⟨hname, rfl, target, hresolve, rfl⟩ := returns_build_reference_iff.mp hreturns
      obtain ⟨hafter, builder, target, hlookup, hbuilds, rfl⟩ :=
        hfaithful _ before target after hsound hresolve
      exact ⟨hafter, .reference hname hlookup hbuilds⟩
    · have hmembers : kind.hasMembers = false := Bool.eq_false_iff.mpr hkind
      obtain ⟨hleaf, rfl⟩ := (returns_build_leaf_iff hmembers hreference).mp hreturns
      exact ⟨hsound, .leaf hmembers hreference hleaf⟩

/-- Members that answer one after the other all answer. -/
private theorem buildEach_answers {members : List Builder}
    (hfaithful : Faithful builders resolve)
    (hmembers : ∀ member ∈ members, ∀ before, Sound builders before →
      ∃ matcher after, Returns (member.build resolve) before matcher after)
    {before : Built} (hsound : Sound builders before) :
    ∃ matchers after, Returns (buildEach resolve members) before matchers after := by
  induction members generalizing before with
  | nil => exact ⟨[], before, returns_pure_iff.mpr ⟨rfl, rfl⟩⟩
  | cons member rest ih =>
    obtain ⟨matcher, middle, hbuild⟩ := hmembers member List.mem_cons_self before hsound
    have hmiddle := (build_faithful hfaithful member before matcher middle hsound hbuild).1
    obtain ⟨others, after, hrest⟩ :=
      ih (fun other hother ↦ hmembers other (List.mem_cons_of_mem member hother)) hmiddle
    exact ⟨matcher :: others, after,
      returns_buildEach_cons_iff.mpr ⟨matcher, middle, others, hbuild, hrest, rfl⟩⟩

/-- A builder that is valid by itself returns a matcher with a faithful resolver that answers every
identifier that it asks for. -/
theorem build_answers (hfaithful : Faithful builders resolve) {builder : Builder}
    (hvalid : builder.Valid) (hanswers : ∀ id ∈ builder.mentions, Answers builders resolve id) :
    ∀ before, Sound builders before →
      ∃ matcher after, Returns (builder.build resolve) before matcher after := by
  induction hvalid with
  | declared id kind => exact hanswers id (List.mem_singleton_self id)
  | @leaf kind id settings text members resolves matcher hmembers hreference hleaf =>
    intro before _
    exact ⟨matcher, before, (returns_build_leaf_iff hmembers hreference).mpr ⟨hleaf, rfl⟩⟩
  | @combination kind id settings text members resolves hkind hcount hmembers ih =>
    intro before hsound
    rw [mentions, if_pos hkind, mentionsEach_eq_flatMap] at hanswers
    obtain ⟨matchers, after, hbuild⟩ := buildEach_answers hfaithful
      (fun member hmember ↦ ih member hmember fun mentioned hmentioned ↦
        hanswers mentioned (List.mem_flatMap.mpr ⟨member, hmember, hmentioned⟩)) hsound
    have hlength : members.length = matchers.length :=
      (buildEach_faithful (fun member _ ↦ build_faithful hfaithful member) hsound
        hbuild).2.length_eq
    obtain ⟨matcher, hcombine⟩ := exists_combine id hkind (hlength ▸ hcount)
    exact ⟨matcher, after,
      (returns_build_combination_iff hkind).mpr ⟨hcount, matchers, hbuild, hcombine⟩⟩
  | @reference id settings text members hname =>
    intro before hsound
    obtain ⟨target, after, hresolve⟩ :=
      hanswers (refersTo settings) (List.mem_singleton_self _) before hsound
    exact ⟨.ofReference (refersTo settings) target id, after,
      returns_build_reference_iff.mpr ⟨hname, rfl, target, hresolve, rfl⟩⟩

end Resolvers

end Builder

variable [Installation]

namespace Identifiers

open Builder

/-! ### Resolving within a number of steps -/

section Resolving

variable {builders : List (String × Builder)} {chain : List String} {id : String}

/-- An identifier is resolved to the matcher that has been built for it, or to the one that its
declaration builds while the identifier is in the chain. -/
theorem returns_resolveWithin_succ_iff {steps : Nat} {before after : Built} {matcher : Matcher} :
    Returns (resolveWithin builders (steps + 1) chain id) before matcher after ↔
      (∃ target, before.lookup id = some target ∧ matcher = .registered id target ∧
        after = before) ∨
      before.lookup id = none ∧ ∃ builder target middle, builders.lookup id = some builder ∧
        id ∉ chain ∧
        Returns (builder.build (resolveWithin builders steps (chain ++ [id]))) before target
          middle ∧
        matcher = .registered id target ∧ after = middle ++ [(id, target)] := by
  rw [resolveWithin, returns_get_bind_iff]
  rcases hbuilt : before.lookup id with _ | built
  · rcases hlookup : builders.lookup id with _ | builder
    · exact ⟨fun hreturn ↦ absurd hreturn not_returns_throw, by simp⟩
    by_cases hchain : id ∈ chain
    · have hcontains : chain.contains id = true := List.contains_iff_mem.mpr hchain
      simp only [hcontains, if_true]
      exact ⟨fun hreturn ↦ absurd hreturn not_returns_throw, by simp [hchain]⟩
    · have hcontains : chain.contains id = false :=
        Bool.eq_false_iff.mpr fun h ↦ hchain (List.contains_iff_mem.mp h)
      simp only [hcontains, Bool.false_eq_true, if_false, returns_bind_iff, returns_modify_iff,
        returns_pure_iff]
      constructor
      · rintro ⟨target, middle, hbuild, _, _, rfl, rfl, rfl⟩
        exact .inr ⟨trivial, builder, target, middle, rfl, hchain, hbuild, rfl, rfl⟩
      · rintro (⟨_, hnone, _⟩ | ⟨_, _, target, middle, ⟨⟩, _, hbuild, rfl, rfl⟩)
        · cases hnone
        · exact ⟨target, middle, hbuild, ⟨⟩, _, rfl, rfl, rfl⟩
  · simp only [returns_pure_iff]
    constructor
    · rintro ⟨rfl, rfl⟩
      exact .inl ⟨built, rfl, rfl, rfl⟩
    · rintro (⟨target, ⟨⟩, rfl, rfl⟩ | ⟨hnone, _⟩)
      · exact ⟨rfl, rfl⟩
      · cases hnone

/-- Resolving an identifier without a built matcher raises a fault if the identifier is not
declared, if it is in the chain, or if its builder raises the fault. -/
theorem raises_resolveWithin_succ_iff {steps : Nat} {before after : Built} {fault : Fault} :
    Raises (resolveWithin builders (steps + 1) chain id) before fault after ↔
      before.lookup id = none ∧
        (builders.lookup id = none ∧ fault = .of (.idUnknown id) "" Kind.reference.tag ∧
            after = before ∨
          ∃ builder, builders.lookup id = some builder ∧
            (id ∈ chain ∧
                fault = .of (.circular (chain.dropWhile (· != id) ++ [id])) ""
                  Kind.reference.tag ∧ after = before ∨
              id ∉ chain ∧
                Raises (builder.build (resolveWithin builders steps (chain ++ [id]))) before fault
                  after)) := by
  rw [resolveWithin, raises_get_bind_iff]
  rcases hbuilt : before.lookup id with _ | built
  · rcases hlookup : builders.lookup id with _ | builder
    · simp only [raises_throw_iff, true_and, reduceCtorEq, false_and, exists_false, or_false]
    by_cases hchain : id ∈ chain
    · have hcontains : chain.contains id = true := List.contains_iff_mem.mpr hchain
      simp only [hcontains, if_true, raises_throw_iff]
      simp [hchain]
    · have hcontains : chain.contains id = false :=
        Bool.eq_false_iff.mpr fun h ↦ hchain (List.contains_iff_mem.mp h)
      simp only [hcontains, Bool.false_eq_true, if_false, raises_bind_iff, not_raises_modify,
        not_raises_pure, and_false, exists_false, or_false]
      simp [hchain]
  · exact ⟨fun hraises ↦ absurd hraises not_raises_pure, fun h ↦ nomatch h.1⟩

/-- Whatever the chain, what an identifier is resolved to is what its declaration builds. -/
theorem resolveWithin_faithful (steps : Nat) (chain : List String) :
    Faithful builders (resolveWithin builders steps chain) := by
  induction steps generalizing chain with
  | zero => exact fun _ _ _ _ _ hreturns ↦ absurd hreturns not_returns_throw
  | succ steps ih =>
    intro id before matcher after hsound hreturns
    rcases returns_resolveWithin_succ_iff.mp hreturns with
      ⟨target, hbuilt, rfl, rfl⟩ | ⟨hbuilt, builder, target, middle, hlookup, _, hbuild, rfl, rfl⟩
    · obtain ⟨builder, hlookup, hbuilds⟩ := hsound id target hbuilt
      exact ⟨hsound, builder, target, hlookup, hbuilds, rfl⟩
    · obtain ⟨hmiddle, hbuilds⟩ :=
        build_faithful (ih (chain ++ [id])) builder before target middle hsound hbuild
      exact ⟨hmiddle.append hlookup hbuilds, builder, target, hlookup, hbuilds, rfl⟩

/-- An identifier whose matcher can be had is resolved: each identifier of the chain needs it, so it
is not in the chain, and the chain, which holds each declared identifier once at most, leaves steps
enough. -/
theorem resolveWithin_answers (steps : Nat) (chain : List String) (id : String)
    (hresolves : Resolves builders id) (hnodup : chain.Nodup)
    (hneeds : ∀ outer ∈ chain, Relation.TransGen (Needs builders) outer id)
    (hsteps : chain.length + steps = builders.length + 1) :
    Answers builders (resolveWithin builders steps chain) id := by
  induction steps generalizing chain id with
  | zero =>
    -- Steps run out only where the chain is longer than the list of declarations.
    have hdeclared : chain ⊆ builders.map (·.1) := by
      intro outer houter
      obtain ⟨needed, ⟨builder, hlookup, _⟩, _⟩ :=
        Relation.TransGen.head'_iff.mp (hneeds outer houter)
      exact exists_lookup_iff.mp ⟨builder, hlookup⟩
    have hlength := (hnodup.subperm hdeclared).length_le
    rw [List.length_map] at hlength
    omega
  | succ steps ih =>
    intro before hsound
    have hfresh : id ∉ chain := fun hchain ↦ hresolves.not_circular (hneeds id hchain)
    have hneeded (needed : String) : Needs builders id needed → Resolves builders needed :=
      hresolves.of_needs
    obtain ⟨builder, matcher, hlookup, hbuilds⟩ := hresolves
    rcases hbuilt : before.lookup id with _ | target
    · have hanswers : ∀ needed ∈ builder.mentions,
          Answers builders (resolveWithin builders steps (chain ++ [id])) needed := by
        intro needed hmentioned
        have hstep : Needs builders id needed := ⟨builder, hlookup, hmentioned⟩
        -- The identifier joins the chain, and everything in the chain needs what it needs.
        refine ih (chain ++ [id]) needed (hneeded needed hstep) ?_ ?_ ?_
        · rw [← List.concat_eq_append]
          exact hnodup.concat hfresh
        · intro outer houter
          rcases List.mem_append.mp houter with houter | houter
          · exact (hneeds outer houter).tail hstep
          · rw [List.mem_singleton.mp houter]
            exact .single hstep
        · rw [List.length_append, List.length_singleton]
          omega
      have hvalid : builder.Valid := (exists_builds_iff.mp ⟨matcher, hbuilds⟩).1
      obtain ⟨target, middle, hbuild⟩ :=
        build_answers (resolveWithin_faithful steps (chain ++ [id])) hvalid hanswers before hsound
      exact ⟨.registered id target, middle ++ [(id, target)],
        returns_resolveWithin_succ_iff.mpr
          (.inr ⟨hbuilt, builder, target, middle, hlookup, hfresh, hbuild, rfl, rfl⟩)⟩
    · exact ⟨.registered id target, before,
        returns_resolveWithin_succ_iff.mpr (.inl ⟨target, hbuilt, rfl, rfl⟩)⟩

end Resolving

/-! ### Building among identifiers -/

section Building

variable {identifiers : Identifiers} {builder : Builder} {matcher : Matcher} {before after : Built}

/-- What has been built stays sound, and what is returned for a builder is what it builds. -/
theorem builds_of_returns (hsound : Sound identifiers.builders before)
    (hreturns : Returns (builder.build identifiers.resolving) before matcher after) :
    Sound identifiers.builders after ∧ Builds identifiers.builders builder matcher :=
  build_faithful (resolveWithin_faithful _ []) builder before matcher after hsound hreturns

/-- Memory and order do not matter: among identified matchers a builder returns a matcher exactly if
it builds it. Assumes: what has been built before is what the declarations build. -/
theorem exists_returns_build_iff (hsound : Sound identifiers.builders before) :
    (∃ after, Returns (builder.build identifiers.resolving) before matcher after) ↔
      Builds identifiers.builders builder matcher := by
  constructor
  · rintro ⟨after, hreturns⟩
    exact (builds_of_returns hsound hreturns).2
  · intro hbuilds
    obtain ⟨hvalid, hmentions⟩ := exists_builds_iff.mp ⟨matcher, hbuilds⟩
    have hanswers (id : String) (hmentioned : id ∈ builder.mentions) :
        Answers identifiers.builders identifiers.resolving id :=
      resolveWithin_answers _ [] id (hmentions id hmentioned) List.nodup_nil
        (fun outer houter ↦ absurd houter List.not_mem_nil) (Nat.zero_add _)
    obtain ⟨other, after, hreturns⟩ :=
      build_answers (resolveWithin_faithful _ []) hvalid hanswers before hsound
    rw [hbuilds.unique (builds_of_returns hsound hreturns).2]
    exact ⟨after, hreturns⟩

end Building

end Identifiers

end LicenseHeaders
