import LicenseHeaders.Proofs.Builder.Identifiers

/-!
# What is built on the way

When a builder returns a matcher, matchers have been built for all identifiers that it asks for and
for all that those need, and for no others (`Identifiers.built_of_returns_build`). So which
identifiers have a matcher in the end does not depend on the order in which builders are asked. The
invariant is that the table of built matchers is `Builder.Closed`: it has everything that something
in it needs.
-/

set_option autoImplicit false
set_option relaxedAutoImplicit false

namespace LicenseHeaders

namespace Builder

/-- Some of the identifiers need another one, at once or on the way. -/
def NeedsAmong (builders : List (String × Builder)) (ids : List String) (other : String) : Prop :=
  ∃ id ∈ ids, Relation.ReflTransGen (Needs builders) id other

/-- Whatever is needed for a built matcher is built. -/
def Closed (builders : List (String × Builder)) (built : Built) : Prop :=
  ∀ id ∈ built.map (·.1), ∀ other, Needs builders id other → other ∈ built.map (·.1)

/-- What has been built afterwards is what had been built before and what some identifiers need. -/
def Completes (builders : List (String × Builder)) (ids : List String) (before after : Built) :
    Prop :=
  ∀ other, other ∈ after.map (·.1) ↔ other ∈ before.map (·.1) ∨ NeedsAmong builders ids other

section Completion

variable {builders : List (String × Builder)} {before middle after : Built}
  {first second : List String}

theorem needsAmong_append_iff {other : String} :
    NeedsAmong builders (first ++ second) other ↔
      NeedsAmong builders first other ∨ NeedsAmong builders second other := by
  simp only [NeedsAmong, List.mem_append, or_and_right, exists_or]

theorem needsAmong_singleton_iff {id other : String} :
    NeedsAmong builders [id] other ↔ Relation.ReflTransGen (Needs builders) id other := by
  simp only [NeedsAmong, List.mem_singleton, exists_eq_left]

theorem Closed.mem_of_needs (hclosed : Closed builders before) {id other : String}
    (hid : id ∈ before.map (·.1)) (hneeds : Relation.ReflTransGen (Needs builders) id other) :
    other ∈ before.map (·.1) := by
  induction hneeds with
  | refl => exact hid
  | tail _ hstep ih => exact hclosed _ ih _ hstep

theorem completes_nil (before : Built) : Completes builders [] before before :=
  fun other ↦ by simp [NeedsAmong]

theorem Completes.append (hfirst : Completes builders first before middle)
    (hsecond : Completes builders second middle after) :
    Completes builders (first ++ second) before after := by
  intro other
  rw [hsecond other, hfirst other, needsAmong_append_iff, or_assoc]

theorem Completes.closed (hcompletes : Completes builders first before after)
    (hclosed : Closed builders before) : Closed builders after := by
  intro id hid other hneeds
  rw [hcompletes] at hid ⊢
  rcases hid with hid | ⟨start, hstart, hreached⟩
  · exact .inl (hclosed id hid other hneeds)
  · exact .inr ⟨start, hstart, hreached.tail hneeds⟩

variable {resolve : String → Building Matcher}

variable [Installation]

private theorem buildEach_completes {members : List Builder}
    (hmembers : ∀ member ∈ members, ∀ before matcher after, Closed builders before →
      Returns (member.build resolve) before matcher after →
      Completes builders member.mentions before after)
    {matchers : List Matcher} (hclosed : Closed builders before)
    (hreturns : Returns (buildEach resolve members) before matchers after) :
    Completes builders (members.flatMap mentions) before after := by
  induction members generalizing before matchers with
  | nil =>
    obtain ⟨_, rfl⟩ := returns_pure_iff.mp hreturns
    exact completes_nil after
  | cons member rest ih =>
    obtain ⟨matcher, middle, others, hbuild, hrest, _⟩ := returns_buildEach_cons_iff.mp hreturns
    have hfirst := hmembers member List.mem_cons_self before matcher middle hclosed hbuild
    exact hfirst.append (ih
      (fun other hother ↦ hmembers other (List.mem_cons_of_mem member hother))
      (hfirst.closed hclosed) hrest)

/-- A builder that returns completes what it asks for, if resolving does. -/
theorem build_completes
    (hresolve : ∀ id before matcher after, Closed builders before →
      Returns (resolve id) before matcher after → Completes builders [id] before after)
    (builder : Builder) : ∀ before matcher after, Closed builders before →
      Returns (builder.build resolve) before matcher after →
      Completes builders builder.mentions before after := by
  induction builder using induction with
  | declared id kind => exact hresolve id
  | plain kind id settings text members resolves ih =>
    intro before matcher after hclosed hreturns
    rw [mentions]
    by_cases hkind : kind.hasMembers = true
    · obtain ⟨_, matchers, hbuild, _⟩ := (returns_build_combination_iff hkind).mp hreturns
      rw [if_pos hkind, mentionsEach_eq_flatMap]
      exact buildEach_completes ih hclosed hbuild
    rw [if_neg hkind]
    by_cases hreference : kind = .reference
    · subst hreference
      obtain ⟨_, _, target, hresolved, _⟩ := returns_build_reference_iff.mp hreturns
      rw [if_pos rfl]
      exact hresolve (refersTo settings) before target after hclosed hresolved
    · obtain ⟨_, rfl⟩ :=
        (returns_build_leaf_iff (Bool.eq_false_iff.mpr hkind) hreference).mp hreturns
      rw [if_neg hreference]
      exact completes_nil after

end Completion

end Builder

variable [Installation]

namespace Identifiers

open Builder

theorem resolveWithin_completes {builders : List (String × Builder)} (steps : Nat)
    (chain : List String) (id : String) (before : Built) (matcher : Matcher) (after : Built)
    (hclosed : Closed builders before)
    (hreturns : Returns (resolveWithin builders steps chain id) before matcher after) :
    Completes builders [id] before after := by
  induction steps generalizing chain id before matcher after with
  | zero => exact absurd hreturns not_returns_throw
  | succ steps ih =>
    intro other
    rw [needsAmong_singleton_iff]
    rcases returns_resolveWithin_succ_iff.mp hreturns with
      ⟨target, hbuilt, _, rfl⟩ | ⟨_, builder, target, middle, hlookup, _, hbuild, _, rfl⟩
    · have hid : id ∈ after.map (·.1) := exists_lookup_iff.mp ⟨target, hbuilt⟩
      exact (or_iff_left_of_imp (hclosed.mem_of_needs hid)).symm
    · -- What an identifier needs is the identifier itself and what its builder asks for.
      have hneeds : Relation.ReflTransGen (Needs builders) id other ↔
          NeedsAmong builders builder.mentions other ∨ other = id := by
        constructor
        · intro hreached
          rcases Relation.ReflTransGen.cases_head hreached with rfl | ⟨needed, hstep, hreached⟩
          · exact .inr rfl
          · obtain ⟨same, hsame, hmentioned⟩ := hstep
            cases hlookup.symm.trans hsame
            exact .inl ⟨needed, hmentioned, hreached⟩
        · rintro (⟨needed, hmentioned, hreached⟩ | rfl)
          · exact .head ⟨builder, hlookup, hmentioned⟩ hreached
          · exact .refl
      have hmiddle := build_completes (ih (chain ++ [id])) builder before target middle hclosed
        hbuild
      rw [List.map_append, List.mem_append, List.map_singleton, List.mem_singleton, hmiddle other,
        hneeds, or_assoc]

/-- A builder that returns leaves the table with what it asks for and all that this needs, and with
nothing else that was not there before. -/
theorem built_of_returns_build {identifiers : Identifiers} {builder : Builder}
    {before after : Built} {matcher : Matcher} (hclosed : Closed identifiers.builders before)
    (hreturns : Returns (builder.build identifiers.resolving) before matcher after) :
    Completes identifiers.builders builder.mentions before after :=
  build_completes (resolveWithin_completes _ []) builder before matcher after hclosed hreturns

end Identifiers

end LicenseHeaders
