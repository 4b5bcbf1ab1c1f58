import LicenseHeaders.Proofs.Builder.Completion
import LicenseHeaders.Proofs.Matcher.Construction

/-!
# The registered matchers in what is built

A matcher that was declared under an identifier is registered, and a tree that mentions it holds it
under its name. Leaves hold none, and a reference holds none either, since it is made with a copy of
its target that shares nothing with it. So what a builder builds holds the matchers of the
identifiers that its members stand for, and each of them is what the declaration of its identifier
builds (`Builder.Builds.of_mem_named`).
-/

set_option autoImplicit false
set_option relaxedAutoImplicit false

namespace LicenseHeaders

namespace Matcher

/-- What a registered matcher within a matcher holds is held by the matcher. -/
theorem named_of_mem_named {matcher : Matcher} :
    ∀ entry ∈ matcher.named, ∀ inner ∈ entry.2.named, inner ∈ matcher.named := by
  have hmembers : ∀ {members : List Matcher},
      (∀ member ∈ members, ∀ entry ∈ member.named, ∀ inner ∈ entry.2.named,
        inner ∈ member.named) →
      ∀ entry ∈ namedEach members, ∀ inner ∈ entry.2.named, inner ∈ namedEach members := by
    intro members ih entry hentry inner hinner
    rw [namedEach_eq_flatMap] at hentry ⊢
    obtain ⟨member, hmember, hentry⟩ := List.mem_flatMap.mp hentry
    exact List.mem_flatMap.mpr ⟨member, hmember, ih member hmember entry hentry inner hinner⟩
  induction matcher using induction with
  | leaf id criterion verdict => exact fun _ hentry ↦ absurd hentry List.not_mem_nil
  | probe id verdict fed resets => exact fun _ hentry ↦ absurd hentry List.not_mem_nil
  | all id members ih => exact hmembers ih
  | any id members ih => exact hmembers ih
  | negation id member ih => exact ih
  | reference id name copy ih => exact ih
  | registered name matcher ih =>
    intro entry hentry inner hinner
    rw [named, List.mem_cons] at hentry
    refine List.mem_cons_of_mem _ ?_
    rcases hentry with rfl | hentry
    · exact hinner
    · exact ih entry hentry inner hinner

end Matcher

namespace Builder

/-- A leaf holds no registered matcher. -/
theorem named_leaf [Installation] {kind : Kind} {id : Option String}
    {settings : List (String × String)} {text : String} {matcher : Matcher}
    (hleaf : leaf kind id settings text = .ok matcher) :
    matcher.named = [] := by
  rcases leaf_cases hleaf with ⟨criterion, _, rfl⟩ | ⟨made, rfl⟩
  · rfl
  · exact made.named_eq_nil

/-- A combination holds the registered matchers that its members hold. -/
theorem named_combine {kind : Kind} {id : Option String} {members : List Matcher}
    {matcher : Matcher} (hcombine : combine kind id members = .ok matcher) :
    matcher.named = members.flatMap Matcher.named := by
  rcases combine_cases hcombine with rfl | rfl | ⟨member, rfl, rfl⟩
  · exact Matcher.namedEach_eq_flatMap members
  · exact Matcher.namedEach_eq_flatMap members
  · exact (List.flatMap_singleton ..).symm

/-- A registered matcher in what a builder builds is what the declaration of its name builds, and
the name is needed for something that the builder asks for. -/
theorem Builds.of_mem_named [Installation] {builders : List (String × Builder)} {builder : Builder}
    {matcher : Matcher} (hbuilds : Builds builders builder matcher) :
    ∀ entry ∈ matcher.named, NeedsAmong builders builder.mentions entry.1 ∧
      ∃ declaration, builders.lookup entry.1 = some declaration ∧
        Builds builders declaration entry.2 := by
  induction hbuilds using Builds.induction with
  | @declared id kind builder matcher hlookup hbuilds ih =>
    intro entry hentry
    rw [Matcher.named, List.mem_cons] at hentry
    rcases hentry with rfl | hentry
    · exact ⟨⟨id, List.mem_singleton_self id, .refl⟩, builder, hlookup, hbuilds⟩
    · obtain ⟨⟨mentioned, hmentioned, hreached⟩, hdeclaration⟩ := ih entry hentry
      refine ⟨⟨id, List.mem_singleton_self id, ?_⟩, hdeclaration⟩
      exact .head ⟨builder, hlookup, hmentioned⟩ hreached
  | leaf hmembers hreference hleaf =>
    rw [named_leaf hleaf]
    exact List.forall_mem_nil _
  | @combination kind id settings text members resolves matchers matcher hkind hcount hmembers
      hcombine ih =>
    intro entry hentry
    rw [named_combine hcombine] at hentry
    obtain ⟨built, hbuilt, hentry⟩ := List.mem_flatMap.mp hentry
    obtain ⟨member, hmember, _, hneeds⟩ := exists_of_mem_of_forall₂ ih.flip hbuilt
    obtain ⟨⟨mentioned, hmentioned, hreached⟩, hdeclaration⟩ := hneeds entry hentry
    refine ⟨⟨mentioned, ?_, hreached⟩, hdeclaration⟩
    rw [mentions, if_pos hkind, mentionsEach_eq_flatMap]
    exact List.mem_flatMap.mpr ⟨member, hmember, hmentioned⟩
  | reference hname hlookup hbuilds ih =>
    rw [Matcher.named_ofReference]
    exact List.forall_mem_nil _

end Builder

end LicenseHeaders
