import LicenseHeaders.Proofs.Builder.Identifiers

/-!
# Faults of building

A fault that is raised while a builder is built is about what is written in the builder or in one of
its members, or it is the fault of an identifier that could not be resolved
(`Builder.isWritten_or_exists_of_raises_build`). In either case the fault does not say in which
document it stands (`Identifiers.standsIn_of_raises_build`), since builders do not know where they
were declared. Identifiers that need each other are reported only by resolving an identifier, never
by what is written in a builder (`Builder.IsWritten.circle?`).
-/

set_option autoImplicit false
set_option relaxedAutoImplicit false

namespace LicenseHeaders

open Text

namespace Fault

/-- A fault says that it stands in a document, which is empty if it does not say where it stands. Of
a request that is not answered it is not asked where. -/
def StandsIn (source : String) : Fault → Prop
  | configuration error => error.source = source
  | value _ => False
  | crash _ => True

/-- A fault does not say in which document it stands. -/
def Unplaced : Fault → Prop
  | configuration error => error.source = ""
  | _ => True

/-- The identifiers that are reported as circular. -/
def circle? : Fault → Option (List String)
  | configuration ⟨.circular chain, _, _⟩ => some chain
  | _ => none

/-- A fault of what is written at one place. It does not say in which document this place is, and it
is not about declarations that need each other. -/
structure Isolated (fault : Fault) : Prop where
  unplaced : fault.Unplaced
  circle?_eq_none : fault.circle? = none

end Fault

namespace Builder

/-- What is located at a tag becomes a fault of a declaration. -/
theorem standsIn_located {cause : Fault} (hcause : cause.Unplaced) (tag : String) :
    (located tag cause).StandsIn "" := by
  cases cause with
  | configuration error => exact hcause
  | value fault => rfl
  | crash crash => trivial

theorem circle?_located (tag : String) (fault : Fault) :
    (located tag fault).circle? = fault.circle? := by
  cases fault <;> rfl

theorem isolated_of_patterns [CharacterNames] {notice : Matcher.Notice} {fault : Fault}
    (hpatterns : notice.patterns = .error fault) : fault.Isolated := by
  obtain ⟨text, _, hfault⟩ := exists_mem_of_mapM_error hpatterns
  split at hfault
  · cases hfault
  · next cause _ =>
    cases hfault
    cases cause with
    | invalid => exact ⟨rfl, rfl⟩
    | countTooLarge => exact ⟨trivial, rfl⟩
    | countTooLong digits => exact ⟨trivial, rfl⟩

theorem isolated_of_leaf [Installation] {kind : Kind} {id : Option String}
    {settings : List (String × String)} {text : String} {fault : Fault}
    (hleaf : leaf kind id settings text = .error fault) :
    fault.Isolated := by
  cases kind with
  | text =>
    rw [leaf, Matcher.ofText, Matcher.ofPhrase, Matcher.ofLiteral] at hleaf
    split_ifs at hleaf <;> cases hleaf
    · exact ⟨rfl, rfl⟩
    · exact ⟨trivial, rfl⟩
  | copyright =>
    rw [leaf, Matcher.ofNotice] at hleaf
    rcases hpatterns : Matcher.Notice.patterns ⟨setting? settings "start", setting? settings "end",
      setting? settings "owner"⟩ with cause | patterns
    · rw [hpatterns] at hleaf
      cases hleaf
      exact isolated_of_patterns hpatterns
    · rw [hpatterns] at hleaf
      cases hleaf
  | spdx =>
    rw [leaf, Matcher.ofIdentifier] at hleaf
    split_ifs at hleaf <;> cases hleaf
    · exact ⟨rfl, rfl⟩
    · exact ⟨trivial, rfl⟩
  | plugged plugin =>
    rw [leaf] at hleaf
    split at hleaf
    · cases hleaf
    · next refusal _ =>
      cases hleaf
      cases refusal with
      | stated => exact ⟨rfl, rfl⟩
      | failure => exact ⟨trivial, rfl⟩
  | _ =>
    cases hleaf
    exact ⟨trivial, rfl⟩

theorem isolated_of_combine {kind : Kind} {id : Option String} {members : List Matcher}
    {fault : Fault} (hcombine : combine kind id members = .error fault) : fault.Isolated := by
  have hnegation (hmade : Matcher.ofNegation members id = .error fault) : fault.Isolated := by
    unfold Matcher.ofNegation at hmade
    split at hmade <;> cases hmade
    · exact ⟨trivial, rfl⟩
    · exact ⟨trivial, rfl⟩
  cases kind with
  | all =>
    rw [combine, Matcher.ofAll] at hcombine
    split_ifs at hcombine
    cases hcombine
    exact ⟨trivial, rfl⟩
  | any =>
    rw [combine, Matcher.ofAny] at hcombine
    split_ifs at hcombine
    cases hcombine
    exact ⟨trivial, rfl⟩
  | _ => exact hnegation hcombine

/-- Of its members a builder has too few or not one. -/
theorem of_memberFault {kind : Kind} {count : Nat} {fault : Fault}
    (hfault : memberFault? kind count = some fault) :
    fault = .of (.membersMissing kind.tag) "" kind.tag ∨
      fault = .of (.notOneMember count) "" kind.tag := by
  cases kind <;> simp only [memberFault?, ite_eq_iff, reduceCtorEq, and_false, or_false,
    Option.some.injEq] at hfault
  · exact .inl hfault.2.symm
  · exact .inl hfault.2.symm
  · exact .inr hfault.2.symm

/-- A fault is about what is written in a builder: a member too many or too few, a leaf or a
combination that is refused, or a reference that names nothing or cannot be resolved where it
stands. -/
inductive IsWritten [Installation] : Fault → Prop
  | members {kind : Kind} {count : Nat} {fault : Fault}
      (hfault : memberFault? kind count = some fault) : IsWritten fault
  | leaf {kind : Kind} {id : Option String} {settings : List (String × String)} {text : String}
      {cause : Fault} (hleaf : leaf kind id settings text = .error cause) :
      IsWritten (located kind.tag cause)
  | combination {kind : Kind} {id : Option String} {matchers : List Matcher} {cause : Fault}
      (hcombine : combine kind id matchers = .error cause) : IsWritten (located kind.tag cause)
  | nameless : IsWritten (.of .referenceMissing "" Kind.reference.tag)
  | unresolvable (name : String) :
      IsWritten (.of (.referenceUnresolvable name) "" Kind.reference.tag)

theorem IsWritten.standsIn [Installation] {fault : Fault} (hwritten : IsWritten fault) :
    fault.StandsIn "" := by
  cases hwritten with
  | members hfault => rcases of_memberFault hfault with rfl | rfl <;> rfl
  | leaf hleaf => exact standsIn_located (isolated_of_leaf hleaf).unplaced _
  | combination hcombine => exact standsIn_located (isolated_of_combine hcombine).unplaced _
  | nameless => rfl
  | unresolvable name => rfl

/-- What is written in a builder is never refused as circular. -/
theorem IsWritten.circle? [Installation] {fault : Fault} (hwritten : IsWritten fault) :
    fault.circle? = none := by
  cases hwritten with
  | members hfault => rcases of_memberFault hfault with rfl | rfl <;> rfl
  | leaf hleaf => exact (circle?_located _ _).trans (isolated_of_leaf hleaf).circle?_eq_none
  | combination hcombine =>
    exact (circle?_located _ _).trans (isolated_of_combine hcombine).circle?_eq_none
  | nameless => rfl
  | unresolvable name => rfl

section Raising

variable {State : Type} {resolve : String → ExceptT Fault (StateM State) Matcher}
  {before after : State} {fault : Fault}

theorem raises_lifted_iff {tag : String} {result : Except Fault Matcher} :
    @Raises State Matcher (lifted tag result) before fault after ↔
      (∃ cause, result = .error cause ∧ fault = located tag cause) ∧ after = before := by
  cases result with
  | ok matcher =>
    exact ⟨fun hraises ↦ absurd hraises not_raises_pure, fun ⟨⟨_, h, _⟩, _⟩ ↦ nomatch h⟩
  | error cause => simp [lifted, raises_throw_iff]

variable [Installation]

private theorem raises_buildEach {members : List Builder}
    (hraises : Raises (buildEach resolve members) before fault after) :
    ∃ member ∈ members, ∃ middle, Raises (member.build resolve) middle fault after := by
  induction members generalizing before with
  | nil => exact absurd hraises not_raises_pure
  | cons member rest ih =>
    rw [buildEach] at hraises
    rcases raises_bind_iff.mp hraises with hfirst | ⟨matcher, middle, _, hrest⟩
    · exact ⟨member, List.mem_cons_self, before, hfirst⟩
    · rcases raises_bind_iff.mp hrest with hrest | ⟨_, _, _, hpure⟩
      · obtain ⟨other, hother, hmember⟩ := ih hrest
        exact ⟨other, List.mem_cons_of_mem member hother, hmember⟩
      · exact absurd hpure not_raises_pure

/-- A builder raises a fault about what is written in it, or the fault of an identifier that it asks
for. -/
theorem isWritten_or_exists_of_raises_build (builder : Builder)
    (hraises : Raises (builder.build resolve) before fault after) :
    IsWritten fault ∨
      ∃ needed ∈ builder.mentions, ∃ middle, Raises (resolve needed) middle fault after := by
  induction builder using induction generalizing before with
  | declared id kind =>
    rw [build] at hraises
    exact .inr ⟨id, List.mem_singleton_self id, before, hraises⟩
  | plain kind id settings text members resolves ih =>
    rw [build] at hraises
    rw [mentions]
    split_ifs at hraises ⊢ with hkind hreference
    · cases hcount : memberFault? kind members.length with
      | some cause =>
        rw [hcount] at hraises
        obtain ⟨rfl, _⟩ := raises_throw_iff.mp hraises
        exact .inl (.members hcount)
      | none =>
        rw [hcount] at hraises
        rcases raises_bind_iff.mp hraises with hmembers | ⟨matchers, middle, _, hcombine⟩
        · obtain ⟨member, hmember, middle, hbuild⟩ := raises_buildEach hmembers
          refine (ih member hmember hbuild).imp_right ?_
          rintro ⟨needed, hmentioned, hneeded⟩
          rw [mentionsEach_eq_flatMap]
          exact ⟨needed, List.mem_flatMap.mpr ⟨member, hmember, hmentioned⟩, hneeded⟩
        · obtain ⟨⟨cause, hcause, rfl⟩, _⟩ := raises_lifted_iff.mp hcombine
          exact .inl (.combination hcause)
    · unfold refer at hraises
      split_ifs at hraises
      · obtain ⟨rfl, _⟩ := raises_throw_iff.mp hraises
        exact .inl .nameless
      · obtain ⟨rfl, _⟩ := raises_throw_iff.mp hraises
        exact .inl (.unresolvable _)
      · rcases raises_bind_iff.mp hraises with hresolve | ⟨_, _, _, hpure⟩
        · exact .inr ⟨_, List.mem_singleton_self _, before, hresolve⟩
        · exact absurd hpure not_raises_pure
    · obtain ⟨⟨cause, hcause, rfl⟩, _⟩ := raises_lifted_iff.mp hraises
      exact .inl (.leaf hcause)

end Raising

end Builder

variable [Installation]

namespace Identifiers

open Builder

section Raising

variable {builders : List (String × Builder)} {before after : Built} {fault : Fault}

/-- The fault of an identifier that is not resolved does not say where it stands. -/
theorem standsIn_of_raises_resolveWithin (steps : Nat) (chain : List String) (id : String)
    (hraises : Raises (resolveWithin builders steps chain id) before fault after) :
    fault.StandsIn "" := by
  induction steps generalizing chain id before with
  | zero =>
    obtain ⟨rfl, _⟩ := raises_throw_iff.mp hraises
    rfl
  | succ steps ih =>
    obtain ⟨_, hcase⟩ := raises_resolveWithin_succ_iff.mp hraises
    rcases hcase with ⟨_, rfl, _⟩ | ⟨builder, _, ⟨_, rfl, _⟩ | ⟨_, hbuild⟩⟩
    · rfl
    · rfl
    · rcases isWritten_or_exists_of_raises_build builder hbuild with
        hwritten | ⟨needed, _, middle, hresolve⟩
      · exact hwritten.standsIn
      · exact ih _ needed hresolve

/-- The fault of a builder does not say where it stands. -/
theorem standsIn_of_raises_build {identifiers : Identifiers} {builder : Builder}
    (hraises : Raises (builder.build identifiers.resolving) before fault after) :
    fault.StandsIn "" := by
  rcases isWritten_or_exists_of_raises_build builder hraises with
    hwritten | ⟨needed, _, middle, hresolve⟩
  · exact hwritten.standsIn
  · exact standsIn_of_raises_resolveWithin _ [] needed hresolve

end Raising

end Identifiers

end LicenseHeaders
