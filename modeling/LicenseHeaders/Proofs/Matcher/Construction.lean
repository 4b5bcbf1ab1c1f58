import LicenseHeaders.Proofs.Matcher.Making
import LicenseHeaders.Proofs.Matcher.Sharing

/-!
# How trees of matchers are made

A `Plan` is a tree of constructors with their parameters, and `Plan.Makes` says which matcher is
made after it. The target of a reference may have been called in any way before it is copied, yet a
plan makes one matcher only (`Plan.Makes.unique`): the copy has forgotten the calls. What is made
has read nothing, so a reset does not change it (`Plan.Makes.unread`).

`Plan.Leaves` says which matchers are left of one that was made after a plan, when it has been
called in any way. A reset and a fresh copy lead back to what the plan makes
(`Plan.Leaves.reset_eq`, `Plan.Leaves.fresh_eq`).
-/

set_option autoImplicit false
set_option relaxedAutoImplicit false

namespace LicenseHeaders.Matcher

/-- How a tree of the built-in kinds is made: a constructor with its parameters for every
matcher. -/
inductive Plan where
  | text (words : String) (id : Option String)
  | literal (words : String) (id : Option String)
  | phrase (words : String) (id : Option String)
  | notice (sought : Notice) (id : Option String)
  | identifier (name : String) (id : Option String)
  | all (members : List Plan) (id : Option String)
  | any (members : List Plan) (id : Option String)
  | negation (members : List Plan) (id : Option String)
  | reference (name : String) (target : Plan) (id : Option String)
  | registered (name : String) (plan : Plan)

namespace Plan

mutual

/-- Whether a matcher is made after a plan. The target of a reference is a matcher that is made
after its own plan, without one that occurs twice, and that may be called before it is copied. -/
def Makes [Text.CharacterNames] : Plan → Matcher → Prop
  | .text words id, matcher => ofText words id = .ok matcher
  | .literal words id, matcher => ofLiteral words id = .ok matcher
  | .phrase words id, matcher => ofPhrase words id = .ok matcher
  | .notice sought id, matcher => ofNotice sought id = .ok matcher
  | .identifier name id, matcher => ofIdentifier name id = .ok matcher
  | .all members id, matcher => ∃ made, MakesEach members made ∧ ofAll made id = .ok matcher
  | .any members id, matcher => ∃ made, MakesEach members made ∧ ofAny made id = .ok matcher
  | .negation members id, matcher =>
    ∃ made, MakesEach members made ∧ ofNegation made id = .ok matcher
  | .reference name target id, matcher =>
    ∃ made calls, target.Makes made ∧ made.names.Nodup ∧
      matcher = ofReference name (made.afterCalls calls) id
  | .registered name plan, matcher => ∃ made, plan.Makes made ∧ matcher = .registered name made

/-- Whether matchers are made after plans, one after each. -/
def MakesEach [Text.CharacterNames] : List Plan → List Matcher → Prop
  | [], matchers => matchers = []
  | plan :: rest, matchers =>
    ∃ matcher others, plan.Makes matcher ∧ MakesEach rest others ∧ matchers = matcher :: others

end

theorem makesEach_iff [Text.CharacterNames] {plans : List Plan} {matchers : List Matcher} :
    MakesEach plans matchers ↔ List.Forall₂ Makes plans matchers := by
  induction plans generalizing matchers with
  | nil => rw [MakesEach, List.forall₂_nil_left_iff]
  | cons plan rest ih =>
    rw [MakesEach, List.forall₂_cons_left_iff]
    simp only [ih]

/-- Induction over plans, with the hypothesis for every member of a combination. -/
@[elab_as_elim]
theorem induction {motive : Plan → Prop}
    (text : ∀ words id, motive (text words id))
    (literal : ∀ words id, motive (literal words id))
    (phrase : ∀ words id, motive (phrase words id))
    (notice : ∀ sought id, motive (notice sought id))
    (identifier : ∀ name id, motive (identifier name id))
    (all : ∀ members id, (∀ member ∈ members, motive member) → motive (all members id))
    (any : ∀ members id, (∀ member ∈ members, motive member) → motive (any members id))
    (negation : ∀ members id, (∀ member ∈ members, motive member) → motive (negation members id))
    (reference : ∀ name target id, motive target → motive (reference name target id))
    (registered : ∀ name plan, motive plan → motive (registered name plan)) :
    ∀ plan, motive plan
  | .text words id => text words id
  | .literal words id => literal words id
  | .phrase words id => phrase words id
  | .notice sought id => notice sought id
  | .identifier name id => identifier name id
  | .all members id => all members id fun member _ ↦
      induction text literal phrase notice identifier all any negation reference registered member
  | .any members id => any members id fun member _ ↦
      induction text literal phrase notice identifier all any negation reference registered member
  | .negation members id => negation members id fun member _ ↦
      induction text literal phrase notice identifier all any negation reference registered member
  | .reference name target id => reference name target id
      (induction text literal phrase notice identifier all any negation reference registered target)
  | .registered name plan => registered name plan
      (induction text literal phrase notice identifier all any negation reference registered plan)

/-! ### What is made has read nothing -/

end Plan

/-- Whether a tree of the built-in kinds is as it is after a reset. -/
structure Unread (matcher : Matcher) : Prop where
  isBuiltIn : matcher.isBuiltIn = true
  reset : matcher.reset = matcher

/-- A matcher is a leaf that has read nothing. -/
def IsNewLeaf (matcher : Matcher) : Prop :=
  ∃ id criterion, criterion.forget = criterion ∧ matcher = leaf id criterion .unknown

section Leaves

variable {make : Option String → Except Fault Matcher} {id : Option String} {matcher : Matcher}

theorem IsNewLeaf.unread (hleaf : matcher.IsNewLeaf) : matcher.Unread := by
  obtain ⟨id, criterion, hforget, rfl⟩ := hleaf
  exact ⟨rfl, by rw [Matcher.reset, hforget]⟩

theorem MakesLeaf.isNewLeaf (hmakes : MakesLeaf make) (hmade : make id = .ok matcher) :
    matcher.IsNewLeaf := by
  obtain ⟨criterion, hforget, heq⟩ := hmakes.exists_eq hmade
  exact ⟨_, criterion, hforget, heq⟩

end Leaves

section Members

variable {members : List Matcher} (hmembers : ∀ member ∈ members, member.Unread)
  {id : Option String} {matcher : Matcher}

include hmembers

theorem areBuiltIn_of_unread : areBuiltIn members = true :=
  (areBuiltIn_iff members).mpr fun member hmember ↦ (hmembers member hmember).isBuiltIn

theorem resetEach_of_unread : resetEach members = members := by
  rw [resetEach_eq_map]
  exact (List.map_congr_left fun member hmember ↦ (hmembers member hmember).reset).trans
    (List.map_id' members)

theorem unread_ofAll (hmade : ofAll members id = .ok matcher) : matcher.Unread := by
  obtain ⟨-, rfl⟩ := ofAll_eq_ok_iff.mp hmade
  exact ⟨areBuiltIn_of_unread hmembers, by rw [reset, resetEach_of_unread hmembers]⟩

theorem unread_ofAny (hmade : ofAny members id = .ok matcher) : matcher.Unread := by
  obtain ⟨-, rfl⟩ := ofAny_eq_ok_iff.mp hmade
  exact ⟨areBuiltIn_of_unread hmembers, by rw [reset, resetEach_of_unread hmembers]⟩

theorem unread_ofNegation (hmade : ofNegation members id = .ok matcher) : matcher.Unread := by
  obtain ⟨member, rfl, rfl⟩ := ofNegation_eq_ok_iff.mp hmade
  have hmember := hmembers member List.mem_cons_self
  exact ⟨hmember.isBuiltIn, congrArg (negation _) hmember.reset⟩

end Members

/-- A fresh copy of an unread tree is a copy of it, whatever was called before it was copied. -/
theorem Unread.fresh_afterCalls {matcher : Matcher} (hunread : matcher.Unread)
    (calls : List Call) : (matcher.afterCalls calls).fresh = matcher.copied := by
  rw [fresh, reset_copied, reset_afterCalls hunread.isBuiltIn, hunread.reset]

theorem unread_ofReference {target : Matcher} (htarget : target.Unread) (name : String)
    (calls : List Call) (id : Option String) :
    (ofReference name (target.afterCalls calls) id).Unread := by
  rw [ofReference, htarget.fresh_afterCalls]
  exact ⟨(isBuiltIn_copied target).trans htarget.isBuiltIn,
    congrArg (reference id name) ((reset_copied target).trans (congrArg copied htarget.reset))⟩

variable [Text.CharacterNames]

namespace Plan

/-- A matcher that is made after a plan has read nothing. -/
theorem Makes.unread {plan : Plan} {matcher : Matcher} (hmakes : plan.Makes matcher) :
    matcher.Unread := by
  have hmembers : ∀ {members : List Plan} {made : List Matcher},
      (∀ member ∈ members, ∀ {matcher}, member.Makes matcher → matcher.Unread) →
      MakesEach members made → ∀ matcher ∈ made, matcher.Unread := by
    intro members made ih hmade matcher hmatcher
    obtain ⟨member, hmember, hmakes⟩ :=
      exists_of_mem_of_forall₂ (makesEach_iff.mp hmade).flip hmatcher
    exact ih member hmember hmakes
  induction plan using induction generalizing matcher with
  | text words id => exact ((makesLeaf_ofText words).isNewLeaf hmakes).unread
  | literal words id => exact ((makesLeaf_ofLiteral words).isNewLeaf hmakes).unread
  | phrase words id => exact ((makesLeaf_ofPhrase words).isNewLeaf hmakes).unread
  | notice sought id => exact ((makesLeaf_ofNotice sought).isNewLeaf hmakes).unread
  | identifier name id => exact ((makesLeaf_ofIdentifier name).isNewLeaf hmakes).unread
  | all members id ih =>
    obtain ⟨made, hmade, hof⟩ := hmakes
    exact unread_ofAll (hmembers ih hmade) hof
  | any members id ih =>
    obtain ⟨made, hmade, hof⟩ := hmakes
    exact unread_ofAny (hmembers ih hmade) hof
  | negation members id ih =>
    obtain ⟨made, hmade, hof⟩ := hmakes
    exact unread_ofNegation (hmembers ih hmade) hof
  | reference name target id ih =>
    obtain ⟨made, calls, hmade, -, rfl⟩ := hmakes
    exact unread_ofReference (ih hmade) name calls id
  | registered name plan ih =>
    obtain ⟨made, hmade, rfl⟩ := hmakes
    exact ⟨(ih hmade).isBuiltIn, congrArg (Matcher.registered name) (ih hmade).reset⟩

/-- Plans of which each makes one matcher make one list of matchers. -/
private theorem makesEach_unique {members : List Plan} {firsts seconds : List Matcher}
    (hmembers : ∀ member ∈ members, ∀ {first second}, member.Makes first → member.Makes second →
      first = second)
    (hfirsts : MakesEach members firsts) (hseconds : MakesEach members seconds) :
    firsts = seconds := by
  induction members generalizing firsts seconds with
  | nil => rw [hfirsts, hseconds]
  | cons member rest ih =>
    obtain ⟨first, others, hfirst, hothers, rfl⟩ := hfirsts
    obtain ⟨second, others', hsecond, hothers', rfl⟩ := hseconds
    rw [hmembers member List.mem_cons_self hfirst hsecond,
      ih (fun other hother ↦ hmembers other (List.mem_cons_of_mem _ hother)) hothers hothers']

/-- All that is made after a plan is alike. -/
theorem Makes.unique {plan : Plan} {first second : Matcher} (hfirst : plan.Makes first)
    (hsecond : plan.Makes second) : first = second := by
  -- Equal members are combined in the same way, and targets are equal once they are copied.
  induction plan using induction generalizing first second with
  | text words id => exact Except.ok.inj (Eq.trans (Eq.symm hfirst) hsecond)
  | literal words id => exact Except.ok.inj (Eq.trans (Eq.symm hfirst) hsecond)
  | phrase words id => exact Except.ok.inj (Eq.trans (Eq.symm hfirst) hsecond)
  | notice sought id => exact Except.ok.inj (Eq.trans (Eq.symm hfirst) hsecond)
  | identifier name id => exact Except.ok.inj (Eq.trans (Eq.symm hfirst) hsecond)
  | all members id ih =>
    obtain ⟨firsts, hfirsts, hfirst⟩ := hfirst
    obtain ⟨seconds, hseconds, hsecond⟩ := hsecond
    rw [makesEach_unique ih hfirsts hseconds] at hfirst
    exact Except.ok.inj (hfirst.symm.trans hsecond)
  | any members id ih =>
    obtain ⟨firsts, hfirsts, hfirst⟩ := hfirst
    obtain ⟨seconds, hseconds, hsecond⟩ := hsecond
    rw [makesEach_unique ih hfirsts hseconds] at hfirst
    exact Except.ok.inj (hfirst.symm.trans hsecond)
  | negation members id ih =>
    obtain ⟨firsts, hfirsts, hfirst⟩ := hfirst
    obtain ⟨seconds, hseconds, hsecond⟩ := hsecond
    rw [makesEach_unique ih hfirsts hseconds] at hfirst
    exact Except.ok.inj (hfirst.symm.trans hsecond)
  | reference name target id ih =>
    obtain ⟨first, calls, hfirst, -, rfl⟩ := hfirst
    obtain ⟨second, calls', hsecond, -, rfl⟩ := hsecond
    rw [ofReference, ofReference, hfirst.unread.fresh_afterCalls, hsecond.unread.fresh_afterCalls,
      ih hfirst hsecond]
  | registered name plan ih =>
    obtain ⟨first, hfirst, rfl⟩ := hfirst
    obtain ⟨second, hsecond, rfl⟩ := hsecond
    rw [ih hfirst hsecond]

/-! ### What is left after calls -/

/-- Whether a matcher is what calls have left of one that was made after a plan and in which no
matcher occurs twice. -/
def Leaves (plan : Plan) (used : Matcher) : Prop :=
  ∃ made calls, plan.Makes made ∧ made.names.Nodup ∧ used = made.afterCalls calls

section Leaves

variable {plan : Plan} {used new : Matcher}

theorem Leaves.isBuiltIn (hused : plan.Leaves used) : used.isBuiltIn = true := by
  obtain ⟨made, calls, hmakes, -, rfl⟩ := hused
  rw [← isBuiltIn_reset, reset_afterCalls hmakes.unread.isBuiltIn, isBuiltIn_reset,
    hmakes.unread.isBuiltIn]

/-- No matcher occurs twice after calls. -/
theorem Leaves.nodup_names (hused : plan.Leaves used) : used.names.Nodup := by
  obtain ⟨made, calls, -, hdistinct, rfl⟩ := hused
  rw [names_afterCalls]
  exact hdistinct

/-- After a reset, what is left is what is made after the plan. -/
theorem Leaves.reset_eq (hused : plan.Leaves used) (hnew : plan.Makes new) : used.reset = new := by
  obtain ⟨made, calls, hmakes, -, rfl⟩ := hused
  rw [reset_afterCalls hmakes.unread.isBuiltIn, hmakes.unread.reset, hmakes.unique hnew]

/-- A fresh copy of what is left is a copy of what is made after the plan. -/
theorem Leaves.fresh_eq (hused : plan.Leaves used) (hnew : plan.Makes new) :
    used.fresh = new.copied := by
  obtain ⟨made, calls, hmakes, -, rfl⟩ := hused
  rw [hmakes.unread.fresh_afterCalls, hmakes.unique hnew]

end Leaves

end Plan

end LicenseHeaders.Matcher
