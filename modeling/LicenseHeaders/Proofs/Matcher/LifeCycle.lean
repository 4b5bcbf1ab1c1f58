import LicenseHeaders.Proofs.Matcher.Construction
import LicenseHeaders.Proofs.Matcher.ShortCircuit
import LicenseHeaders.Sample

/-!
# The life of a matcher between resets

A combination does not store its verdict. It asks members that have been read different numbers of
lines, and it may return early without asking. This module follows a tree from the reset state,
where nothing is known (`Matcher.Plan.Makes.verdict_eq`), through any calls.

Every call that returns a verdict returns the one that the tree has afterwards
(`Matcher.call_fst`), and a verdict that is known stays until a reset
(`Matcher.refinedBy_afterCalls`). Finishing settles every leaf, so a finished tree is decided
(`Matcher.verdict_finish_ne_unknown`), and as settled leaves read no lines it is a fixed point of
every call but a reset (`Matcher.feed_finish`, `Matcher.finish_finish`,
`Matcher.afterCalls_finish`). `Matcher.verdict_stays_until_reset` puts these together.
-/

set_option autoImplicit false
set_option relaxedAutoImplicit false

namespace LicenseHeaders

/-- Unknown verdicts are unknown together unless there are none, in a conjunction as in a
disjunction. -/
theorem Verdict.foldr_eq_unknown {combine : Verdict → Verdict → Verdict} {last : Verdict}
    (hlast : combine .unknown last = .unknown) (hboth : combine .unknown .unknown = .unknown)
    {verdicts : List Verdict} (hnonempty : verdicts ≠ [])
    (hunknown : ∀ verdict ∈ verdicts, verdict = .unknown) :
    verdicts.foldr combine last = .unknown := by
  induction verdicts with
  | nil => exact absurd rfl hnonempty
  | cons verdict rest ih =>
    obtain ⟨rfl, hrest⟩ := List.forall_mem_cons.mp hunknown
    rw [List.foldr_cons]
    by_cases hempty : rest = []
    · rw [hempty, List.foldr_nil, hlast]
    · rw [ih hempty hrest, hboth]

namespace Matcher

/-! ### Before anything is read -/

theorem IsNewLeaf.verdict_eq {matcher : Matcher} (hleaf : matcher.IsNewLeaf) :
    matcher.verdict = .unknown := by
  obtain ⟨id, criterion, -, rfl⟩ := hleaf
  rfl

/-- Nothing is known by a matcher that is newly made: a combination has at least one member, and
none of them knows anything. -/
theorem Plan.Makes.verdict_eq [Text.CharacterNames] {plan : Plan} {matcher : Matcher}
    (hmakes : plan.Makes matcher) :
    matcher.verdict = .unknown := by
  have hmembers : ∀ {members : List Plan} {made : List Matcher},
      (∀ member ∈ members, ∀ {matcher}, member.Makes matcher → matcher.verdict = .unknown) →
      MakesEach members made → ∀ known ∈ made.map verdict, known = .unknown := by
    intro members made ih hmade
    rw [List.forall_mem_map]
    intro matcher hmatcher
    obtain ⟨member, hmember, hmakes⟩ :=
      exists_of_mem_of_forall₂ (makesEach_iff.mp hmade).flip hmatcher
    exact ih member hmember hmakes
  induction plan using Plan.induction generalizing matcher with
  | text words id => exact ((makesLeaf_ofText words).isNewLeaf hmakes).verdict_eq
  | literal words id => exact ((makesLeaf_ofLiteral words).isNewLeaf hmakes).verdict_eq
  | phrase words id => exact ((makesLeaf_ofPhrase words).isNewLeaf hmakes).verdict_eq
  | notice sought id => exact ((makesLeaf_ofNotice sought).isNewLeaf hmakes).verdict_eq
  | identifier name id => exact ((makesLeaf_ofIdentifier name).isNewLeaf hmakes).verdict_eq
  | all members id ih =>
    obtain ⟨made, hmade, hof⟩ := hmakes
    obtain ⟨hnonempty, rfl⟩ := ofAll_eq_ok_iff.mp hof
    rw [verdict, verdicts_eq_map, Verdict.all_eq_foldr]
    exact Verdict.foldr_eq_unknown rfl rfl (by simpa using hnonempty) (hmembers ih hmade)
  | any members id ih =>
    obtain ⟨made, hmade, hof⟩ := hmakes
    obtain ⟨hnonempty, rfl⟩ := ofAny_eq_ok_iff.mp hof
    rw [verdict, verdicts_eq_map, Verdict.any_eq_foldr]
    exact Verdict.foldr_eq_unknown rfl rfl (by simpa using hnonempty) (hmembers ih hmade)
  | negation members id ih =>
    obtain ⟨made, hmade, hof⟩ := hmakes
    obtain ⟨member, rfl, rfl⟩ := ofNegation_eq_ok_iff.mp hof
    have hmember : member.verdict = .unknown :=
      hmembers ih hmade _ (List.mem_map_of_mem List.mem_cons_self)
    rw [verdict, hmember]
    rfl
  | reference name target id ih =>
    obtain ⟨made, calls, hmade, -, rfl⟩ := hmakes
    rw [ofReference, hmade.unread.fresh_afterCalls, verdict, verdict_copied, ih hmade]
  | registered name plan ih =>
    obtain ⟨made, hmade, rfl⟩ := hmakes
    exact (ih hmade : made.verdict = .unknown)

/-! ### What a call returns -/

/-- Finishing returns the verdict that the matcher then has. Assumes: a tree of the built-in
kinds. -/
theorem finish_fst {matcher : Matcher} (hbuiltIn : matcher.isBuiltIn = true) :
    matcher.finish.1 = matcher.finish.2.verdict := by
  induction matcher using induction with
  | leaf id criterion verdict => rfl
  | probe id verdict fed resets => cases hbuiltIn
  | all id members ih =>
    have hmembers := (areBuiltIn_iff members).mp hbuiltIn
    simp only [finish, finishEach_eq, verdict, verdicts_eq_map, List.map_map]
    exact congrArg Verdict.all (List.map_congr_left fun member hmember ↦
      ih member hmember (hmembers member hmember))
  | any id members ih =>
    have hmembers := (areBuiltIn_iff members).mp hbuiltIn
    simp only [finish, finishEach_eq, verdict, verdicts_eq_map, List.map_map]
    exact congrArg Verdict.any (List.map_congr_left fun member hmember ↦
      ih member hmember (hmembers member hmember))
  | negation id member ih => exact congrArg Verdict.negate (ih hbuiltIn)
  | reference id name copy ih => exact ih hbuiltIn
  | registered name matcher ih => exact ih hbuiltIn

/-- A call other than a reset returns the verdict that the matcher then has. Assumes: a tree of the
built-in kinds. -/
theorem call_fst {matcher : Matcher} (hbuiltIn : matcher.isBuiltIn = true) {call : Call}
    (hcall : call ≠ .reset) : (matcher.call call).1 = some (matcher.call call).2.verdict := by
  cases call with
  | feed line => exact congrArg some (feed_fst matcher line)
  | ask => rfl
  | finish => exact congrArg some (finish_fst hbuiltIn)
  | reset => exact absurd rfl hcall

/-! ### A verdict that is known -/

/-- No call but a reset takes a verdict back. Assumes: a tree of the built-in kinds. -/
theorem refinedBy_call {matcher : Matcher} (hbuiltIn : matcher.isBuiltIn = true) {call : Call}
    (hcall : call ≠ .reset) : matcher.verdict.RefinedBy (matcher.call call).2.verdict := by
  cases call with
  | feed line => exact refinedBy_feed matcher line
  | ask => exact .refl _
  | finish =>
    have hrefined := refinedBy_finish matcher
    rw [finish_fst hbuiltIn] at hrefined
    exact hrefined
  | reset => exact absurd rfl hcall

/-- No calls without a reset take a verdict back. Assumes: a tree of the built-in kinds. -/
theorem refinedBy_afterCalls {matcher : Matcher} (hbuiltIn : matcher.isBuiltIn = true)
    {calls : List Call} (hcalls : .reset ∉ calls) :
    matcher.verdict.RefinedBy (matcher.afterCalls calls).verdict := by
  induction calls generalizing matcher with
  | nil => exact .refl _
  | cons call rest ih =>
    have hcall := Ne.symm (List.ne_of_not_mem_cons hcalls)
    have hrest := List.not_mem_of_not_mem_cons hcalls
    rw [afterCalls_cons]
    rcases refinedBy_call hbuiltIn hcall with hunknown | hsame
    · exact Or.inl hunknown
    · rw [← hsame]
      exact ih (isBuiltIn_call hbuiltIn call) hrest

/-! ### A finished tree -/

/-- A finished tree is decided. Assumes: a tree of the built-in kinds. -/
theorem verdict_finish_ne_unknown {matcher : Matcher} (hbuiltIn : matcher.isBuiltIn = true) :
    matcher.finish.2.verdict ≠ .unknown := by
  rw [← finish_fst hbuiltIn, ← feedLines_nil matcher, finish_feedLines, Verdict.ofBool]
  split <;> exact Verdict.noConfusion

/-- A line changes nothing in a finished tree: its leaves are settled, so whichever of them it
reaches does not read it. Assumes: a tree of the built-in kinds. -/
theorem feed_finish {matcher : Matcher} (hbuiltIn : matcher.isBuiltIn = true) (line : List Char) :
    (matcher.finish.2.feed line).2 = matcher.finish.2 := by
  have hmembers : ∀ stop {members : List Matcher},
      (∀ member ∈ members, member.isBuiltIn = true →
        (member.finish.2.feed line).2 = member.finish.2) →
      areBuiltIn members = true →
      (feedUntil stop line (finishEach members).2).2 = (finishEach members).2 := by
    intro stop members ih hmembers
    rw [areBuiltIn_iff] at hmembers
    have hpairs : List.Forall₂ (fun before after ↦ after = before) (finishEach members).2
        (feedUntil stop line (finishEach members).2).2 := by
      refine forall₂_feedUntil stop line (fun _ _ ↦ rfl) ?_
      rw [finishEach_eq, List.forall_mem_map]
      exact fun member hmember ↦ ih member hmember (hmembers member hmember)
    rw [← List.forall₂_eq_eq_eq]
    exact hpairs.flip
  induction matcher using induction with
  | leaf id criterion verdict => cases verdict <;> rfl
  | probe id verdict fed resets => cases hbuiltIn
  | all id members ih => exact congrArg (Matcher.all id) (hmembers _ ih hbuiltIn)
  | any id members ih => exact congrArg (Matcher.any id) (hmembers _ ih hbuiltIn)
  | negation id member ih => exact congrArg (Matcher.negation id) (ih hbuiltIn)
  | reference id name copy ih => exact congrArg (Matcher.reference id name) (ih hbuiltIn)
  | registered name matcher ih => exact congrArg (Matcher.registered name) (ih hbuiltIn)

/-- Finishing twice changes no more. Assumes: a tree of the built-in kinds. -/
theorem finish_finish {matcher : Matcher} (hbuiltIn : matcher.isBuiltIn = true) :
    matcher.finish.2.finish.2 = matcher.finish.2 := by
  induction matcher using induction with
  | leaf id criterion verdict => cases verdict <;> rfl
  | probe id verdict fed resets => cases hbuiltIn
  | all id members ih =>
    have hmembers := (areBuiltIn_iff members).mp hbuiltIn
    simp only [finish, finishEach_eq, List.map_map]
    exact congrArg (Matcher.all id) (List.map_congr_left fun member hmember ↦
      ih member hmember (hmembers member hmember))
  | any id members ih =>
    have hmembers := (areBuiltIn_iff members).mp hbuiltIn
    simp only [finish, finishEach_eq, List.map_map]
    exact congrArg (Matcher.any id) (List.map_congr_left fun member hmember ↦
      ih member hmember (hmembers member hmember))
  | negation id member ih => exact congrArg (Matcher.negation id) (ih hbuiltIn)
  | reference id name copy ih => exact congrArg (Matcher.reference id name) (ih hbuiltIn)
  | registered name matcher ih => exact congrArg (Matcher.registered name) (ih hbuiltIn)

/-- A call other than a reset changes nothing in a finished tree. Assumes: a tree of the built-in
kinds. -/
theorem call_finish {matcher : Matcher} (hbuiltIn : matcher.isBuiltIn = true) {call : Call}
    (hcall : call ≠ .reset) : (matcher.finish.2.call call).2 = matcher.finish.2 := by
  cases call with
  | feed line => exact feed_finish hbuiltIn line
  | ask => rfl
  | finish => exact finish_finish hbuiltIn
  | reset => exact absurd rfl hcall

/-- Calls without a reset change nothing in a finished tree, and each returns what finishing has
returned. Assumes: a tree of the built-in kinds. -/
theorem afterCalls_finish {matcher : Matcher} (hbuiltIn : matcher.isBuiltIn = true)
    {calls : List Call} (hcalls : .reset ∉ calls) :
    matcher.finish.2.afterCalls calls = matcher.finish.2 ∧
      matcher.finish.2.answers calls = calls.map fun _ ↦ some matcher.finish.1 := by
  induction calls with
  | nil => exact ⟨rfl, rfl⟩
  | cons call rest ih =>
    have hcall := Ne.symm (List.ne_of_not_mem_cons hcalls)
    have hrest := List.not_mem_of_not_mem_cons hcalls
    have hsame := call_finish hbuiltIn hcall
    have hfinished : matcher.finish.2.isBuiltIn = true := isBuiltIn_call hbuiltIn .finish
    rw [afterCalls_cons, answers, call_fst hfinished hcall, hsame,
      ← finish_fst hbuiltIn, (ih hrest).2]
    exact ⟨(ih hrest).1, rfl⟩

/-! ### The life of a tree -/

/-- From its construction on, whatever it has been called, a tree reports the verdict that it has,
and it takes no verdict back before a reset. A call that returns a verdict returns the one that the
tree then has. When a call has returned that the header holds or fails, the tree keeps that verdict
through all calls up to a reset. A finished tree is decided, and up to a reset no call changes
anything in it, be it a line or finishing again, and each returns what finishing has returned. After
a reset nothing is known. -/
theorem verdict_stays_until_reset [Text.CharacterNames] {plan : Plan} {used : Matcher}
    (hused : plan.Leaves used) :
    (∀ call, call ≠ .reset → (used.call call).1 = some (used.call call).2.verdict) ∧
    (∀ call verdict, (used.call call).1 = some verdict → verdict ≠ .unknown →
      ∀ later, .reset ∉ later → ((used.call call).2.afterCalls later).verdict = verdict) ∧
    (used.finish.2.verdict ≠ .unknown ∧
      ∀ later, .reset ∉ later →
        used.finish.2.afterCalls later = used.finish.2 ∧
        used.finish.2.answers later = later.map fun _ ↦ some used.finish.1) ∧
    used.reset.verdict = .unknown := by
  have hbuiltIn := hused.isBuiltIn
  refine ⟨fun call hcall ↦ call_fst hbuiltIn hcall,
    fun call verdict hreturned hdecided later hlater ↦ ?_,
    ⟨verdict_finish_ne_unknown hbuiltIn, fun later hlater ↦ afterCalls_finish hbuiltIn hlater⟩, ?_⟩
  · have hcall : call ≠ .reset := by
      rintro rfl
      cases hreturned
    rw [call_fst hbuiltIn hcall, Option.some_inj] at hreturned
    rw [← hreturned] at hdecided ⊢
    exact (refinedBy_afterCalls (isBuiltIn_call hbuiltIn call) hlater).eq_of_ne_unknown hdecided
  · obtain ⟨made, calls, hmakes, hdistinct, rfl⟩ := hused
    rw [reset_afterCalls hmakes.unread.isBuiltIn, hmakes.unread.reset, hmakes.verdict_eq]

section Sample

open Sample

/-- A text beside the negation of another. Read a line with both, the conjunction fails and stays
so, whatever follows. -/
theorem verdict_stays_until_reset_negation :
    let plan : Plan := .all [.literal "MIT" none, .negation [.literal "GPL" none] none] none
    let made := all none [leaf none (.literal "MIT") .unknown,
      negation none (leaf none (.literal "GPL") .unknown)]
    let used := made.afterCalls [.feed ['M', 'I', 'T'], .ask]
    let read := used.feed ['G', 'P', 'L']
    (plan.Leaves used ∧ used.verdict = .unknown ∧ read.1 = .fails) ∧
      read.1 = read.2.verdict ∧
      (read.2.afterCalls [.feed ['M', 'I', 'T'], .finish, .ask]).verdict = .fails ∧
      used.finish.1 = .holds ∧
      used.finish.2.answers [.feed ['G', 'P', 'L'], .finish, .ask] =
        [some .holds, some .holds, some .holds] ∧
      used.reset.verdict = .unknown := by
  intro plan made used read
  have hcomputed : used.verdict = .unknown ∧ read.1 = .fails ∧ used.finish.1 = .holds := by
    refine ⟨?_, ?_, ?_⟩ <;> cbv
  obtain ⟨hunknown, hread, hfinish⟩ := hcomputed
  have hmakes : plan.Makes made :=
    ⟨_, ⟨_, _, rfl, ⟨_, _, ⟨_, ⟨_, _, rfl, rfl, rfl⟩, rfl⟩, rfl, rfl⟩, rfl⟩, rfl⟩
  have hused : plan.Leaves used := ⟨made, _, hmakes, List.nodup_nil, rfl⟩
  obtain ⟨hreturned, hkept, ⟨-, hfinished⟩, hreset⟩ := verdict_stays_until_reset hused
  refine ⟨⟨hused, hunknown, hread⟩, ?_, ?_, hfinish, ?_, hreset⟩
  · exact Option.some_inj.mp (hreturned (.feed ['G', 'P', 'L']) Call.noConfusion)
  · exact hkept (.feed ['G', 'P', 'L']) .fails (congrArg some hread) Verdict.noConfusion _
      (by decide)
  · rw [(hfinished _ (by decide)).2, hfinish]
    rfl

end Sample

end Matcher

end LicenseHeaders
