import LicenseHeaders.Matcher.Basic
import LicenseHeaders.Proofs.Formula

/-!
# Reading lines to a tree of matchers

What one call does to a matcher, for trees of any shape and in any state. The verdict that reading
a line returns is the verdict of the matcher afterwards (`Matcher.feed_fst`), and a verdict that is
known is changed neither by a line nor by the end of the header (`Matcher.refinedBy_feed`,
`Matcher.refinedBy_finish`). So a decided matcher stays decided however many lines follow
(`Matcher.refinedBy_feedLines`, `Matcher.finish_feedLines_of_decided`).

`Matcher.induction` is induction over trees, with the hypothesis for every member of a combination.
A tree of the built-in kinds that has been reset has nothing more to forget (`Matcher.reset_reset`).

`Matcher.feedUntil_cases` says what a conjunction or disjunction does with its members: they are
all read the line, or one of them returns the verdict that ends the reading.
-/

set_option autoImplicit false
set_option relaxedAutoImplicit false

namespace LicenseHeaders.Matcher

/-- Induction over trees of matchers. -/
@[elab_as_elim]
theorem induction {motive : Matcher → Prop}
    (leaf : ∀ id criterion verdict, motive (leaf id criterion verdict))
    (probe : ∀ id verdict fed resets, motive (probe id verdict fed resets))
    (all : ∀ id members, (∀ member ∈ members, motive member) → motive (all id members))
    (any : ∀ id members, (∀ member ∈ members, motive member) → motive (any id members))
    (negation : ∀ id member, motive member → motive (negation id member))
    (reference : ∀ id name copy, motive copy → motive (reference id name copy))
    (registered : ∀ name matcher, motive matcher → motive (registered name matcher)) :
    ∀ matcher, motive matcher
  | .leaf id criterion verdict => leaf id criterion verdict
  | .probe id verdict fed resets => probe id verdict fed resets
  | .all id members => all id members fun member _ ↦
      induction leaf probe all any negation reference registered member
  | .any id members => any id members fun member _ ↦
      induction leaf probe all any negation reference registered member
  | .negation id member =>
    negation id member (induction leaf probe all any negation reference registered member)
  | .reference id name copy =>
    reference id name copy (induction leaf probe all any negation reference registered copy)
  | .registered name matcher =>
    registered name matcher (induction leaf probe all any negation reference registered matcher)

/-! ### Several matchers at once -/

theorem verdicts_eq_map (members : List Matcher) : verdicts members = members.map verdict := by
  induction members with
  | nil => rfl
  | cons member rest ih => rw [verdicts, ih, List.map_cons]

theorem finishEach_eq (members : List Matcher) :
    finishEach members =
      (members.map fun member ↦ member.finish.1, members.map fun member ↦ member.finish.2) := by
  induction members with
  | nil => rfl
  | cons member rest ih => rw [finishEach, ih, List.map_cons, List.map_cons]

theorem resetEach_eq_map (members : List Matcher) : resetEach members = members.map reset := by
  induction members with
  | nil => rfl
  | cons member rest ih => rw [resetEach, ih, List.map_cons]

theorem copiedEach_eq_map (members : List Matcher) : copiedEach members = members.map copied := by
  induction members with
  | nil => rfl
  | cons member rest ih => rw [copiedEach, ih, List.map_cons]

/-! ### Reading a line -/

/-- Reading a line up to the first member with a verdict does one of two things: some member
returns that verdict, or every member has been read the line. Assumes: the members return their
verdict. -/
theorem feedUntil_cases (stop : Verdict) (line : List Char) {members : List Matcher}
    (hreturn : ∀ member ∈ members, (member.feed line).1 = (member.feed line).2.verdict) :
    (feedUntil stop line members).1 = true ∧
        stop ∈ (feedUntil stop line members).2.map verdict ∨
      feedUntil stop line members = (false, members.map fun member ↦ (member.feed line).2) := by
  induction members with
  | nil => exact Or.inr rfl
  | cons member rest ih =>
    have hmember := hreturn member List.mem_cons_self
    simp only [feedUntil]
    by_cases hstop : (member.feed line).1 = stop
    · rw [if_pos hstop]
      refine Or.inl ⟨rfl, ?_⟩
      rw [List.map_cons, ← hmember, hstop]
      exact List.mem_cons_self
    · rw [if_neg hstop]
      rcases ih fun other hother ↦ hreturn other (List.mem_cons_of_mem _ hother) with
        ⟨hstopped, hmem⟩ | hrest
      · exact Or.inl ⟨hstopped, List.mem_cons_of_mem _ hmem⟩
      · exact Or.inr (by rw [hrest, List.map_cons])

/-- A member of a combination is read a line or left alone. Assumes: a relation between a matcher
and what becomes of it that holds in both cases. -/
theorem forall₂_feedUntil {relation : Matcher → Matcher → Prop} (stop : Verdict)
    (line : List Char) {members : List Matcher} (hleft : ∀ member ∈ members, relation member member)
    (hfed : ∀ member ∈ members, relation member (member.feed line).2) :
    List.Forall₂ relation members (feedUntil stop line members).2 := by
  induction members with
  | nil => exact .nil
  | cons member rest ih =>
    have hrest := fun other (hother : other ∈ rest) ↦ hleft other (List.mem_cons_of_mem _ hother)
    simp only [feedUntil]
    by_cases hstop : (member.feed line).1 = stop
    · rw [if_pos hstop]
      exact .cons (hfed member List.mem_cons_self) (List.forall₂_same.mpr hrest)
    · rw [if_neg hstop]
      exact .cons (hfed member List.mem_cons_self)
        (ih hrest fun other hother ↦ hfed other (List.mem_cons_of_mem _ hother))

/-- Reading a line returns the verdict that the matcher then has. -/
theorem feed_fst (matcher : Matcher) (line : List Char) :
    (matcher.feed line).1 = (matcher.feed line).2.verdict := by
  induction matcher using induction with
  | leaf id criterion verdict => cases verdict <;> rfl
  | probe id verdict fed resets => rfl
  | all id members ih =>
    simp only [feed, verdict, verdicts_eq_map]
    rcases feedUntil_cases .fails line ih with ⟨hstopped, hmem⟩ | hfed
    · rw [if_pos hstopped, Verdict.all_eq_fails_of_mem hmem]
    · rw [hfed]
      rfl
  | any id members ih =>
    simp only [feed, verdict, verdicts_eq_map]
    rcases feedUntil_cases .holds line ih with ⟨hstopped, hmem⟩ | hfed
    · rw [if_pos hstopped, Verdict.any_eq_holds_of_mem hmem]
    · rw [hfed]
      rfl
  | negation id member ih => simp only [feed, verdict, ih]
  | reference id name copy ih => simp only [feed, verdict, ih]
  | registered name matcher ih => simp only [feed, verdict, ih]

/-- Reading a line takes no verdict back. -/
theorem refinedBy_feed (matcher : Matcher) (line : List Char) :
    matcher.verdict.RefinedBy (matcher.feed line).2.verdict := by
  induction matcher using induction with
  | leaf id criterion verdict =>
    cases verdict
    · exact Or.inl rfl
    · exact Or.inr rfl
    · exact Or.inr rfl
  | probe id verdict fed resets => exact .refl _
  | all id members ih =>
    simp only [feed, verdict, verdicts_eq_map]
    refine Verdict.all_refinedBy ?_
    rw [List.forall₂_map_left_iff, List.forall₂_map_right_iff]
    exact forall₂_feedUntil _ _ (fun member _ ↦ .refl _) ih
  | any id members ih =>
    simp only [feed, verdict, verdicts_eq_map]
    refine Verdict.any_refinedBy ?_
    rw [List.forall₂_map_left_iff, List.forall₂_map_right_iff]
    exact forall₂_feedUntil _ _ (fun member _ ↦ .refl _) ih
  | negation id member ih =>
    simp only [feed, verdict]
    exact ih.negate
  | reference id name copy ih => simpa only [feed, verdict] using ih
  | registered name matcher ih => simpa only [feed, verdict] using ih

/-! ### Finishing -/

/-- Finishing takes no verdict back. -/
theorem refinedBy_finish (matcher : Matcher) : matcher.verdict.RefinedBy matcher.finish.1 := by
  induction matcher using induction with
  | leaf id criterion verdict => exact Verdict.refinedBy_settle verdict
  | probe id verdict fed resets => exact Verdict.refinedBy_settle verdict
  | all id members ih =>
    simp only [finish, verdict, verdicts_eq_map, finishEach_eq]
    refine Verdict.all_refinedBy ?_
    rw [List.forall₂_map_left_iff, List.forall₂_map_right_iff]
    exact List.forall₂_same.mpr ih
  | any id members ih =>
    simp only [finish, verdict, verdicts_eq_map, finishEach_eq]
    refine Verdict.any_refinedBy ?_
    rw [List.forall₂_map_left_iff, List.forall₂_map_right_iff]
    exact List.forall₂_same.mpr ih
  | negation id member ih =>
    simp only [finish, verdict]
    exact ih.negate
  | reference id name copy ih => simpa only [finish, verdict] using ih
  | registered name matcher ih => simpa only [finish, verdict] using ih

/-! ### Reading several lines -/

/-- The matcher that has been read lines in order. -/
def feedLines (matcher : Matcher) (lines : List (List Char)) : Matcher :=
  lines.foldl (fun matcher line ↦ (matcher.feed line).2) matcher

@[simp] theorem feedLines_nil (matcher : Matcher) : matcher.feedLines [] = matcher :=
  rfl

@[simp] theorem feedLines_cons (matcher : Matcher) (line : List Char) (lines : List (List Char)) :
    matcher.feedLines (line :: lines) = (matcher.feed line).2.feedLines lines :=
  rfl

theorem feedLines_append (matcher : Matcher) (first second : List (List Char)) :
    matcher.feedLines (first ++ second) = (matcher.feedLines first).feedLines second :=
  List.foldl_append

/-- The last line is read to the matcher that has been read the lines before it. -/
theorem feedLines_concat (matcher : Matcher) (lines : List (List Char)) (line : List Char) :
    matcher.feedLines (lines ++ [line]) = ((matcher.feedLines lines).feed line).2 := by
  rw [feedLines_append, feedLines_cons, feedLines_nil]

/-- Reading further lines takes no verdict back. -/
theorem refinedBy_feedLines (matcher : Matcher) (lines : List (List Char)) :
    matcher.verdict.RefinedBy (matcher.feedLines lines).verdict := by
  induction lines generalizing matcher with
  | nil => exact .refl _
  | cons line rest ih =>
    rw [feedLines_cons]
    rcases matcher.refinedBy_feed line with hunknown | hsame
    · exact Or.inl hunknown
    · rw [← hsame]
      exact ih _

/-- What a decided matcher finishes with is decided too: neither further lines nor the end of the
header change it. -/
theorem finish_feedLines_of_decided {matcher : Matcher} (hdecided : matcher.verdict ≠ .unknown)
    (lines : List (List Char)) : (matcher.feedLines lines).finish.1 = matcher.verdict := by
  have hread := (matcher.refinedBy_feedLines lines).eq_of_ne_unknown hdecided
  rw [← hread] at hdecided ⊢
  exact (refinedBy_finish _).eq_of_ne_unknown hdecided

/-! ### Forgetting -/

mutual

/-- Whether a tree consists of the built-in kinds of matchers. -/
def isBuiltIn : Matcher → Bool
  | leaf .. => true
  | probe .. => false
  | all _ members => areBuiltIn members
  | any _ members => areBuiltIn members
  | negation _ member => member.isBuiltIn
  | reference _ _ copy => copy.isBuiltIn
  | registered _ matcher => matcher.isBuiltIn

/-- Whether several trees consist of the built-in kinds of matchers. -/
def areBuiltIn : List Matcher → Bool
  | [] => true
  | member :: rest => member.isBuiltIn && areBuiltIn rest

end

theorem areBuiltIn_iff (members : List Matcher) :
    areBuiltIn members = true ↔ ∀ member ∈ members, member.isBuiltIn = true := by
  induction members with
  | nil => simp [areBuiltIn]
  | cons member rest ih => simp [areBuiltIn, ih]

theorem isBuiltIn_copied (matcher : Matcher) : matcher.copied.isBuiltIn = matcher.isBuiltIn := by
  induction matcher using induction with
  | leaf id criterion verdict => rfl
  | probe id verdict fed resets => rfl
  | all id members ih =>
    rw [Bool.eq_iff_iff]
    simp only [copied, isBuiltIn, areBuiltIn_iff, copiedEach_eq_map, List.forall_mem_map]
    exact forall₂_congr fun member hmember ↦ by rw [ih member hmember]
  | any id members ih =>
    rw [Bool.eq_iff_iff]
    simp only [copied, isBuiltIn, areBuiltIn_iff, copiedEach_eq_map, List.forall_mem_map]
    exact forall₂_congr fun member hmember ↦ by rw [ih member hmember]
  | negation id member ih => exact ih
  | reference id name copy ih => exact ih
  | registered name matcher ih => exact ih

theorem isBuiltIn_reset (matcher : Matcher) : matcher.reset.isBuiltIn = matcher.isBuiltIn := by
  induction matcher using induction with
  | leaf id criterion verdict => rfl
  | probe id verdict fed resets => rfl
  | all id members ih =>
    rw [Bool.eq_iff_iff]
    simp only [reset, isBuiltIn, areBuiltIn_iff, resetEach_eq_map, List.forall_mem_map]
    exact forall₂_congr fun member hmember ↦ by rw [ih member hmember]
  | any id members ih =>
    rw [Bool.eq_iff_iff]
    simp only [reset, isBuiltIn, areBuiltIn_iff, resetEach_eq_map, List.forall_mem_map]
    exact forall₂_congr fun member hmember ↦ by rw [ih member hmember]
  | negation id member ih => exact ih
  | reference id name copy ih => exact ih
  | registered name matcher ih => exact ih

/-- A fresh copy of a tree consists of the kinds that the tree does. -/
theorem isBuiltIn_fresh (matcher : Matcher) : matcher.fresh.isBuiltIn = matcher.isBuiltIn :=
  (isBuiltIn_reset matcher.copied).trans (isBuiltIn_copied matcher)

/-- Forgetting twice forgets no more. Assumes: a tree of the built-in kinds. -/
theorem reset_reset {matcher : Matcher} (hbuiltIn : matcher.isBuiltIn = true) :
    matcher.reset.reset = matcher.reset := by
  induction matcher using induction with
  | leaf id criterion verdict => cases criterion <;> rfl
  | probe id verdict fed resets => cases hbuiltIn
  | all id members ih =>
    have hmembers := (areBuiltIn_iff members).mp hbuiltIn
    simp only [reset, resetEach_eq_map, List.map_map]
    exact congrArg (Matcher.all id) (List.map_congr_left fun member hmember ↦
      ih member hmember (hmembers member hmember))
  | any id members ih =>
    have hmembers := (areBuiltIn_iff members).mp hbuiltIn
    simp only [reset, resetEach_eq_map, List.map_map]
    exact congrArg (Matcher.any id) (List.map_congr_left fun member hmember ↦
      ih member hmember (hmembers member hmember))
  | negation id member ih => exact congrArg (Matcher.negation id) (ih hbuiltIn)
  | reference id name copy ih => exact congrArg (Matcher.reference id name) (ih hbuiltIn)
  | registered name matcher ih => exact congrArg (Matcher.registered name) (ih hbuiltIn)

/-- A fresh copy has nothing to forget. -/
theorem reset_fresh {matcher : Matcher} (hbuiltIn : matcher.isBuiltIn = true) :
    matcher.fresh.reset = matcher.fresh :=
  reset_reset ((isBuiltIn_copied matcher).trans hbuiltIn)

end LicenseHeaders.Matcher
