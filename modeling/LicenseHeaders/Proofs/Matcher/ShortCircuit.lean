import LicenseHeaders.Proofs.Matcher.Feeding
import Mathlib.Data.List.Induction

/-!
# Short circuits

A conjunction stops reading a line to its members at the first that fails, and a disjunction at
the first that holds, so members further right miss lines. This module shows that the verdict of a
tree does not show it.

`Matcher.formula` is the formula that a tree stands for, with its leaves as atoms, and
`Matcher.eagerVerdict` is its three-valued value when every leaf stands alone and is read every
line. `Matcher.Follows` is the invariant: a tree that was read lines with short circuits is decided
with the eager verdict, or it has the shape of the tree it started as and its members follow
theirs. A member that missed a line belongs to a decided combination, and nothing that happens in
one matters any more. Reading a line keeps the invariant (`Matcher.follows_feed`), so it holds
after every run (`Matcher.follows_feedLines`). With it the verdict is the eager verdict at any time
(`Matcher.verdict_feedLines`), and the verdict at the end is the truth value of the formula in which
a leaf that has not found what it looks for counts as false (`Matcher.finish_feedLines`).

Both hold from any state of a tree. For a tree of the built-in kinds that has been reset, where a
leaf holds or is unknown, they are put together at the end.
-/

set_option autoImplicit false
set_option relaxedAutoImplicit false

namespace LicenseHeaders.Matcher

/-! ### The formula of a tree -/

mutual

/-- The formula that a tree stands for. Its atoms are the leaves. -/
def formula : Matcher → Formula Matcher
  | leaf id criterion verdict => .atom (leaf id criterion verdict)
  | probe id verdict fed resets => .atom (probe id verdict fed resets)
  | all _ members => .all (formulas members)
  | any _ members => .any (formulas members)
  | negation _ member => .negation member.formula
  | reference _ _ copy => copy.formula
  | registered _ matcher => matcher.formula

/-- The formulas that several trees stand for. -/
def formulas : List Matcher → List (Formula Matcher)
  | [] => []
  | member :: rest => member.formula :: formulas rest

end

theorem formulas_eq_map (members : List Matcher) : formulas members = members.map formula := by
  induction members with
  | nil => rfl
  | cons member rest ih => rw [formulas, ih, List.map_cons]

/-- The verdict on lines when every leaf is read all of them. -/
def eagerVerdict (lines : List (List Char)) (matcher : Matcher) : Verdict :=
  matcher.formula.kleene fun part ↦ (part.feedLines lines).verdict

section Eager

variable (lines : List (List Char))

theorem eagerVerdict_all (id : Option String) (members : List Matcher) :
    eagerVerdict lines (all id members) = .all (members.map (eagerVerdict lines)) := by
  simp only [eagerVerdict, formula, Formula.kleene, Formula.kleeneAll_eq, formulas_eq_map,
    List.map_map]
  rfl

theorem eagerVerdict_any (id : Option String) (members : List Matcher) :
    eagerVerdict lines (any id members) = .any (members.map (eagerVerdict lines)) := by
  simp only [eagerVerdict, formula, Formula.kleene, Formula.kleeneAny_eq, formulas_eq_map,
    List.map_map]
  rfl

theorem eagerVerdict_negation (id : Option String) (member : Matcher) :
    eagerVerdict lines (negation id member) = (eagerVerdict lines member).negate :=
  rfl

theorem eagerVerdict_reference (id : Option String) (name : String) (copy : Matcher) :
    eagerVerdict lines (reference id name copy) = eagerVerdict lines copy :=
  rfl

theorem eagerVerdict_registered (name : String) (matcher : Matcher) :
    eagerVerdict lines (registered name matcher) = eagerVerdict lines matcher :=
  rfl

/-- Reading one more line to every leaf takes no verdict back. -/
theorem refinedBy_eagerVerdict (line : List Char) (matcher : Matcher) :
    (eagerVerdict lines matcher).RefinedBy (eagerVerdict (lines ++ [line]) matcher) := by
  refine Formula.kleene_refinedBy (fun part ↦ ?_) matcher.formula
  rw [feedLines_concat]
  exact refinedBy_feed _ _

end Eager

/-! ### The invariant -/

/-- A tree that has been read lines with short circuits, beside the tree that it started as: it is
decided as the eager reading decides it, or it has kept step so far. -/
inductive Follows (lines : List (List Char)) : Matcher → Matcher → Prop
  /-- The tree is decided, with the eager verdict. -/
  | decided {origin current : Matcher} (hdecided : current.verdict ≠ .unknown)
      (hvalue : current.verdict = origin.eagerVerdict lines) : Follows lines origin current
  /-- A leaf has been read every line. -/
  | leaf (id : Option String) (criterion : Criterion) (verdict : Verdict) :
      Follows lines (leaf id criterion verdict) ((leaf id criterion verdict).feedLines lines)
  | probe (id : Option String) (verdict : Verdict) (fed resets : Nat) :
      Follows lines (probe id verdict fed resets) ((probe id verdict fed resets).feedLines lines)
  | all {id : Option String} {origins currents : List Matcher}
      (hmembers : List.Forall₂ (Follows lines) origins currents) :
      Follows lines (all id origins) (all id currents)
  | any {id : Option String} {origins currents : List Matcher}
      (hmembers : List.Forall₂ (Follows lines) origins currents) :
      Follows lines (any id origins) (any id currents)
  | negation {id : Option String} {origin current : Matcher}
      (hmember : Follows lines origin current) :
      Follows lines (negation id origin) (negation id current)
  | reference {id : Option String} {name : String} {origin current : Matcher}
      (hcopy : Follows lines origin current) :
      Follows lines (reference id name origin) (reference id name current)
  | registered {name : String} {origin current : Matcher}
      (hmatcher : Follows lines origin current) :
      Follows lines (registered name origin) (registered name current)

/-- A tree follows itself before any line. -/
theorem follows_refl (matcher : Matcher) : Follows [] matcher matcher := by
  induction matcher using induction with
  | leaf id criterion verdict => exact .leaf id criterion verdict
  | probe id verdict fed resets => exact .probe id verdict fed resets
  | all id members ih => exact .all (List.forall₂_same.mpr ih)
  | any id members ih => exact .any (List.forall₂_same.mpr ih)
  | negation id member ih => exact .negation ih
  | reference id name copy ih => exact .reference ih
  | registered name matcher ih => exact .registered ih

/-- Members that follow each other agree in what a tree and its follower agree in. -/
private theorem map_eq_of_forall₂ {lines : List (List Char)} {before after : Matcher → Verdict}
    {origins currents : List Matcher}
    (hagree : ∀ origin ∈ origins, ∀ current, Follows lines origin current →
      after current = before origin)
    (hmembers : List.Forall₂ (Follows lines) origins currents) :
    currents.map after = origins.map before := by
  induction hmembers with
  | nil => rfl
  | cons hhead _ ih =>
    rw [List.map_cons, List.map_cons, hagree _ List.mem_cons_self _ hhead,
      ih fun origin horigin ↦ hagree origin (List.mem_cons_of_mem _ horigin)]

/-- The verdict of a tree that follows is the eager verdict. -/
theorem verdict_of_follows {lines : List (List Char)} {origin current : Matcher}
    (hfollows : Follows lines origin current) : current.verdict = origin.eagerVerdict lines := by
  induction origin using induction generalizing current with
  | leaf id criterion verdict =>
    cases hfollows with
    | decided hdecided hvalue => exact hvalue
    | leaf => rfl
  | probe id verdict fed resets =>
    cases hfollows with
    | decided hdecided hvalue => exact hvalue
    | probe => rfl
  | all id members ih =>
    cases hfollows with
    | decided hdecided hvalue => exact hvalue
    | all hmembers =>
      rw [eagerVerdict_all, verdict, verdicts_eq_map,
        map_eq_of_forall₂ (fun origin horigin _ ↦ ih origin horigin) hmembers]
  | any id members ih =>
    cases hfollows with
    | decided hdecided hvalue => exact hvalue
    | any hmembers =>
      rw [eagerVerdict_any, verdict, verdicts_eq_map,
        map_eq_of_forall₂ (fun origin horigin _ ↦ ih origin horigin) hmembers]
  | negation id member ih =>
    cases hfollows with
    | decided hdecided hvalue => exact hvalue
    | negation hmember => rw [eagerVerdict_negation, verdict, ih hmember]
  | reference id name copy ih =>
    cases hfollows with
    | decided hdecided hvalue => exact hvalue
    | reference hcopy => rw [eagerVerdict_reference, verdict, ih hcopy]
  | registered name matcher ih =>
    cases hfollows with
    | decided hdecided hvalue => exact hvalue
    | registered hmatcher => rw [eagerVerdict_registered, verdict, ih hmatcher]

/-- A line read to members that follow either ends the reading, at a member whose eager verdict is
the one that ends it, or leaves all of them following. Assumes: reading the line to one member
leaves it following. -/
theorem feedUntil_follows {lines : List (List Char)} (stop : Verdict) (line : List Char)
    {origins currents : List Matcher}
    (hstep : ∀ origin ∈ origins, ∀ current, Follows lines origin current →
      Follows (lines ++ [line]) origin (current.feed line).2)
    (hmembers : List.Forall₂ (Follows lines) origins currents) :
    (feedUntil stop line currents).1 = true ∧
        stop ∈ origins.map (eagerVerdict (lines ++ [line])) ∨
      (feedUntil stop line currents).1 = false ∧
        List.Forall₂ (Follows (lines ++ [line])) origins (feedUntil stop line currents).2 := by
  induction hmembers with
  | nil => exact Or.inr ⟨rfl, .nil⟩
  | @cons origin current origins currents hhead _ ih =>
    have hfed := hstep origin List.mem_cons_self current hhead
    simp only [feedUntil]
    by_cases hstop : (current.feed line).1 = stop
    · rw [if_pos hstop]
      refine Or.inl ⟨rfl, ?_⟩
      rw [List.map_cons, ← verdict_of_follows hfed, ← feed_fst, hstop]
      exact List.mem_cons_self
    · rw [if_neg hstop]
      rcases ih fun other hother ↦ hstep other (List.mem_cons_of_mem _ hother) with
        ⟨hstopped, hmem⟩ | ⟨hcontinued, hrest⟩
      · exact Or.inl ⟨hstopped, List.mem_cons_of_mem _ hmem⟩
      · exact Or.inr ⟨hcontinued, .cons hfed hrest⟩

/-- Reading a line to a decided tree that follows leaves it so: it keeps its verdict, and so does
the eager reading. -/
theorem follows_feed_of_decided {lines : List (List Char)} {origin current : Matcher}
    (hdecided : current.verdict ≠ .unknown) (hvalue : current.verdict = origin.eagerVerdict lines)
    (line : List Char) : Follows (lines ++ [line]) origin (current.feed line).2 := by
  have hcurrent := (refinedBy_feed current line).eq_of_ne_unknown hdecided
  have horigin := refinedBy_eagerVerdict lines line origin
  rw [← hvalue] at horigin
  refine .decided (hcurrent ▸ hdecided) ?_
  rw [hcurrent, horigin.eq_of_ne_unknown hdecided]

/-- Reading a line keeps the invariant. -/
theorem follows_feed {lines : List (List Char)} {origin current : Matcher}
    (hfollows : Follows lines origin current) (line : List Char) :
    Follows (lines ++ [line]) origin (current.feed line).2 := by
  induction origin using induction generalizing current with
  | leaf id criterion verdict =>
    cases hfollows with
    | decided hdecided hvalue => exact follows_feed_of_decided hdecided hvalue line
    | leaf =>
      rw [← feedLines_concat]
      exact .leaf id criterion verdict
  | probe id verdict fed resets =>
    cases hfollows with
    | decided hdecided hvalue => exact follows_feed_of_decided hdecided hvalue line
    | probe =>
      rw [← feedLines_concat]
      exact .probe id verdict fed resets
  | all id members ih =>
    cases hfollows with
    | decided hdecided hvalue => exact follows_feed_of_decided hdecided hvalue line
    | @all _ _ currents hmembers =>
      rcases feedUntil_follows .fails line (fun origin horigin _ ↦ ih origin horigin) hmembers with
        ⟨hstopped, hmem⟩ | ⟨-, hrest⟩
      · -- A member that fails decides the conjunction, in the eager reading too.
        have hfails : ((Matcher.all id currents).feed line).2.verdict = .fails := by
          rw [← feed_fst]
          simp only [feed, if_pos hstopped]
        refine .decided (by rw [hfails]; decide) ?_
        rw [hfails, eagerVerdict_all, Verdict.all_eq_fails_of_mem hmem]
      · simp only [feed]
        exact .all hrest
  | any id members ih =>
    cases hfollows with
    | decided hdecided hvalue => exact follows_feed_of_decided hdecided hvalue line
    | @any _ _ currents hmembers =>
      rcases feedUntil_follows .holds line (fun origin horigin _ ↦ ih origin horigin) hmembers with
        ⟨hstopped, hmem⟩ | ⟨-, hrest⟩
      · have hholds : ((Matcher.any id currents).feed line).2.verdict = .holds := by
          rw [← feed_fst]
          simp only [feed, if_pos hstopped]
        refine .decided (by rw [hholds]; decide) ?_
        rw [hholds, eagerVerdict_any, Verdict.any_eq_holds_of_mem hmem]
      · simp only [feed]
        exact .any hrest
  | negation id member ih =>
    cases hfollows with
    | decided hdecided hvalue => exact follows_feed_of_decided hdecided hvalue line
    | negation hmember => exact .negation (ih hmember)
  | reference id name copy ih =>
    cases hfollows with
    | decided hdecided hvalue => exact follows_feed_of_decided hdecided hvalue line
    | reference hcopy => exact .reference (ih hcopy)
  | registered name matcher ih =>
    cases hfollows with
    | decided hdecided hvalue => exact follows_feed_of_decided hdecided hvalue line
    | registered hmatcher => exact .registered (ih hmatcher)

/-- The invariant holds after every run, from any state. -/
theorem follows_feedLines (matcher : Matcher) (lines : List (List Char)) :
    Follows lines matcher (matcher.feedLines lines) := by
  induction lines using List.reverseRecOn with
  | nil => exact follows_refl matcher
  | append_singleton lines line ih =>
    rw [feedLines_concat]
    exact follows_feed ih line

/-- The verdict after any lines is the eager verdict. -/
theorem verdict_feedLines (matcher : Matcher) (lines : List (List Char)) :
    (matcher.feedLines lines).verdict = matcher.eagerVerdict lines :=
  verdict_of_follows (follows_feedLines matcher lines)

/-! ### The end of the header -/

/-- The verdict at the end when every leaf is read all lines. -/
def eagerFinish (lines : List (List Char)) (matcher : Matcher) : Verdict :=
  matcher.formula.kleene fun part ↦ (part.feedLines lines).verdict.settle

section Eager

variable (lines : List (List Char))

theorem eagerFinish_all (id : Option String) (members : List Matcher) :
    eagerFinish lines (all id members) = .all (members.map (eagerFinish lines)) := by
  simp only [eagerFinish, formula, Formula.kleene, Formula.kleeneAll_eq, formulas_eq_map,
    List.map_map]
  rfl

theorem eagerFinish_any (id : Option String) (members : List Matcher) :
    eagerFinish lines (any id members) = .any (members.map (eagerFinish lines)) := by
  simp only [eagerFinish, formula, Formula.kleene, Formula.kleeneAny_eq, formulas_eq_map,
    List.map_map]
  rfl

theorem eagerFinish_negation (id : Option String) (member : Matcher) :
    eagerFinish lines (negation id member) = (eagerFinish lines member).negate :=
  rfl

theorem eagerFinish_reference (id : Option String) (name : String) (copy : Matcher) :
    eagerFinish lines (reference id name copy) = eagerFinish lines copy :=
  rfl

theorem eagerFinish_registered (name : String) (matcher : Matcher) :
    eagerFinish lines (registered name matcher) = eagerFinish lines matcher :=
  rfl

/-- The end of the header takes no eager verdict back. -/
theorem refinedBy_eagerFinish (matcher : Matcher) :
    (eagerVerdict lines matcher).RefinedBy (eagerFinish lines matcher) :=
  Formula.kleene_refinedBy (fun _ ↦ Verdict.refinedBy_settle _) matcher.formula

/-- A leaf stays a leaf, and settles its verdict at the end. -/
theorem finish_feedLines_leaf (id : Option String) (criterion : Criterion) (verdict : Verdict) :
    ((leaf id criterion verdict).feedLines lines).finish.1 =
      ((leaf id criterion verdict).feedLines lines).verdict.settle := by
  induction lines generalizing criterion verdict with
  | nil => rfl
  | cons line rest ih => cases verdict <;> exact ih _ _

theorem finish_feedLines_probe (id : Option String) (verdict : Verdict) (fed resets : Nat) :
    ((probe id verdict fed resets).feedLines lines).finish.1 =
      ((probe id verdict fed resets).feedLines lines).verdict.settle := by
  induction lines generalizing fed with
  | nil => rfl
  | cons line rest ih => exact ih _

end Eager

/-- A decided tree that follows finishes as the eager reading does. -/
theorem finish_of_decided {lines : List (List Char)} {origin current : Matcher}
    (hdecided : current.verdict ≠ .unknown) (hvalue : current.verdict = origin.eagerVerdict lines) :
    current.finish.1 = origin.eagerFinish lines := by
  have horigin := refinedBy_eagerFinish lines origin
  rw [← hvalue] at horigin
  rw [(refinedBy_finish current).eq_of_ne_unknown hdecided, horigin.eq_of_ne_unknown hdecided]

/-- A tree that follows finishes with the eager verdict at the end. -/
theorem finish_of_follows {lines : List (List Char)} {origin current : Matcher}
    (hfollows : Follows lines origin current) : current.finish.1 = origin.eagerFinish lines := by
  induction origin using induction generalizing current with
  | leaf id criterion verdict =>
    cases hfollows with
    | decided hdecided hvalue => exact finish_of_decided hdecided hvalue
    | leaf => exact finish_feedLines_leaf lines id criterion verdict
  | probe id verdict fed resets =>
    cases hfollows with
    | decided hdecided hvalue => exact finish_of_decided hdecided hvalue
    | probe => exact finish_feedLines_probe lines id verdict fed resets
  | all id members ih =>
    cases hfollows with
    | decided hdecided hvalue => exact finish_of_decided hdecided hvalue
    | all hmembers =>
      simp only [finish, finishEach_eq]
      rw [eagerFinish_all, map_eq_of_forall₂ (fun origin horigin _ ↦ ih origin horigin) hmembers]
  | any id members ih =>
    cases hfollows with
    | decided hdecided hvalue => exact finish_of_decided hdecided hvalue
    | any hmembers =>
      simp only [finish, finishEach_eq]
      rw [eagerFinish_any, map_eq_of_forall₂ (fun origin horigin _ ↦ ih origin horigin) hmembers]
  | negation id member ih =>
    cases hfollows with
    | decided hdecided hvalue => exact finish_of_decided hdecided hvalue
    | negation hmember => simp only [eagerFinish_negation, finish, ih hmember]
  | reference id name copy ih =>
    cases hfollows with
    | decided hdecided hvalue => exact finish_of_decided hdecided hvalue
    | reference hcopy => simp only [eagerFinish_reference, finish, ih hcopy]
  | registered name matcher ih =>
    cases hfollows with
    | decided hdecided hvalue => exact finish_of_decided hdecided hvalue
    | registered hmatcher => simp only [eagerFinish_registered, finish, ih hmatcher]

/-- Whether a matcher, on its own, has found in lines what it looks for. -/
def hit (lines : List (List Char)) (matcher : Matcher) : Bool :=
  (matcher.feedLines lines).verdict = .holds

/-- The verdict at the end is the truth value of the formula of the tree, in which a leaf is true if
it has found what it looks for. -/
theorem finish_feedLines (matcher : Matcher) (lines : List (List Char)) :
    (matcher.feedLines lines).finish.1 = .ofBool (matcher.formula.eval (hit lines)) := by
  rw [finish_of_follows (follows_feedLines matcher lines), eagerFinish, ← Formula.kleene_ofBool]
  simp only [Verdict.settle_eq_ofBool, hit]

/-! ### From the reset state -/

/-- A leaf that has been reset holds or is unknown, whatever it is read. -/
theorem verdict_feedLines_leaf_ne_fails (id : Option String) (criterion : Criterion)
    {verdict : Verdict} (hverdict : verdict ≠ .fails) (lines : List (List Char)) :
    ((leaf id criterion verdict).feedLines lines).verdict ≠ .fails := by
  induction lines generalizing criterion verdict with
  | nil => exact hverdict
  | cons line rest ih =>
    cases verdict with
    | unknown =>
      rw [feedLines_cons]
      exact ih (criterion.read line).2 (Verdict.latch_ne_fails (criterion.read line).1)
    | holds => exact ih criterion Verdict.noConfusion
    | fails => exact absurd rfl hverdict

/-- The eager verdict of a reset tree counts a leaf as true if it has found what it looks for, and
as unknown otherwise. Assumes: a tree of the built-in kinds. -/
theorem eagerVerdict_reset {matcher : Matcher} (hbuiltIn : matcher.isBuiltIn = true)
    (lines : List (List Char)) :
    matcher.reset.eagerVerdict lines =
      matcher.reset.formula.kleene fun part ↦ if hit lines part then .holds else .unknown := by
  induction matcher using induction with
  | leaf id criterion verdict =>
    exact Verdict.eq_ite_of_ne_fails
      (verdict_feedLines_leaf_ne_fails id criterion.forget Verdict.noConfusion lines)
  | probe id verdict fed resets => cases hbuiltIn
  | all id members ih =>
    have hmembers := (areBuiltIn_iff members).mp hbuiltIn
    simp only [reset, resetEach_eq_map, eagerVerdict_all, formula, Formula.kleene,
      Formula.kleeneAll_eq, formulas_eq_map, List.map_map]
    exact congrArg Verdict.all (List.map_congr_left fun member hmember ↦
      ih member hmember (hmembers member hmember))
  | any id members ih =>
    have hmembers := (areBuiltIn_iff members).mp hbuiltIn
    simp only [reset, resetEach_eq_map, eagerVerdict_any, formula, Formula.kleene,
      Formula.kleeneAny_eq, formulas_eq_map, List.map_map]
    exact congrArg Verdict.any (List.map_congr_left fun member hmember ↦
      ih member hmember (hmembers member hmember))
  | negation id member ih => exact congrArg Verdict.negate (ih hbuiltIn)
  | reference id name copy ih => exact ih hbuiltIn
  | registered name matcher ih => exact ih hbuiltIn

/-- Short circuits cannot be observed. A tree that is reset and read lines has, after the last of
them and as the verdict returned for it, the three-valued value of its formula, where a leaf is true
if on its own, read all the lines, it has found what it looks for, and unknown otherwise; and it
finishes with the truth value of the formula, where every other leaf is false. Assumes: a tree of
the built-in kinds. -/
theorem feedLines_reset_eq_kleene (matcher : Matcher) (hbuiltIn : matcher.isBuiltIn = true)
    (lines : List (List Char)) :
    let value := fun part ↦ if hit lines part then Verdict.holds else .unknown
    (matcher.reset.feedLines lines).verdict = matcher.reset.formula.kleene value ∧
      (∀ before line, lines = before ++ [line] →
        ((matcher.reset.feedLines before).feed line).1 = matcher.reset.formula.kleene value) ∧
      (matcher.reset.feedLines lines).finish.1 =
        .ofBool (matcher.reset.formula.eval (hit lines)) := by
  have hverdict : (matcher.reset.feedLines lines).verdict =
      matcher.reset.formula.kleene fun part ↦ if hit lines part then .holds else .unknown := by
    rw [verdict_feedLines, eagerVerdict_reset hbuiltIn]
  refine ⟨hverdict, fun before line hlines ↦ ?_, finish_feedLines matcher.reset lines⟩
  rw [feed_fst, ← feedLines_concat, ← hlines]
  exact hverdict

/-- The first line fails the negation, so the second member misses the text that it looks for. -/
theorem feedLines_reset_eq_kleene_missed :
    let matcher := all none [negation none (leaf none (.literal "x") .unknown),
      any (some "a") [leaf none (.literal "y") .holds, leaf none (.phrase ⟨['y', 'z'], []⟩) .fails]]
    let lines := [['x', 'y'], ['y'], ['z']]
    let value := fun part ↦ if hit lines part then Verdict.holds else .unknown
    matcher.isBuiltIn = true ∧
      (matcher.reset.feedLines lines).verdict = matcher.reset.formula.kleene value ∧
      (∀ before line, lines = before ++ [line] →
        ((matcher.reset.feedLines before).feed line).1 = matcher.reset.formula.kleene value) ∧
      (matcher.reset.feedLines lines).finish.1 =
        .ofBool (matcher.reset.formula.eval (hit lines)) :=
  ⟨rfl, feedLines_reset_eq_kleene _ rfl _⟩

end LicenseHeaders.Matcher
