import LicenseHeaders.Regex.Match
import Mathlib.Data.Option.Basic

/-!
# The numbers of groups

Inside a longer pattern the groups of a part have other numbers than on their own. A part that asks
for no group by its number does not notice: `Pattern.renumbered` moves all numbers up, and a pattern
that asks for none has the same width as before (`Pattern.width_renumbered`) and matches the same
texts (`Pattern.matchesStart_renumbered`). The two searches run side by side (`SearchesAlike`): they
stay at places with the same text around them, which differ only in what was kept on the way.

What comes after a pattern decides which of its ways is taken. But a pattern that succeeds with
something after it succeeds with whatever succeeds at the same places (`Pattern.mono_run`), so it
succeeds with nothing after it.
-/

set_option autoImplicit false
set_option relaxedAutoImplicit false

namespace LicenseHeaders.Regex

/-- Whether a pattern asks for a group by its number. -/
def Pattern.asksForGroup : Pattern → Bool
  | .sameAs .. | .ifGroup .. => true
  | .empty | .one _ | .anchor _ => false
  | .seq first second | .alt first second => first.asksForGroup || second.asksForGroup
  | .group _ body | .atomic body | .repeated _ _ _ body | .ahead _ body | .behind _ _ _ body =>
    body.asksForGroup

/-- A pattern with the numbers of its groups moved up. -/
def Pattern.renumbered (shift : Nat) : Pattern → Pattern
  | .empty => .empty
  | .one test => .one test
  | .anchor condition => .anchor condition
  | .seq first second => .seq (first.renumbered shift) (second.renumbered shift)
  | .alt first second => .alt (first.renumbered shift) (second.renumbered shift)
  | .group number body => .group (number + shift) (body.renumbered shift)
  | .atomic body => .atomic (body.renumbered shift)
  | .repeated greed least most body => .repeated greed least most (body.renumbered shift)
  | .sameAs folding number => .sameAs folding (number + shift)
  | .ifGroup number present absent =>
    .ifGroup (number + shift) (present.renumbered shift) (absent.renumbered shift)
  | .ahead wanted body => .ahead wanted (body.renumbered shift)
  | .behind wanted least most body => .behind wanted least most (body.renumbered shift)

/-- Whether a pattern asks for the group with the given number. -/
def Pattern.asksFor (wanted : Nat) : Pattern → Bool
  | .sameAs _ number => number == wanted
  | .ifGroup number present absent =>
    number == wanted || (present.asksFor wanted || absent.asksFor wanted)
  | .empty | .one _ | .anchor _ => false
  | .seq first second | .alt first second => first.asksFor wanted || second.asksFor wanted
  | .group _ body | .atomic body | .repeated _ _ _ body | .ahead _ body | .behind _ _ _ body =>
    body.asksFor wanted

theorem Pattern.asksForGroup_of_asksFor {pattern : Pattern} {wanted : Nat}
    (hasks : pattern.asksFor wanted = true) : pattern.asksForGroup = true := by
  induction pattern with
  | empty | one test | anchor condition => cases hasks
  | seq first second ihFirst ihSecond | alt first second ihFirst ihSecond =>
    exact Bool.or_eq_true_iff.mpr ((Bool.or_eq_true_iff.mp hasks).imp ihFirst ihSecond)
  | group number body ih | atomic body ih | repeated greed least most body ih | ahead wanted body ih
    | behind wanted least most body ih => exact ih hasks
  | sameAs folding number | ifGroup number present absent ihPresent ihAbsent => rfl

/-- The width of a pattern hangs on no more than the widths of the groups that it asks for. -/
theorem Pattern.width_renumbered_of {pattern : Pattern} {shift : Nat}
    {groupWidth otherWidth : Nat → Width}
    (hgroups : ∀ number, pattern.asksFor number = true →
      otherWidth (number + shift) = groupWidth number) :
    (pattern.renumbered shift).width otherWidth = pattern.width groupWidth := by
  induction pattern with
  | empty | one test | anchor condition | ahead wanted body ih | behind wanted least most body ih =>
    rfl
  | seq first second ihFirst ihSecond | alt first second ihFirst ihSecond =>
    simp only [renumbered, width,
      ihFirst fun number h ↦ hgroups number (Bool.or_eq_true_iff.mpr (.inl h)),
      ihSecond fun number h ↦ hgroups number (Bool.or_eq_true_iff.mpr (.inr h))]
  | group number body ih | atomic body ih => exact ih hgroups
  | repeated greed least most body ih => simp only [renumbered, width, ih hgroups]
  | sameAs folding number => exact hgroups number (beq_self_eq_true number)
  | ifGroup number present absent ihPresent ihAbsent =>
    simp only [renumbered, width,
      ihPresent fun asked h ↦ hgroups asked (by simp only [asksFor, h, Bool.true_or, Bool.or_true]),
      ihAbsent fun asked h ↦ hgroups asked (by simp only [asksFor, h, Bool.or_true])]

/-- The width of a pattern that asks for no group hangs on no group. -/
theorem Pattern.width_renumbered {pattern : Pattern} (hasks : pattern.asksForGroup = false)
    (shift : Nat) (groupWidth otherWidth : Nat → Width) :
    (pattern.renumbered shift).width otherWidth = pattern.width groupWidth :=
  width_renumbered_of fun _ hnumber ↦
    Bool.noConfusion (hasks.symm.trans (asksForGroup_of_asksFor hnumber))

theorem Pattern.looksBackFixed_renumbered (pattern : Pattern) (shift : Nat) :
    (pattern.renumbered shift).looksBackFixed = pattern.looksBackFixed := by
  induction pattern with
  | empty | one test | anchor condition | sameAs folding number => rfl
  | seq first second ihFirst ihSecond | alt first second ihFirst ihSecond =>
    simp only [renumbered, looksBackFixed, ihFirst, ihSecond]
  | group number body ih | atomic body ih | repeated greed least most body ih
    | ahead wanted body ih =>
    exact ih
  | ifGroup number present absent ihPresent ihAbsent =>
    simp only [renumbered, looksBackFixed, ihPresent, ihAbsent]
  | behind wanted least most body ih => simp only [renumbered, looksBackFixed, ih]

/-! ### Searches side by side -/

/-- Two places have the same text around them. -/
def Place.Alike (first second : Place) : Prop :=
  first.before = second.before ∧ first.rest = second.rest

/-- From places with the same text around them, both continuations fail, or both succeed at such
places. -/
def NextsAlike (next other : Continuation) : Prop :=
  ∀ place mirrored : Place, place.Alike mirrored →
    Option.Rel Place.Alike (next place) (other mirrored)

/-- Before continuations that are alike, both searches fail or both succeed alike. -/
def SearchesAlike (search other : Search) : Prop :=
  ∀ next otherNext, NextsAlike next otherNext → ∀ place mirrored : Place, place.Alike mirrored →
    Option.Rel Place.Alike (search place next) (other mirrored otherNext)

/-- Both attempts fail, or both succeed at places with the same text around them. -/
theorem none_or_some_of_rel {attempt mirrored : Option Place}
    (hrel : Option.Rel Place.Alike attempt mirrored) :
    attempt = none ∧ mirrored = none ∨
      ∃ reached other, attempt = some reached ∧ mirrored = some other ∧ reached.Alike other := by
  cases hrel with
  | none => exact .inl ⟨rfl, rfl⟩
  | some halike => exact .inr ⟨_, _, rfl, rfl, halike⟩

theorem nextsAlike_some : NextsAlike some some :=
  fun _ _ halike ↦ .some halike

section Searches

variable {next otherNext : Continuation} {round otherRound : Search} {place mirrored : Place}

theorem orElse_alike {attempt otherAttempt : Option Place}
    {other mirroredOther : Unit → Option Place}
    (hattempt : Option.Rel Place.Alike attempt otherAttempt)
    (hother : Option.Rel Place.Alike (other ()) (mirroredOther ())) :
    Option.Rel Place.Alike (orElse attempt other) (orElse otherAttempt mirroredOther) := by
  cases hattempt with
  | some halike => exact .some halike
  | none => exact hother

/-- Nothing is tried behind attempts that fail, and what is tried behind attempts that succeed is
alike. -/
theorem continued_alike {attempt otherAttempt : Option Place} (hnext : NextsAlike next otherNext) :
    Option.Rel Place.Alike attempt otherAttempt → Option.Rel Place.Alike
      (match attempt with
      | some reached => next reached
      | none => none)
      (match otherAttempt with
      | some reached => otherNext reached
      | none => none) := by
  intro hattempt
  cases hattempt with
  | none => exact .none
  | some hreached => exact hnext _ _ hreached

theorem rounds_alike (hround : SearchesAlike round otherRound) (count : Nat) :
    SearchesAlike (rounds round count) (rounds otherRound count) := by
  induction count with
  | zero => exact fun next otherNext hnext ↦ hnext
  | succ count ih => exact fun next otherNext hnext ↦ hround _ _ (ih next otherNext hnext)

theorem offset_eq (halike : place.Alike mirrored) : place.offset = mirrored.offset :=
  congrArg List.length halike.1

/-- What follows a round is alike, whether the round ends the repetition or not. -/
theorem afterRound_alike {further otherFurther : Continuation} (halike : place.Alike mirrored)
    (hnext : NextsAlike next otherNext) (hfurther : NextsAlike further otherFurther) :
    NextsAlike
      (fun reached ↦ if reached.offset = place.offset then next reached else further reached)
      (fun reached ↦
        if reached.offset = mirrored.offset then otherNext reached else otherFurther reached) := by
  intro reached other hreached
  simp only [← offset_eq hreached, ← offset_eq halike]
  by_cases hoffset : reached.offset = place.offset
  · rw [if_pos hoffset, if_pos hoffset]
    exact hnext reached other hreached
  · rw [if_neg hoffset, if_neg hoffset]
    exact hfurther reached other hreached

theorem eagerly_alike (hround : SearchesAlike round otherRound) (count : Nat) :
    SearchesAlike (eagerly round count) (eagerly otherRound count) := by
  induction count with
  | zero => exact fun next otherNext hnext ↦ hnext
  | succ count ih =>
    intro next otherNext hnext place mirrored halike
    exact orElse_alike
      (hround _ _ (afterRound_alike halike hnext (ih next otherNext hnext)) place mirrored halike)
      (hnext place mirrored halike)

theorem reluctantly_alike (hround : SearchesAlike round otherRound) (count : Nat) :
    SearchesAlike (reluctantly round count) (reluctantly otherRound count) := by
  induction count with
  | zero => exact fun next otherNext hnext ↦ hnext
  | succ count ih =>
    intro next otherNext hnext place mirrored halike
    exact orElse_alike (hnext place mirrored halike)
      (hround _ _ (afterRound_alike halike hnext (ih next otherNext hnext)) place mirrored halike)

theorem roundsOnce_alike (hround : SearchesAlike round otherRound) (count : Nat) :
    NextsAlike (roundsOnce round count) (roundsOnce otherRound count) := by
  induction count with
  | zero => exact nextsAlike_some
  | succ count ih =>
    intro place mirrored halike
    simp only [roundsOnce]
    exact continued_alike ih (hround some some nextsAlike_some place mirrored halike)

theorem possessively_alike (hround : SearchesAlike round otherRound) (count : Nat)
    (halike : place.Alike mirrored) :
    (possessively round count place).Alike (possessively otherRound count mirrored) := by
  induction count generalizing place mirrored with
  | zero => exact halike
  | succ count ih =>
    have hfirst := hround some some nextsAlike_some place mirrored halike
    simp only [possessively]
    rcases none_or_some_of_rel hfirst with ⟨hnone, hother⟩ | ⟨reached, _, hsome, hother, hreached⟩
    · rw [hnone, hother]
      exact halike
    · simp only [hsome, hother, ← offset_eq hreached, ← offset_eq halike]
      by_cases hoffset : reached.offset = place.offset
      · rw [if_pos hoffset, if_pos hoffset]
        exact hreached
      · rw [if_neg hoffset, if_neg hoffset]
        exact ih hreached

theorem furtherRounds_eq (least : Nat) (most : Option Nat) (halike : place.Alike mirrored) :
    furtherRounds least most place = furtherRounds least most mirrored := by
  cases most with
  | none => rw [furtherRounds, furtherRounds, halike.2]
  | some most => rw [furtherRounds, furtherRounds, halike.2]

/-- As many further rounds are tried as the text allows, which is alike. -/
theorem further_alike {further otherFurther : Nat → Search}
    (hfurther : ∀ count, SearchesAlike (further count) (otherFurther count)) (least : Nat)
    (most : Option Nat) (hnext : NextsAlike next otherNext) :
    NextsAlike (fun reached ↦ further (furtherRounds least most reached) reached next)
      (fun reached ↦ otherFurther (furtherRounds least most reached) reached otherNext) := by
  intro reached other hreached
  simp only [furtherRounds_eq least most hreached]
  exact hfurther _ next otherNext hnext reached other hreached

theorem back?_alike (count : Nat) (halike : place.Alike mirrored) :
    Option.Rel Place.Alike (place.back? count) (mirrored.back? count) := by
  induction count generalizing place mirrored with
  | zero => exact .some halike
  | succ count ih =>
    rw [Place.back?, Place.back?, ← halike.1]
    rcases place.before with _ | ⟨c, before⟩
    · exact .none
    · exact ih ⟨rfl, congrArg (c :: ·) halike.2⟩

/-- A condition on the text is met or not alike, and what follows it is alike. -/
theorem condition_alike (wanted : Bool) {attempt otherAttempt : Option Place}
    (hnext : NextsAlike next otherNext) (halike : place.Alike mirrored) :
    Option.Rel Place.Alike attempt otherAttempt → Option.Rel Place.Alike
      (match attempt with
      | some reached => if wanted then next (place.keeping reached) else none
      | none => if wanted then none else next place)
      (match otherAttempt with
      | some reached => if wanted then otherNext (mirrored.keeping reached) else none
      | none => if wanted then none else otherNext mirrored) := by
  intro hattempt
  cases hattempt with
  | none =>
    cases wanted with
    | true => exact .none
    | false => exact hnext place mirrored halike
  | some hreached =>
    cases wanted with
    | true => exact hnext _ _ halike
    | false => exact .none

end Searches

theorem Anchor.holdsAt_eq (condition : Anchor) {place mirrored : Place}
    (halike : place.Alike mirrored) : condition.holdsAt place = condition.holdsAt mirrored := by
  obtain ⟨hbefore, hrest⟩ := halike
  cases condition <;>
    simp only [holdsAt, Place.isBare, Place.wordBefore, Place.wordAfter, hbefore, hrest]

/-- A pattern that asks for no group searches as it does with other numbers for its groups. -/
theorem Pattern.run_renumbered {pattern : Pattern} (hasks : pattern.asksForGroup = false)
    (shift : Nat) : SearchesAlike pattern.run (pattern.renumbered shift).run := by
  induction pattern with
  | empty => exact fun next otherNext hnext ↦ hnext
  | one test =>
    intro next otherNext hnext place mirrored halike
    simp only [renumbered, run, ← halike.2]
    rcases place.rest with _ | ⟨c, rest⟩
    · exact .none
    · simp only
      by_cases hc : test.accepts c = true
      · rw [if_pos hc, if_pos hc]
        exact hnext _ _ ⟨congrArg (c :: ·) halike.1, rfl⟩
      · rw [if_neg hc, if_neg hc]
        exact .none
  | anchor condition =>
    intro next otherNext hnext place mirrored halike
    simp only [renumbered, run, ← condition.holdsAt_eq halike]
    by_cases hholds : condition.holdsAt place = true
    · rw [if_pos hholds, if_pos hholds]
      exact hnext place mirrored halike
    · rw [if_neg hholds, if_neg hholds]
      exact .none
  | seq first second ihFirst ihSecond =>
    rw [asksForGroup, Bool.or_eq_false_iff] at hasks
    exact fun next otherNext hnext ↦ ihFirst hasks.1 _ _ (ihSecond hasks.2 next otherNext hnext)
  | alt first second ihFirst ihSecond =>
    rw [asksForGroup, Bool.or_eq_false_iff] at hasks
    exact fun next otherNext hnext place mirrored halike ↦
      orElse_alike (ihFirst hasks.1 next otherNext hnext place mirrored halike)
        (ihSecond hasks.2 next otherNext hnext place mirrored halike)
  | group number body ih =>
    intro next otherNext hnext place mirrored halike
    have hclosed : NextsAlike (fun reached ↦ next (reached.closed number))
        (fun reached ↦ otherNext (reached.closed (number + shift))) :=
      fun reached other hreached ↦ hnext _ _ hreached
    exact ih hasks _ _ hclosed _ _ halike
  | atomic body ih =>
    intro next otherNext hnext place mirrored halike
    simp only [renumbered, run]
    exact continued_alike hnext (ih hasks some some nextsAlike_some place mirrored halike)
  | repeated greed least most body ih =>
    intro next otherNext hnext place mirrored halike
    cases greed with
    | eager =>
      exact rounds_alike (ih hasks) least _ _
        (further_alike (eagerly_alike (ih hasks)) least most hnext) _ _ halike
    | reluctant =>
      exact rounds_alike (ih hasks) least _ _
        (further_alike (reluctantly_alike (ih hasks)) least most hnext) _ _ halike
    | possessive =>
      have hbehind : NextsAlike
          (fun reached ↦ next (possessively body.run (furtherRounds least most reached) reached))
          (fun reached ↦ otherNext
            (possessively (body.renumbered shift).run
              (furtherRounds least most reached) reached)) := by
        intro reached other hreached
        simp only [furtherRounds_eq least most hreached]
        exact hnext _ _ (possessively_alike (ih hasks) _ hreached)
      simp only [renumbered, run]
      exact continued_alike hbehind (roundsOnce_alike (ih hasks) least place mirrored halike)
  | sameAs folding number => cases hasks
  | ifGroup number present absent ihPresent ihAbsent => cases hasks
  | ahead wanted body ih =>
    intro next otherNext hnext place mirrored halike
    have hfirst := ih hasks some some nextsAlike_some place mirrored halike
    simp only [renumbered, run]
    exact condition_alike wanted hnext halike hfirst
  | behind wanted least most body ih =>
    intro next otherNext hnext place mirrored halike
    simp only [renumbered, run]
    rcases none_or_some_of_rel (back?_alike least halike) with
      ⟨hnone, hother⟩ | ⟨earlier, other, hsome, hother, hearlier⟩
    · rw [hnone, hother]
      exact condition_alike wanted hnext halike .none
    · have hfirst := ih hasks some some nextsAlike_some earlier other hearlier
      simp only [hsome, hother]
      exact condition_alike wanted hnext halike hfirst

/-- A pattern that asks for no group matches the same texts whatever the numbers of its groups. -/
theorem Pattern.matchesStart_renumbered {pattern : Pattern}
    (hasks : pattern.asksForGroup = false) (shift : Nat) (text : List Char) :
    (pattern.renumbered shift).matchesStart text = pattern.matchesStart text := by
  have hrun := pattern.run_renumbered hasks shift some some nextsAlike_some (Place.first text)
    (Place.first text) ⟨rfl, rfl⟩
  rw [matchesStart, matchesStart]
  rcases none_or_some_of_rel hrun with ⟨hnone, hother⟩ | ⟨_, _, hsome, hother, -⟩
  · rw [hnone, hother]
  · rw [hsome, hother]
    rfl

/-! ### What comes after -/

/-- A continuation succeeds wherever another one does. -/
def SucceedsWith (next other : Continuation) : Prop :=
  ∀ place, (next place).isSome = true → (other place).isSome = true

/-- A search that succeeds succeeds with whatever succeeds where what came after it did. -/
def Mono (search : Search) : Prop :=
  ∀ next other, SucceedsWith next other →
    SucceedsWith (fun place ↦ search place next) (fun place ↦ search place other)

section Mono

variable {next other : Continuation} {round : Search}

theorem orElse_isSome_mono {attempt mirrored : Option Place} {second last : Unit → Option Place}
    (hattempt : attempt.isSome = true → mirrored.isSome = true)
    (hsecond : (second ()).isSome = true → (last ()).isSome = true) :
    (orElse attempt second).isSome = true → (orElse mirrored last).isSome = true := by
  cases mirrored with
  | some place => exact fun _ ↦ rfl
  | none =>
    cases attempt with
    | some place => exact fun _ ↦ nomatch hattempt rfl
    | none => exact hsecond

theorem mono_rounds (hround : Mono round) (count : Nat) : Mono (rounds round count) := by
  induction count with
  | zero => exact fun next other hnext ↦ hnext
  | succ count ih => exact fun next other hnext ↦ hround _ _ (ih next other hnext)

/-- What follows a round succeeds, whether the round ends the repetition or not. -/
theorem succeedsWith_afterRound {further last : Continuation} (place : Place)
    (hnext : SucceedsWith next other) (hfurther : SucceedsWith further last) :
    SucceedsWith
      (fun reached ↦ if reached.offset = place.offset then next reached else further reached)
      (fun reached ↦ if reached.offset = place.offset then other reached else last reached) := by
  intro reached hreached
  by_cases hoffset : reached.offset = place.offset
  · simp only [if_pos hoffset] at hreached ⊢
    exact hnext reached hreached
  · simp only [if_neg hoffset] at hreached ⊢
    exact hfurther reached hreached

theorem mono_eagerly (hround : Mono round) (count : Nat) : Mono (eagerly round count) := by
  induction count with
  | zero => exact fun next other hnext ↦ hnext
  | succ count ih =>
    intro next other hnext place
    exact orElse_isSome_mono
      (hround _ _ (succeedsWith_afterRound place hnext (ih next other hnext)) place) (hnext place)

theorem mono_reluctantly (hround : Mono round) (count : Nat) :
    Mono (reluctantly round count) := by
  induction count with
  | zero => exact fun next other hnext ↦ hnext
  | succ count ih =>
    intro next other hnext place
    exact orElse_isSome_mono (hnext place)
      (hround _ _ (succeedsWith_afterRound place hnext (ih next other hnext)) place)

theorem condition_mono (wanted : Bool) (attempt : Option Place) (hnext : SucceedsWith next other)
    (place : Place) :
    (match attempt with
      | some reached => if wanted then next (place.keeping reached) else none
      | none => if wanted then none else next place).isSome = true →
      (match attempt with
      | some reached => if wanted then other (place.keeping reached) else none
      | none => if wanted then none else other place).isSome = true := by
  cases attempt with
  | none =>
    cases wanted with
    | true => exact id
    | false => exact hnext place
  | some reached =>
    cases wanted with
    | true => exact hnext _
    | false => exact id

end Mono

/-- Success of a pattern carries over to whatever succeeds where what came after it did. -/
theorem Pattern.mono_run (pattern : Pattern) : Mono pattern.run := by
  induction pattern with
  | empty => exact fun next other hnext ↦ hnext
  | one test =>
    intro next other hnext place
    simp only [run]
    rcases place.rest with _ | ⟨c, rest⟩
    · exact id
    · by_cases hc : test.accepts c = true
      · simp only [if_pos hc]
        exact hnext _
      · simp only [if_neg hc]
        exact id
  | anchor condition =>
    intro next other hnext place
    simp only [run]
    by_cases hholds : condition.holdsAt place = true
    · simp only [if_pos hholds]
      exact hnext place
    · simp only [if_neg hholds]
      exact id
  | seq first second ihFirst ihSecond =>
    exact fun next other hnext ↦ ihFirst _ _ (ihSecond next other hnext)
  | alt first second ihFirst ihSecond =>
    exact fun next other hnext place ↦
      orElse_isSome_mono (ihFirst next other hnext place) (ihSecond next other hnext place)
  | group number body ih =>
    exact fun next other hnext place ↦ ih _ _ (fun reached ↦ hnext _) _
  | atomic body ih =>
    intro next other hnext place
    simp only [run]
    rcases body.run place some with _ | reached
    · exact id
    · exact hnext reached
  | repeated greed least most body ih =>
    intro next other hnext place
    cases greed with
    | eager =>
      exact mono_rounds ih least _ _
        (fun reached ↦ mono_eagerly ih _ next other hnext reached) place
    | reluctant =>
      exact mono_rounds ih least _ _
        (fun reached ↦ mono_reluctantly ih _ next other hnext reached) place
    | possessive =>
      simp only [run]
      rcases roundsOnce body.run least place with _ | reached
      · exact id
      · exact hnext _
  | sameAs folding number =>
    intro next other hnext place
    simp only [run]
    rcases place.kept? number with _ | text
    · exact id
    · simp only
      rcases place.after? folding text with _ | reached
      · exact id
      · exact hnext reached
  | ifGroup number present absent ihPresent ihAbsent =>
    intro next other hnext place
    simp only [run]
    by_cases hkept : (place.kept? number).isSome = true
    · simp only [if_pos hkept]
      exact ihPresent next other hnext place
    · simp only [if_neg hkept]
      exact ihAbsent next other hnext place
  | ahead wanted body ih =>
    intro next other hnext place
    simp only [run]
    exact condition_mono wanted (body.run place some) hnext place
  | behind wanted least most body ih =>
    intro next other hnext place
    simp only [run]
    rcases place.back? least with _ | earlier
    · exact condition_mono wanted none hnext place
    · exact condition_mono wanted (body.run earlier some) hnext place

end LicenseHeaders.Regex
