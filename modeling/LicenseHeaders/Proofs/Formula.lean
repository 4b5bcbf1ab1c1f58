import LicenseHeaders.Verdict
import Mathlib.Data.List.Forall2

/-!
# Formulas and their values

A `Formula` is a tree of conjunctions, disjunctions and negations over atoms. It has two values.
`Formula.eval` is its truth value when every atom is true or false. `Formula.kleene` is its value
in strong three-valued logic, with the truth tables `Verdict.both` and `Verdict.either`; there an
atom may be unknown, and the whole is known as soon as the known atoms force it.

`Verdict.RefinedBy` orders verdicts by how much they say: what is unknown may still become
anything, and what is known stays. Every connective keeps this order, so a value that is known
does not change when further atoms become known (`Formula.kleene_refinedBy`). On atoms that are
all known the two values agree (`Formula.kleene_ofBool`).

`Verdict.all` and `Verdict.any` work through a list and are shown to be the truth tables folded
over it (`Verdict.all_eq_foldr`, `Verdict.any_eq_foldr`).
-/

set_option autoImplicit false
set_option relaxedAutoImplicit false

namespace LicenseHeaders

namespace Verdict

/-! ### Truth tables -/

/-- The strong three-valued conjunction. -/
def both : Verdict → Verdict → Verdict
  | fails, _ => fails
  | _, fails => fails
  | holds, holds => holds
  | _, _ => unknown

/-- The strong three-valued disjunction. -/
def either : Verdict → Verdict → Verdict
  | holds, _ => holds
  | _, holds => holds
  | fails, fails => fails
  | _, _ => unknown

/-- The verdict that says what a truth value says. -/
def ofBool (truth : Bool) : Verdict :=
  if truth then holds else fails

theorem ofBool_inj {first second : Bool} : ofBool first = ofBool second ↔ first = second := by
  cases first <;> cases second <;> decide

/-- The verdict on a list of parts is the conjunction of the parts one after the other. -/
theorem all_eq_foldr (verdicts : List Verdict) : all verdicts = verdicts.foldr both holds := by
  induction verdicts with
  | nil => rfl
  | cons verdict rest ih =>
    cases verdict <;> simp only [all, List.foldr_cons, ← ih] <;> cases all rest <;> rfl

/-- The verdict on a list of alternatives is the disjunction of them one after the other. -/
theorem any_eq_foldr (verdicts : List Verdict) : any verdicts = verdicts.foldr either fails := by
  induction verdicts with
  | nil => rfl
  | cons verdict rest ih =>
    cases verdict <;> simp only [any, List.foldr_cons, ← ih] <;> cases any rest <;> rfl

theorem all_cons (verdict : Verdict) (rest : List Verdict) :
    all (verdict :: rest) = verdict.both (all rest) := by
  simp only [all_eq_foldr, List.foldr_cons]

theorem any_cons (verdict : Verdict) (rest : List Verdict) :
    any (verdict :: rest) = verdict.either (any rest) := by
  simp only [any_eq_foldr, List.foldr_cons]

theorem both_comm (first second : Verdict) : first.both second = second.both first := by
  cases first <;> cases second <;> rfl

/-- A disjunction is the dual of a conjunction. -/
theorem either_eq_negate_both (first second : Verdict) :
    first.either second = (first.negate.both second.negate).negate := by
  cases first <;> cases second <;> rfl

theorem all_eq_fails_of_mem {verdicts : List Verdict} (hmem : fails ∈ verdicts) :
    all verdicts = fails := by
  induction verdicts with
  | nil => cases hmem
  | cons verdict rest ih =>
    rw [all_cons]
    rcases List.mem_cons.mp hmem with hhead | hrest
    · rw [← hhead]
      rfl
    · rw [ih hrest]
      cases verdict <;> rfl

theorem any_eq_holds_of_mem {verdicts : List Verdict} (hmem : holds ∈ verdicts) :
    any verdicts = holds := by
  induction verdicts with
  | nil => cases hmem
  | cons verdict rest ih =>
    rw [any_cons]
    rcases List.mem_cons.mp hmem with hhead | hrest
    · rw [← hhead]
      rfl
    · rw [ih hrest]
      cases verdict <;> rfl

/-- Settling a verdict leaves the truth value whether it holds. -/
theorem settle_eq_ofBool (verdict : Verdict) :
    verdict.settle = ofBool (decide (verdict = holds)) := by
  cases verdict <;> rfl

/-- A verdict that does not fail holds or is unknown. -/
theorem eq_ite_of_ne_fails {verdict : Verdict} (hverdict : verdict ≠ fails) :
    verdict = if decide (verdict = holds) then holds else unknown := by
  cases verdict
  · rfl
  · rfl
  · exact absurd rfl hverdict

theorem latch_ne_fails (hit : Bool) : unknown.latch hit ≠ fails := by
  cases hit <;> decide

/-! ### The order of information -/

/-- A later verdict that does not take back an earlier one. -/
def RefinedBy (earlier later : Verdict) : Prop :=
  earlier = unknown ∨ later = earlier

theorem RefinedBy.refl (verdict : Verdict) : verdict.RefinedBy verdict :=
  Or.inr rfl

/-- A verdict that is not unknown is the same later. -/
theorem RefinedBy.eq_of_ne_unknown {earlier later : Verdict} (hrefined : earlier.RefinedBy later)
    (hknown : earlier ≠ unknown) : later = earlier :=
  hrefined.resolve_left hknown

theorem refinedBy_settle (verdict : Verdict) : verdict.RefinedBy verdict.settle := by
  cases verdict
  · exact Or.inl rfl
  · exact Or.inr rfl
  · exact Or.inr rfl

theorem RefinedBy.negate {earlier later : Verdict} (hrefined : earlier.RefinedBy later) :
    earlier.negate.RefinedBy later.negate := by
  rcases hrefined with rfl | rfl
  · exact Or.inl rfl
  · exact Or.inr rfl

theorem RefinedBy.trans {earlier later latest : Verdict} (hfirst : earlier.RefinedBy later)
    (hsecond : later.RefinedBy latest) : earlier.RefinedBy latest := by
  rcases hfirst with rfl | rfl
  · exact Or.inl rfl
  · exact hsecond

/-- What a conjunction says while one part is unknown, it says whatever this part becomes: it can
only say that it fails, which the other part forces. -/
theorem unknown_both_refinedBy (part other : Verdict) :
    (unknown.both other).RefinedBy (part.both other) := by
  cases other
  · exact Or.inl rfl
  · exact Or.inl rfl
  · exact Or.inr (part.both_comm fails)

theorem RefinedBy.both_right {first first' : Verdict} (hfirst : first.RefinedBy first')
    (second : Verdict) : (first.both second).RefinedBy (first'.both second) := by
  rcases hfirst with rfl | rfl
  · exact unknown_both_refinedBy first' second
  · exact RefinedBy.refl _

theorem RefinedBy.both {first second first' second' : Verdict} (hfirst : first.RefinedBy first')
    (hsecond : second.RefinedBy second') : (first.both second).RefinedBy (first'.both second') := by
  have hlast : (first'.both second).RefinedBy (first'.both second') := by
    rw [both_comm first' second, both_comm first' second']
    exact hsecond.both_right first'
  exact (hfirst.both_right second).trans hlast

theorem RefinedBy.either {first second first' second' : Verdict} (hfirst : first.RefinedBy first')
    (hsecond : second.RefinedBy second') :
    (first.either second).RefinedBy (first'.either second') := by
  rw [either_eq_negate_both, either_eq_negate_both]
  exact (hfirst.negate.both hsecond.negate).negate

/-- A conjunction says no less when its parts say no less. -/
theorem all_refinedBy {earlier later : List Verdict}
    (hrefined : List.Forall₂ RefinedBy earlier later) : (all earlier).RefinedBy (all later) := by
  induction hrefined with
  | nil => exact RefinedBy.refl _
  | cons hhead _ ih =>
    rw [all_cons, all_cons]
    exact hhead.both ih

/-- A disjunction says no less when its parts say no less. -/
theorem any_refinedBy {earlier later : List Verdict}
    (hrefined : List.Forall₂ RefinedBy earlier later) : (any earlier).RefinedBy (any later) := by
  induction hrefined with
  | nil => exact RefinedBy.refl _
  | cons hhead _ ih =>
    rw [any_cons, any_cons]
    exact hhead.either ih

end Verdict

/-! ### Formulas -/

/-- A propositional formula whose connectives take any number of parts. -/
inductive Formula (Atom : Type) where
  | atom (atom : Atom)
  | all (parts : List (Formula Atom))
  | any (parts : List (Formula Atom))
  | negation (part : Formula Atom)

namespace Formula

variable {Atom : Type}

mutual

/-- The truth value of a formula. -/
def eval (value : Atom → Bool) : Formula Atom → Bool
  | atom a => value a
  | all parts => evalAll value parts
  | any parts => evalAny value parts
  | negation part => !part.eval value

/-- The truth value of a conjunction. -/
def evalAll (value : Atom → Bool) : List (Formula Atom) → Bool
  | [] => true
  | part :: rest => part.eval value && evalAll value rest

/-- The truth value of a disjunction. -/
def evalAny (value : Atom → Bool) : List (Formula Atom) → Bool
  | [] => false
  | part :: rest => part.eval value || evalAny value rest

end

mutual

/-- The value of a formula in strong three-valued logic. -/
def kleene (value : Atom → Verdict) : Formula Atom → Verdict
  | atom a => value a
  | all parts => kleeneAll value parts
  | any parts => kleeneAny value parts
  | negation part => (part.kleene value).negate

/-- The three-valued value of a conjunction. -/
def kleeneAll (value : Atom → Verdict) : List (Formula Atom) → Verdict
  | [] => .holds
  | part :: rest => (part.kleene value).both (kleeneAll value rest)

/-- The three-valued value of a disjunction. -/
def kleeneAny (value : Atom → Verdict) : List (Formula Atom) → Verdict
  | [] => .fails
  | part :: rest => (part.kleene value).either (kleeneAny value rest)

end

theorem evalAll_eq (value : Atom → Bool) (parts : List (Formula Atom)) :
    evalAll value parts = (parts.map (eval value)).all id := by
  induction parts with
  | nil => rfl
  | cons part rest ih => rw [evalAll, ih, List.map_cons, List.all_cons, id_eq]

theorem evalAny_eq (value : Atom → Bool) (parts : List (Formula Atom)) :
    evalAny value parts = (parts.map (eval value)).any id := by
  induction parts with
  | nil => rfl
  | cons part rest ih => rw [evalAny, ih, List.map_cons, List.any_cons, id_eq]

theorem kleeneAll_eq (value : Atom → Verdict) (parts : List (Formula Atom)) :
    kleeneAll value parts = .all (parts.map (kleene value)) := by
  induction parts with
  | nil => rfl
  | cons part rest ih => rw [kleeneAll, ih, List.map_cons, Verdict.all_cons]

theorem kleeneAny_eq (value : Atom → Verdict) (parts : List (Formula Atom)) :
    kleeneAny value parts = .any (parts.map (kleene value)) := by
  induction parts with
  | nil => rfl
  | cons part rest ih => rw [kleeneAny, ih, List.map_cons, Verdict.any_cons]

mutual

/-- A formula says no less when its atoms say no less. -/
theorem kleene_refinedBy {earlier later : Atom → Verdict}
    (hrefined : ∀ a, (earlier a).RefinedBy (later a)) :
    ∀ formula : Formula Atom, (formula.kleene earlier).RefinedBy (formula.kleene later)
  | atom a => hrefined a
  | all parts => kleeneAll_refinedBy hrefined parts
  | any parts => kleeneAny_refinedBy hrefined parts
  | negation part => (kleene_refinedBy hrefined part).negate

theorem kleeneAll_refinedBy {earlier later : Atom → Verdict}
    (hrefined : ∀ a, (earlier a).RefinedBy (later a)) :
    ∀ parts : List (Formula Atom), (kleeneAll earlier parts).RefinedBy (kleeneAll later parts)
  | [] => .refl _
  | part :: rest => (kleene_refinedBy hrefined part).both (kleeneAll_refinedBy hrefined rest)

theorem kleeneAny_refinedBy {earlier later : Atom → Verdict}
    (hrefined : ∀ a, (earlier a).RefinedBy (later a)) :
    ∀ parts : List (Formula Atom), (kleeneAny earlier parts).RefinedBy (kleeneAny later parts)
  | [] => .refl _
  | part :: rest => (kleene_refinedBy hrefined part).either (kleeneAny_refinedBy hrefined rest)

end

mutual

/-- Where every atom is known, the three-valued value is the truth value. -/
theorem kleene_ofBool (value : Atom → Bool) :
    ∀ formula : Formula Atom,
      formula.kleene (fun a ↦ .ofBool (value a)) = .ofBool (formula.eval value)
  | atom _ => rfl
  | all parts => kleeneAll_ofBool value parts
  | any parts => kleeneAny_ofBool value parts
  | negation part => by
    rw [kleene, eval, kleene_ofBool value part]
    cases part.eval value <;> rfl

theorem kleeneAll_ofBool (value : Atom → Bool) :
    ∀ parts : List (Formula Atom),
      kleeneAll (fun a ↦ .ofBool (value a)) parts = .ofBool (evalAll value parts)
  | [] => rfl
  | part :: rest => by
    rw [kleeneAll, evalAll, kleene_ofBool value part, kleeneAll_ofBool value rest]
    cases part.eval value <;> cases evalAll value rest <;> rfl

theorem kleeneAny_ofBool (value : Atom → Bool) :
    ∀ parts : List (Formula Atom),
      kleeneAny (fun a ↦ .ofBool (value a)) parts = .ofBool (evalAny value parts)
  | [] => rfl
  | part :: rest => by
    rw [kleeneAny, evalAny, kleene_ofBool value part, kleeneAny_ofBool value rest]
    cases part.eval value <;> cases evalAny value rest <;> rfl

end

end Formula

end LicenseHeaders
