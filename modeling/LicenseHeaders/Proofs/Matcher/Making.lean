import LicenseHeaders.Matcher.Basic

/-!
# What constructors make

The constructor of a leaf refuses what there is nothing to look for in. What it makes otherwise has
read nothing, and neither the refusal nor what the leaf looks for depends on the identifier
(`Matcher.MakesLeaf`). A combination is made of as many members as it takes, and of nothing else
(`Matcher.ofAll_eq_ok_iff`, `Matcher.ofAny_eq_ok_iff`, `Matcher.ofNegation_eq_ok_iff`).
-/

set_option autoImplicit false
set_option relaxedAutoImplicit false

namespace LicenseHeaders.Matcher

/-! ### Leaves -/

/-- A constructor makes leaves that have read nothing. Whether it makes one, and what for, does not
depend on the identifier. -/
def MakesLeaf (make : Option String → Except Fault Matcher) : Prop :=
  ∀ id matcher, make id = .ok matcher →
    ∃ criterion : Criterion, criterion.forget = criterion ∧
      ∀ other, make other = .ok (.leaf (identifier? other) criterion .unknown)

theorem MakesLeaf.exists_eq {make : Option String → Except Fault Matcher} (hmakes : MakesLeaf make)
    {id : Option String} {matcher : Matcher} (hmade : make id = .ok matcher) :
    ∃ criterion : Criterion, criterion.forget = criterion ∧
      matcher = .leaf (identifier? id) criterion .unknown := by
  obtain ⟨criterion, hforget, hother⟩ := hmakes id matcher hmade
  exact ⟨criterion, hforget, Except.ok.inj (hmade.symm.trans (hother id))⟩

theorem makesLeaf_ite (refused : Prop) [Decidable refused] (fault : Fault) {criterion : Criterion}
    (hforget : criterion.forget = criterion) :
    MakesLeaf fun id ↦
      if refused then .error fault else .ok (.leaf (identifier? id) criterion .unknown) := by
  intro id matcher hmade
  by_cases hrefused : refused
  · simp only [if_pos hrefused, reduceCtorEq] at hmade
  · exact ⟨criterion, hforget, fun other ↦ if_neg hrefused⟩

theorem makesLeaf_ofLiteral (text : String) : MakesLeaf (ofLiteral text) :=
  makesLeaf_ite _ _ rfl

theorem makesLeaf_ofPhrase (text : String) : MakesLeaf (ofPhrase text) :=
  makesLeaf_ite _ _ rfl

theorem makesLeaf_ofText (text : String) : MakesLeaf (ofText text) := by
  by_cases hblank : text.toList.any Text.isBlank = true
  · have hphrase : ofText text = ofPhrase text := funext fun _ ↦ if_pos hblank
    rw [hphrase]
    exact makesLeaf_ofPhrase text
  · have hliteral : ofText text = ofLiteral text := funext fun _ ↦ if_neg hblank
    rw [hliteral]
    exact makesLeaf_ofLiteral text

theorem makesLeaf_ofNotice [Text.CharacterNames] (notice : Notice) :
    MakesLeaf (ofNotice notice) := by
  intro id matcher hmade
  cases hpatterns : notice.patterns with
  | error fault =>
    rw [ofNotice, hpatterns] at hmade
    cases hmade
  | ok patterns =>
    refine ⟨.notice notice patterns, rfl, fun other ↦ ?_⟩
    rw [ofNotice, hpatterns]
    rfl

theorem makesLeaf_ofIdentifier (name : String) : MakesLeaf (ofIdentifier name) :=
  makesLeaf_ite _ _ rfl

/-! ### Combinations -/

section Combinations

variable {members : List Matcher} {id : Option String} {matcher : Matcher}

theorem ofAll_eq_ok_iff :
    ofAll members id = .ok matcher ↔ members ≠ [] ∧ matcher = .all (identifier? id) members := by
  cases members with
  | nil => exact iff_of_false nofun fun h ↦ h.1 rfl
  | cons member rest =>
    constructor
    · rintro ⟨⟩
      exact ⟨List.cons_ne_nil member rest, rfl⟩
    · rintro ⟨-, rfl⟩
      rfl

theorem ofAny_eq_ok_iff :
    ofAny members id = .ok matcher ↔ members ≠ [] ∧ matcher = .any (identifier? id) members := by
  cases members with
  | nil => exact iff_of_false nofun fun h ↦ h.1 rfl
  | cons member rest =>
    constructor
    · rintro ⟨⟩
      exact ⟨List.cons_ne_nil member rest, rfl⟩
    · rintro ⟨-, rfl⟩
      rfl

/-- A negation is made of one matcher. -/
theorem ofNegation_eq_ok_iff :
    ofNegation members id = .ok matcher ↔
      ∃ member, members = [member] ∧ matcher = .negation (identifier? id) member := by
  match members with
  | [] => exact iff_of_false nofun (by rintro ⟨_, ⟨⟩, _⟩)
  | [member] =>
    constructor
    · rintro ⟨⟩
      exact ⟨member, rfl, rfl⟩
    · rintro ⟨_, ⟨⟩, rfl⟩
      rfl
  | first :: second :: rest => exact iff_of_false nofun (by rintro ⟨_, ⟨⟩, _⟩)

end Combinations

end LicenseHeaders.Matcher
