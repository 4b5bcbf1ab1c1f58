import LicenseHeaders.Builder.Identifiers
import LicenseHeaders.Proofs.Matcher.Making
import LicenseHeaders.Proofs.Tables

/-!
# What builders build

Building goes through a memory of matchers that have been built and through a chain of identifiers
that are being resolved. `Builds` says what a builder builds without either: it is the least
relation in which a builder that stands for a declaration, or refers to one, builds from what that
declaration builds. A builder builds one matcher at most (`Builds.unique`).

Whether it builds one is a question of two kinds. `Valid` is what the builder has to satisfy by
itself, and `mentions` are the identifiers whose matchers it asks for; it builds a matcher if it is
valid and those can be had (`exists_builds_iff`). The needs of declarations form a graph. Where a
matcher can be had there is no circle in it (`Resolves.not_circular`), and where everything that is
needed is declared, valid and in no circle, the matcher can be had (`resolves_iff`).
-/

set_option autoImplicit false
set_option relaxedAutoImplicit false

namespace LicenseHeaders

open Text

namespace Builder

/-- Induction over trees of builders. A builder that stands for a declaration has no members. -/
@[elab_as_elim]
theorem induction {motive : Builder → Prop}
    (plain : ∀ kind id settings text members resolves, (∀ member ∈ members, motive member) →
      motive (plain kind id settings text members resolves))
    (declared : ∀ id kind, motive (declared id kind)) : ∀ builder, motive builder
  | .plain kind id settings text members resolves =>
    plain kind id settings text members resolves fun member _ ↦
      induction plain declared member
  | .declared id kind => declared id kind
decreasing_by
  have hsize := List.sizeOf_lt_of_mem ‹member ∈ members›
  simp only [Builder.plain.sizeOf_spec]
  omega

/-- The identifier that a reference names. -/
def refersTo (settings : List (String × String)) : String :=
  trimmed ((setting? settings "refid").getD "")

/-! ### What a builder builds -/

/-- What a builder builds among declared builders, said without a memory of what has been built and
without a limit to how deep references lead. -/
inductive Builds [Installation] (builders : List (String × Builder)) : Builder → Matcher → Prop
  /-- The matcher of an identifier is what its declaration builds. -/
  | declared {id : String} {kind : Kind} {builder : Builder} {matcher : Matcher}
      (hlookup : builders.lookup id = some builder) (hbuilds : Builds builders builder matcher) :
      Builds builders (declared id kind) (.registered id matcher)
  | leaf {kind : Kind} {id : Option String} {settings : List (String × String)} {text : String}
      {members : List Builder} {resolves : Bool} {matcher : Matcher}
      (hmembers : kind.hasMembers = false) (hreference : kind ≠ .reference)
      (hleaf : leaf kind id settings text = .ok matcher) :
      Builds builders (plain kind id settings text members resolves) matcher
  | combination {kind : Kind} {id : Option String} {settings : List (String × String)}
      {text : String} {members : List Builder} {resolves : Bool} {matchers : List Matcher}
      {matcher : Matcher} (hkind : kind.hasMembers = true)
      (hcount : memberFault? kind members.length = none)
      (hmembers : List.Forall₂ (Builds builders) members matchers)
      (hcombine : combine kind id matchers = .ok matcher) :
      Builds builders (plain kind id settings text members resolves) matcher
  /-- A reference holds a copy of what the declaration that it names builds. -/
  | reference {id : Option String} {settings : List (String × String)} {text : String}
      {members : List Builder} {builder : Builder} {target : Matcher}
      (hname : refersTo settings ≠ "")
      (hlookup : builders.lookup (refersTo settings) = some builder)
      (hbuilds : Builds builders builder target) :
      Builds builders (plain .reference id settings text members true)
        (.ofReference (refersTo settings) (.registered (refersTo settings) target) id)

/-- Induction over what is built, with the hypothesis for every member of a combination. -/
@[elab_as_elim]
theorem Builds.induction [Installation] {builders : List (String × Builder)}
    {motive : ∀ builder matcher, Builds builders builder matcher → Prop}
    (declared : ∀ {id kind builder matcher} (hlookup : builders.lookup id = some builder)
      (hbuilds : Builds builders builder matcher), motive builder matcher hbuilds →
      motive (.declared id kind) (.registered id matcher) (.declared hlookup hbuilds))
    (leaf : ∀ {kind id settings text members resolves matcher} (hmembers : kind.hasMembers = false)
      (hreference : kind ≠ .reference) (hleaf : Builder.leaf kind id settings text = .ok matcher),
      motive (.plain kind id settings text members resolves) matcher
        (.leaf hmembers hreference hleaf))
    (combination : ∀ {kind id settings text members resolves matchers matcher}
      (hkind : kind.hasMembers = true) (hcount : memberFault? kind members.length = none)
      (hmembers : List.Forall₂ (Builds builders) members matchers)
      (hcombine : combine kind id matchers = .ok matcher),
      List.Forall₂ (fun member built ↦ ∃ hbuilds, motive member built hbuilds) members matchers →
      motive (.plain kind id settings text members resolves) matcher
        (.combination hkind hcount hmembers hcombine))
    (reference : ∀ {id settings text members builder target} (hname : refersTo settings ≠ "")
      (hlookup : builders.lookup (refersTo settings) = some builder)
      (hbuilds : Builds builders builder target), motive builder target hbuilds →
      motive (.plain .reference id settings text members true)
        (.ofReference (refersTo settings) (.registered (refersTo settings) target) id)
        (.reference hname hlookup hbuilds))
    {builder : Builder} {matcher : Matcher} (hbuilds : Builds builders builder matcher) :
    motive builder matcher hbuilds :=
  @Builds.rec _ builders motive
    (fun members matchers _ ↦ List.Forall₂
      (fun member built ↦ ∃ hbuilds, motive member built hbuilds) members matchers)
    (fun hlookup hbuilds ih ↦ declared hlookup hbuilds ih)
    (fun hmembers hreference hleaf ↦ leaf hmembers hreference hleaf)
    (fun hkind hcount hmembers hcombine ih ↦ combination hkind hcount hmembers hcombine ih)
    (fun hname hlookup hbuilds ih ↦ reference hname hlookup hbuilds ih)
    .nil (fun hhead _ ih ihs ↦ .cons ⟨hhead, ih⟩ ihs) builder matcher hbuilds

/-- Members of which each builds one matcher build one list of matchers. -/
private theorem forall₂_unique {relation : Builder → Matcher → Prop} {members : List Builder}
    {firsts seconds : List Matcher}
    (hfirsts : List.Forall₂ (fun member first ↦
      ∃ _ : relation member first, ∀ {second}, relation member second → first = second)
      members firsts)
    (hseconds : List.Forall₂ relation members seconds) : firsts = seconds := by
  induction hfirsts generalizing seconds with
  | nil =>
    cases hseconds
    rfl
  | cons hfirst _ ih =>
    cases hseconds with
    | cons hsecond hrest => rw [hfirst.snd hsecond, ih hrest]

/-- A builder builds one matcher at most. -/
theorem Builds.unique [Installation] {builders : List (String × Builder)} {builder : Builder}
    {first second : Matcher} (hfirst : Builds builders builder first)
    (hsecond : Builds builders builder second) : first = second := by
  induction hfirst using Builds.induction generalizing second with
  | declared hlookup _ ih =>
    cases hsecond with
    | declared hlookup' hbuilds' =>
      cases hlookup.symm.trans hlookup'
      rw [ih hbuilds']
  | leaf hmembers hreference hleaf =>
    cases hsecond with
    | leaf _ _ hleaf' =>
      cases hleaf.symm.trans hleaf'
      rfl
    | combination hkind => rw [hmembers] at hkind; cases hkind
    | reference => exact absurd rfl hreference
  | combination hkind _ _ hcombine ih =>
    cases hsecond with
    | leaf hmembers' => rw [hkind] at hmembers'; cases hmembers'
    | combination _ _ hmembers' hcombine' =>
      rw [forall₂_unique ih hmembers'] at hcombine
      cases hcombine.symm.trans hcombine'
      rfl
    | reference => cases hkind
  | reference _ hlookup _ ih =>
    cases hsecond with
    | leaf _ hreference => exact absurd rfl hreference
    | combination hkind => cases hkind
    | reference _ hlookup' hbuilds' =>
      cases hlookup.symm.trans hlookup'
      rw [ih hbuilds']

/-! ### What building asks for -/

mutual

/-- The identifiers whose matchers a builder asks for. -/
def mentions : Builder → List String
  | declared id _ => [id]
  | plain kind _ settings _ members _ =>
    if kind.hasMembers then mentionsEach members
    else if kind = .reference then [refersTo settings]
    else []

/-- The identifiers whose matchers several builders ask for. -/
def mentionsEach : List Builder → List String
  | [] => []
  | builder :: rest => builder.mentions ++ mentionsEach rest

end

theorem mentionsEach_eq_flatMap (builders : List Builder) :
    mentionsEach builders = builders.flatMap mentions := by
  induction builders with
  | nil => rfl
  | cons builder rest ih => rw [mentionsEach, ih, List.flatMap_cons]

/-- A builder is valid by itself: it would build a matcher if every identifier that it asks for
had one. -/
inductive Valid [Installation] : Builder → Prop
  | declared (id : String) (kind : Kind) : Valid (declared id kind)
  | leaf {kind : Kind} {id : Option String} {settings : List (String × String)} {text : String}
      {members : List Builder} {resolves : Bool} {matcher : Matcher}
      (hmembers : kind.hasMembers = false) (hreference : kind ≠ .reference)
      (hleaf : leaf kind id settings text = .ok matcher) :
      Valid (plain kind id settings text members resolves)
  | combination {kind : Kind} {id : Option String} {settings : List (String × String)}
      {text : String} {members : List Builder} {resolves : Bool} (hkind : kind.hasMembers = true)
      (hcount : memberFault? kind members.length = none)
      (hmembers : ∀ member ∈ members, Valid member) :
      Valid (plain kind id settings text members resolves)
  | reference {id : Option String} {settings : List (String × String)} {text : String}
      {members : List Builder} (hname : refersTo settings ≠ "") :
      Valid (plain .reference id settings text members true)

/-- A leaf has read nothing, or a plugged-in kind has made it. -/
theorem leaf_cases [Installation] {kind : Kind} {id : Option String}
    {settings : List (String × String)} {text : String} {matcher : Matcher}
    (hleaf : leaf kind id settings text = .ok matcher) :
    (∃ criterion : Criterion, criterion.forget = criterion ∧
        matcher = .leaf (Matcher.identifier? id) criterion .unknown) ∨
      ∃ made : Plugin.Made id, matcher = made.matcher := by
  cases kind with
  | text =>
    rw [leaf] at hleaf
    split_ifs at hleaf
    exact .inl ((Matcher.makesLeaf_ofText text).exists_eq hleaf)
  | copyright => exact .inl ((Matcher.makesLeaf_ofNotice _).exists_eq hleaf)
  | spdx =>
    rw [leaf] at hleaf
    split_ifs at hleaf
    exact .inl ((Matcher.makesLeaf_ofIdentifier _).exists_eq hleaf)
  | plugged plugin =>
    rw [leaf] at hleaf
    split at hleaf <;> cases hleaf
    exact .inr ⟨_, rfl⟩
  | _ => cases hleaf

/-- A combination is a conjunction, a disjunction or the negation of its only member. -/
theorem combine_cases {kind : Kind} {id : Option String} {members : List Matcher}
    {matcher : Matcher} (hcombine : combine kind id members = .ok matcher) :
    matcher = .all (Matcher.identifier? id) members ∨
      matcher = .any (Matcher.identifier? id) members ∨
      ∃ member, members = [member] ∧ matcher = .negation (Matcher.identifier? id) member := by
  cases kind with
  | all => exact .inl (Matcher.ofAll_eq_ok_iff.mp hcombine).2
  | any => exact .inr (.inl (Matcher.ofAny_eq_ok_iff.mp hcombine).2)
  | _ => exact .inr (.inr (Matcher.ofNegation_eq_ok_iff.mp hcombine))

/-- As many members as a combination must have are combined without a fault. -/
theorem exists_combine {kind : Kind} (id : Option String) {members : List Matcher}
    (hkind : kind.hasMembers = true) (hcount : memberFault? kind members.length = none) :
    ∃ matcher, combine kind id members = .ok matcher := by
  cases kind with
  | all =>
    cases members with
    | nil => cases hcount
    | cons member rest => exact ⟨_, rfl⟩
  | any =>
    cases members with
    | nil => cases hcount
    | cons member rest => exact ⟨_, rfl⟩
  | negation =>
    match members with
    | [] => cases hcount
    | [member] => exact ⟨_, rfl⟩
    | first :: second :: rest => simp [memberFault?] at hcount
  | _ => cases hkind

/-- The matcher of an identifier can be had: the identifier is declared, and its declaration builds
a matcher. -/
def Resolves [Installation] (builders : List (String × Builder)) (id : String) : Prop :=
  ∃ builder matcher, builders.lookup id = some builder ∧ Builds builders builder matcher

section Parts

variable {builders : List (String × Builder)} {kind : Kind} {id : Option String}
  {settings : List (String × String)} {text : String} {members : List Builder} {resolves : Bool}
  [Installation]

/-- A combination builds a matcher if it has as many members as it must have and they build
matchers. -/
theorem exists_builds_combination_iff (hkind : kind.hasMembers = true) :
    (∃ matcher, Builds builders (plain kind id settings text members resolves) matcher) ↔
      memberFault? kind members.length = none ∧
        ∀ member ∈ members, ∃ matcher, Builds builders member matcher := by
  constructor
  · rintro ⟨matcher, hbuilds⟩
    cases hbuilds with
    | leaf hmembers => exact absurd hkind (Bool.eq_false_iff.mp hmembers)
    | combination _ hcount hmembers _ =>
      refine ⟨hcount, fun member hmember ↦ ?_⟩
      obtain ⟨built, _, hbuilt⟩ := exists_of_mem_of_forall₂ hmembers hmember
      exact ⟨built, hbuilt⟩
    | reference => cases hkind
  · rintro ⟨hcount, hmembers⟩
    obtain ⟨matchers, hmatchers⟩ := exists_forall₂ hmembers
    rw [hmatchers.length_eq] at hcount
    obtain ⟨matcher, hcombine⟩ := exists_combine id hkind hcount
    exact ⟨matcher, .combination hkind (hmatchers.length_eq ▸ hcount) hmatchers hcombine⟩

theorem exists_builds_leaf_iff (hmembers : kind.hasMembers = false)
    (hreference : kind ≠ .reference) :
    (∃ matcher, Builds builders (plain kind id settings text members resolves) matcher) ↔
      ∃ matcher, leaf kind id settings text = .ok matcher := by
  constructor
  · rintro ⟨matcher, hbuilds⟩
    cases hbuilds with
    | leaf _ _ hleaf => exact ⟨matcher, hleaf⟩
    | combination hkind => exact absurd hkind (Bool.eq_false_iff.mp hmembers)
    | reference => exact absurd rfl hreference
  · rintro ⟨matcher, hleaf⟩
    exact ⟨matcher, .leaf hmembers hreference hleaf⟩

/-- A reference builds a matcher if it names one that can be had. -/
theorem exists_builds_reference_iff :
    (∃ matcher, Builds builders (plain .reference id settings text members true) matcher) ↔
      refersTo settings ≠ "" ∧ Resolves builders (refersTo settings) := by
  constructor
  · rintro ⟨matcher, hbuilds⟩
    cases hbuilds with
    | leaf _ hreference => exact absurd rfl hreference
    | combination hkind => cases hkind
    | reference hname hlookup hbuilds => exact ⟨hname, _, _, hlookup, hbuilds⟩
  · rintro ⟨hname, _, _, hlookup, hbuilds⟩
    exact ⟨_, .reference hname hlookup hbuilds⟩

end Parts

/-- A builder builds a matcher if it is valid by itself and the matchers that it asks for can be
had. -/
theorem exists_builds_iff [Installation] {builders : List (String × Builder)} {builder : Builder} :
    (∃ matcher, Builds builders builder matcher) ↔
      builder.Valid ∧ ∀ id ∈ builder.mentions, Resolves builders id := by
  constructor
  · rintro ⟨matcher, hbuilds⟩
    induction hbuilds using Builds.induction with
    | @declared id kind builder matcher hlookup hbuilds =>
      refine ⟨.declared id kind, fun mentioned hmentioned ↦ ?_⟩
      rw [mentions, List.mem_singleton] at hmentioned
      subst hmentioned
      exact ⟨builder, matcher, hlookup, hbuilds⟩
    | leaf hmembers hreference hleaf =>
      refine ⟨.leaf hmembers hreference hleaf, fun mentioned hmentioned ↦ ?_⟩
      simp [mentions, hmembers, hreference] at hmentioned
    | @combination kind id settings text members resolves _ _ hkind hcount _ _ ih =>
      have hmembers : ∀ member ∈ members,
          member.Valid ∧ ∀ mentioned ∈ member.mentions, Resolves builders mentioned := by
        intro member hmember
        obtain ⟨_, _, _, hmotive⟩ := exists_of_mem_of_forall₂ ih hmember
        exact hmotive
      refine ⟨.combination hkind hcount fun member hmember ↦ (hmembers member hmember).1,
        fun mentioned hmentioned ↦ ?_⟩
      rw [mentions, if_pos hkind, mentionsEach_eq_flatMap, List.mem_flatMap] at hmentioned
      obtain ⟨member, hmember, hmentioned⟩ := hmentioned
      exact (hmembers member hmember).2 mentioned hmentioned
    | @reference id settings text members builder target hname hlookup hbuilds =>
      refine ⟨.reference hname, fun mentioned hmentioned ↦ ?_⟩
      have hmentioned : mentioned = refersTo settings := List.mem_singleton.mp hmentioned
      subst hmentioned
      exact ⟨builder, target, hlookup, hbuilds⟩
  · rintro ⟨hvalid, hmentions⟩
    induction hvalid with
    | declared id kind =>
      obtain ⟨builder, matcher, hlookup, hbuilds⟩ := hmentions id (List.mem_singleton_self id)
      exact ⟨.registered id matcher, .declared hlookup hbuilds⟩
    | leaf hmembers hreference hleaf => exact ⟨_, .leaf hmembers hreference hleaf⟩
    | combination hkind hcount _ ih =>
      rw [mentions, if_pos hkind, mentionsEach_eq_flatMap] at hmentions
      refine (exists_builds_combination_iff hkind).mpr ⟨hcount, fun member hmember ↦ ?_⟩
      refine ih member hmember fun mentioned hmentioned ↦ hmentions mentioned ?_
      exact List.mem_flatMap.mpr ⟨member, hmember, hmentioned⟩
    | reference hname =>
      exact exists_builds_reference_iff.mpr ⟨hname, hmentions _ (List.mem_singleton_self _)⟩

/-! ### The graph of declarations -/

/-- The declaration of an identifier asks for the matcher of another one. -/
def Needs (builders : List (String × Builder)) (first second : String) : Prop :=
  ∃ builder, builders.lookup first = some builder ∧ second ∈ builder.mentions

/-- What the declaration of an identifier needs can be had if its matcher can. -/
theorem Resolves.of_needs [Installation] {builders : List (String × Builder)}
    {first second : String} (hresolves : Resolves builders first)
    (hneeds : Needs builders first second) :
    Resolves builders second := by
  obtain ⟨builder, matcher, hlookup, hbuilds⟩ := hresolves
  obtain ⟨other, hlookup', hmentioned⟩ := hneeds
  cases hlookup.symm.trans hlookup'
  exact (exists_builds_iff.mp ⟨matcher, hbuilds⟩).2 second hmentioned

/-- From what a builder asks for, no endless chain of needs leads on, if it builds a matcher. -/
theorem Builds.acc [Installation] {builders : List (String × Builder)} {builder : Builder}
    {matcher : Matcher} (hbuilds : Builds builders builder matcher) :
    ∀ id ∈ builder.mentions, Acc (flip (Needs builders)) id := by
  have hdeclared {id : String} {builder : Builder} (hlookup : builders.lookup id = some builder)
      (ih : ∀ id ∈ builder.mentions, Acc (flip (Needs builders)) id) :
      Acc (flip (Needs builders)) id := by
    refine .intro id fun needed hneeds ↦ ?_
    obtain ⟨other, hlookup', hmentioned⟩ := hneeds
    cases hlookup.symm.trans hlookup'
    exact ih needed hmentioned
  induction hbuilds using Builds.induction with
  | declared hlookup _ ih =>
    intro mentioned hmentioned
    cases List.mem_singleton.mp hmentioned
    exact hdeclared hlookup ih
  | leaf hmembers hreference _ =>
    intro mentioned hmentioned
    simp [mentions, hmembers, hreference] at hmentioned
  | combination hkind _ _ _ ih =>
    intro mentioned hmentioned
    rw [mentions, if_pos hkind, mentionsEach_eq_flatMap, List.mem_flatMap] at hmentioned
    obtain ⟨member, hmember, hmentioned⟩ := hmentioned
    obtain ⟨_, _, _, hacc⟩ := exists_of_mem_of_forall₂ ih hmember
    exact hacc mentioned hmentioned
  | reference _ hlookup _ ih =>
    intro mentioned hmentioned
    cases List.mem_singleton.mp hmentioned
    exact hdeclared hlookup ih

/-- An identifier from which no endless chain of needs leads on does not need itself. -/
theorem not_circular_of_acc {builders : List (String × Builder)} {id : String}
    (hacc : Acc (flip (Needs builders)) id) : ¬Relation.TransGen (Needs builders) id id := by
  induction hacc with
  | intro id _ ih =>
    intro hcircular
    obtain ⟨needed, hneeds, hback⟩ := Relation.TransGen.head'_iff.mp hcircular
    exact ih needed hneeds (.tail' hback hneeds)

variable [Installation]

/-- An identifier whose matcher can be had does not need itself, however indirectly. -/
theorem Resolves.not_circular {builders : List (String × Builder)} {id : String}
    (hresolves : Resolves builders id) : ¬Relation.TransGen (Needs builders) id id := by
  obtain ⟨builder, matcher, hlookup, hbuilds⟩ := hresolves
  have hdeclared : Builds builders (.declared id builder.kind) (.registered id matcher) :=
    .declared hlookup hbuilds
  exact not_circular_of_acc (hdeclared.acc id (List.mem_singleton_self id))

/-- An identifier from which no endless chain of needs leads on has a matcher if all that it needs,
however indirectly, is declared and valid by itself. -/
theorem resolves_of_acc {builders : List (String × Builder)} {id : String}
    (hacc : Acc (flip (Needs builders)) id)
    (hvalid : ∀ needed, Relation.ReflTransGen (Needs builders) id needed →
      ∃ builder, builders.lookup needed = some builder ∧ builder.Valid) :
    Resolves builders id := by
  induction hacc with
  | intro id _ ih =>
    obtain ⟨builder, hlookup, hbuilder⟩ := hvalid id .refl
    have hmentions : ∀ needed ∈ builder.mentions, Resolves builders needed := by
      intro needed hmentioned
      have hneeds : Needs builders id needed := ⟨builder, hlookup, hmentioned⟩
      exact ih needed hneeds fun other hother ↦ hvalid other (.head hneeds hother)
    obtain ⟨matcher, hbuilds⟩ := exists_builds_iff.mpr ⟨hbuilder, hmentions⟩
    exact ⟨builder, matcher, hlookup, hbuilds⟩

/-- The matcher of an identifier can be had exactly if everything that it needs, however indirectly,
is declared, is valid by itself and does not need itself. -/
theorem resolves_iff {builders : List (String × Builder)} {id : String} :
    Resolves builders id ↔
      ∀ needed, Relation.ReflTransGen (Needs builders) id needed →
        (∃ builder, builders.lookup needed = some builder ∧ builder.Valid) ∧
          ¬Relation.TransGen (Needs builders) needed needed := by
  constructor
  · intro hresolves needed hneeded
    have hother : Resolves builders needed := by
      induction hneeded with
      | refl => exact hresolves
      | tail _ hneeds ih => exact ih.of_needs hneeds
    refine ⟨?_, hother.not_circular⟩
    obtain ⟨builder, matcher, hlookup, hbuilds⟩ := hother
    exact ⟨builder, hlookup, (exists_builds_iff.mp ⟨matcher, hbuilds⟩).1⟩
  · intro hneeded
    have hlisted (other : String) (hother : Relation.TransGen (Needs builders) id other) :
        other ∈ builders.map (·.1) := by
      obtain ⟨builder, hlookup, _⟩ := (hneeded other hother.to_reflTransGen).1
      exact exists_lookup_iff.mp ⟨builder, hlookup⟩
    have hacc : Acc (flip (Needs builders)) id :=
      acc_of_acyclic hlisted fun other hother ↦ (hneeded other hother.to_reflTransGen).2
    exact resolves_of_acc hacc fun needed hother ↦ (hneeded needed hother).1

end Builder

end LicenseHeaders
