import LicenseHeaders.Proofs.Matcher.Calls
import LicenseHeaders.Proofs.Tables

/-!
# Matchers that are held together

A matcher with a name is one and the same wherever it is mentioned, so a call of one tree can be
seen in another one that mentions a matcher of the first. `Matcher.callAt` is a call of one of
several trees with what it does to the others. No call gives a tree a name or takes one away
(`Matcher.names_call`), and a copy has no names at all (`Matcher.names_copied`). A reference holds
the names of what it refers to, and as it is made with a copy there are none of them
(`Matcher.named_ofReference`).

Trees are `Apart` if no name occurs twice in them, neither in one of them nor in two. Then a call of
a tree is seen in no other tree (`Matcher.getElem?_callAt`), so each of them goes its own way
however the calls are interleaved (`Matcher.getElem?_afterSteps`).
-/

set_option autoImplicit false
set_option relaxedAutoImplicit false

namespace LicenseHeaders.Matcher

/-! ### Names -/

/-- The names of the registered matchers within a matcher. -/
def names (matcher : Matcher) : List String :=
  matcher.named.map (·.1)

/-- The names of the registered matchers within several matchers. -/
def namesEach (members : List Matcher) : List String :=
  members.flatMap names

theorem namedEach_eq_flatMap (members : List Matcher) :
    namedEach members = members.flatMap named := by
  induction members with
  | nil => rfl
  | cons member rest ih => rw [namedEach, ih, List.flatMap_cons]

theorem renewedEach_eq_map (table : List (String × Matcher)) (members : List Matcher) :
    renewedEach table members = members.map (renewed table) := by
  induction members with
  | nil => rfl
  | cons member rest ih => rw [renewedEach, ih, List.map_cons]

theorem names_all (id : Option String) (members : List Matcher) :
    (all id members).names = namesEach members := by
  rw [names, named, namedEach_eq_flatMap, List.map_flatMap]
  rfl

theorem names_any (id : Option String) (members : List Matcher) :
    (any id members).names = namesEach members :=
  names_all id members

theorem names_registered (name : String) (matcher : Matcher) :
    (registered name matcher).names = name :: matcher.names :=
  rfl

/-- Members that correspond and have the same names have them together. -/
theorem namesEach_eq_of_forall₂ {before after : List Matcher}
    (hpairs : List.Forall₂ (fun first second ↦ second.names = first.names) before after) :
    namesEach after = namesEach before := by
  induction hpairs with
  | nil => rfl
  | cons hhead _ ih => simp only [namesEach, List.flatMap_cons, hhead] at ih ⊢; rw [ih]

theorem namesEach_map {members : List Matcher} {change : Matcher → Matcher}
    (hchange : ∀ member ∈ members, (change member).names = member.names) :
    namesEach (members.map change) = namesEach members :=
  namesEach_eq_of_forall₂ (List.forall₂_map_right_iff.mpr (List.forall₂_same.mpr hchange))

theorem names_feed (matcher : Matcher) (line : List Char) :
    (matcher.feed line).2.names = matcher.names := by
  induction matcher using induction with
  | leaf id criterion verdict => cases verdict <;> rfl
  | probe id verdict fed resets => rfl
  | all id members ih =>
    simp only [feed, names_all]
    exact namesEach_eq_of_forall₂ (forall₂_feedUntil _ _ (fun _ _ ↦ rfl) ih)
  | any id members ih =>
    simp only [feed, names_any]
    exact namesEach_eq_of_forall₂ (forall₂_feedUntil _ _ (fun _ _ ↦ rfl) ih)
  | negation id member ih => exact ih
  | reference id name copy ih => exact ih
  | registered name matcher ih => exact congrArg (name :: ·) ih

theorem names_finish (matcher : Matcher) : matcher.finish.2.names = matcher.names := by
  induction matcher using induction with
  | leaf id criterion verdict => rfl
  | probe id verdict fed resets => rfl
  | all id members ih =>
    simp only [finish, names_all, finishEach_eq]
    exact namesEach_map ih
  | any id members ih =>
    simp only [finish, names_any, finishEach_eq]
    exact namesEach_map ih
  | negation id member ih => exact ih
  | reference id name copy ih => exact ih
  | registered name matcher ih => exact congrArg (name :: ·) ih

theorem names_reset (matcher : Matcher) : matcher.reset.names = matcher.names := by
  induction matcher using induction with
  | leaf id criterion verdict => rfl
  | probe id verdict fed resets => rfl
  | all id members ih =>
    simp only [reset, names_all, resetEach_eq_map]
    exact namesEach_map ih
  | any id members ih =>
    simp only [reset, names_any, resetEach_eq_map]
    exact namesEach_map ih
  | negation id member ih => exact ih
  | reference id name copy ih => exact ih
  | registered name matcher ih => exact congrArg (name :: ·) ih

/-- A call leaves the names of a tree as they are. -/
theorem names_call (matcher : Matcher) (call : Call) :
    (matcher.call call).2.names = matcher.names := by
  cases call with
  | feed line => exact names_feed matcher line
  | ask => rfl
  | finish => exact names_finish matcher
  | reset => exact names_reset matcher

theorem names_afterCalls (matcher : Matcher) (calls : List Call) :
    (matcher.afterCalls calls).names = matcher.names := by
  induction calls generalizing matcher with
  | nil => rfl
  | cons call rest ih => rw [afterCalls_cons, ih, names_call]

/-- A copy mentions no registered matcher. -/
theorem names_copied (matcher : Matcher) : matcher.copied.names = [] := by
  have hmembers : ∀ {members : List Matcher}, (∀ member ∈ members, member.copied.names = []) →
      namesEach (members.map copied) = [] := by
    intro members hmembers
    simpa only [namesEach, List.flatMap_map, List.flatMap_eq_nil_iff] using hmembers
  induction matcher using induction with
  | leaf id criterion verdict => rfl
  | probe id verdict fed resets => rfl
  | all id members ih =>
    simp only [copied, names_all, copiedEach_eq_map]
    exact hmembers ih
  | any id members ih =>
    simp only [copied, names_any, copiedEach_eq_map]
    exact hmembers ih
  | negation id member ih => exact ih
  | reference id name copy ih => exact ih
  | registered name matcher ih => exact ih

theorem names_fresh (matcher : Matcher) : matcher.fresh.names = [] := by
  rw [fresh, names_reset, names_copied]

/-- A reference that is newly made shares nothing with its target, nor with any other tree. -/
theorem named_ofReference (name : String) (target : Matcher) (id : Option String) :
    (ofReference name target id).named = [] :=
  List.map_eq_nil_iff.mp (names_fresh target)

/-! ### Taking over what has happened elsewhere -/

/-- A tree takes nothing over from a table that holds for its names what it holds itself. -/
theorem renewed_eq_self {table : List (String × Matcher)} {matcher : Matcher}
    (hsame : ∀ entry ∈ matcher.named, ∀ current,
      table.lookup entry.1 = some current → current = entry.2) :
    matcher.renewed table = matcher := by
  have hmembers : ∀ {members : List Matcher},
      (∀ member ∈ members, (∀ entry ∈ member.named, ∀ current,
        table.lookup entry.1 = some current → current = entry.2) →
        member.renewed table = member) →
      (∀ entry ∈ namedEach members, ∀ current,
        table.lookup entry.1 = some current → current = entry.2) →
      members.map (renewed table) = members := by
    intro members ih hsame
    rw [namedEach_eq_flatMap] at hsame
    refine (List.map_congr_left fun member hmember ↦ ih member hmember fun entry hentry ↦ ?_).trans
      (List.map_id' members)
    exact hsame entry (List.mem_flatMap.mpr ⟨member, hmember, hentry⟩)
  induction matcher using induction with
  | leaf id criterion verdict => rfl
  | probe id verdict fed resets => rfl
  | all id members ih =>
    rw [renewed, renewedEach_eq_map, hmembers ih hsame]
  | any id members ih =>
    rw [renewed, renewedEach_eq_map, hmembers ih hsame]
  | negation id member ih => rw [renewed, ih hsame]
  | reference id name copy ih => rw [renewed, ih hsame]
  | registered name matcher ih =>
    rw [renewed]
    cases hlookup : table.lookup name with
    | some current =>
      rw [hsame (name, matcher) List.mem_cons_self current hlookup]
    | none =>
      exact congrArg (registered name)
        (ih fun entry hentry ↦ hsame entry (List.mem_cons_of_mem _ hentry))

/-- A tree is up to date with itself. Assumes: no matcher occurs in it twice. -/
theorem renewed_named {matcher : Matcher} (hdistinct : matcher.names.Nodup) :
    matcher.renewed matcher.named = matcher := by
  refine renewed_eq_self fun entry hentry current hlookup ↦ ?_
  exact Option.some.inj (hlookup.symm.trans (lookup_of_mem hdistinct hentry))

/-- A tree takes nothing over from one that it shares no matcher with. -/
theorem renewed_of_disjoint {matcher other : Matcher}
    (hdisjoint : List.Disjoint matcher.names other.names) :
    matcher.renewed other.named = matcher := by
  refine renewed_eq_self fun entry hentry current hlookup ↦ ?_
  exact absurd (exists_lookup_iff.mp ⟨current, hlookup⟩)
    (hdisjoint (List.mem_map_of_mem hentry))

/-! ### Several trees -/

/-- Several trees after a call of the one at a place: what becomes of its registered matchers is
seen in all of them. -/
def callAt (matchers : List Matcher) (step : Nat × Call) : List Matcher :=
  match matchers[step.1]? with
  | none => matchers
  | some matcher =>
    (matchers.set step.1 (matcher.call step.2).2).map
      (renewed (matcher.call step.2).2.named)

/-- Several trees after calls at places in order. -/
def afterSteps (matchers : List Matcher) (steps : List (Nat × Call)) : List Matcher :=
  steps.foldl callAt matchers

/-- Those of several calls that are made at a place. -/
def callsAt (place : Nat) (steps : List (Nat × Call)) : List Call :=
  (steps.filter (·.1 = place)).map (·.2)

/-- Whether no registered matcher occurs twice in several trees. -/
def Apart (matchers : List Matcher) : Prop :=
  (namesEach matchers).Nodup

theorem Apart.nodup_names {matchers : List Matcher} (hapart : Apart matchers) {matcher : Matcher}
    (hmem : matcher ∈ matchers) : matcher.names.Nodup :=
  (List.nodup_flatMap.mp hapart).1 matcher hmem

/-- Trees at two places share no name. -/
theorem Apart.disjoint {matchers : List Matcher} (hapart : Apart matchers) {first second : Nat}
    (hne : first ≠ second) {matcher other : Matcher} (hmatcher : matchers[first]? = some matcher)
    (hother : matchers[second]? = some other) : List.Disjoint matcher.names other.names := by
  have hpairs := List.pairwise_iff_getElem.mp (List.nodup_flatMap.mp hapart).2
  obtain ⟨hfirst, rfl⟩ := List.getElem?_eq_some_iff.mp hmatcher
  obtain ⟨hsecond, rfl⟩ := List.getElem?_eq_some_iff.mp hother
  rcases Nat.lt_or_gt_of_ne hne with hlt | hgt
  · exact hpairs first second hfirst hsecond hlt
  · exact (hpairs second first hsecond hfirst hgt).symm

/-- A call of one of several trees changes that tree alone. Assumes: they are apart. -/
theorem getElem?_callAt {matchers : List Matcher} (hapart : Apart matchers) (step : Nat × Call)
    (place : Nat) :
    (callAt matchers step)[place]? =
      if step.1 = place then matchers[place]?.map fun matcher ↦ (matcher.call step.2).2
      else matchers[place]? := by
  rw [callAt]
  cases hcalled : matchers[step.1]? with
  | none =>
    by_cases hplace : step.1 = place
    · rw [if_pos hplace, ← hplace, hcalled, Option.map_none]
    · rw [if_neg hplace]
  | some called =>
    have hnames := names_call called step.2
    simp only [List.getElem?_map]
    by_cases hplace : step.1 = place
    · have hnodup := hapart.nodup_names (List.mem_of_getElem? hcalled)
      have hlength := (List.getElem?_eq_some_iff.mp hcalled).1
      rw [if_pos hplace, ← hplace, List.getElem?_set_self hlength, hcalled, Option.map_some,
        Option.map_some, renewed_named (hnames ▸ hnodup)]
    · rw [if_neg hplace, List.getElem?_set_ne hplace]
      cases hother : matchers[place]? with
      | none => rfl
      | some other =>
        have hdisjoint := hapart.disjoint (Ne.symm hplace) hother hcalled
        rw [Option.map_some, renewed_of_disjoint (hnames ▸ hdisjoint)]

/-- Trees that are apart stay so. -/
theorem Apart.callAt {matchers : List Matcher} (hapart : Apart matchers) (step : Nat × Call) :
    Apart (callAt matchers step) := by
  have hnames : (Matcher.callAt matchers step).map names = matchers.map names := by
    refine List.ext_getElem? fun place ↦ ?_
    rw [List.getElem?_map, List.getElem?_map, getElem?_callAt hapart]
    split
    · rw [Option.map_map]
      exact congrArg (fun change ↦ matchers[place]?.map change)
        (funext fun matcher ↦ names_call matcher step.2)
    · rfl
  rw [Apart, namesEach, List.flatMap_def, hnames]
  exact hapart

/-- However calls of several trees are interleaved, each of the trees becomes what its own calls
make of it. Assumes: the trees are apart. -/
theorem getElem?_afterSteps {matchers : List Matcher} (hapart : Apart matchers)
    (steps : List (Nat × Call)) (place : Nat) :
    (afterSteps matchers steps)[place]? =
      matchers[place]?.map (·.afterCalls (callsAt place steps)) := by
  induction steps generalizing matchers with
  | nil =>
    simp only [afterSteps, callsAt, List.foldl_nil, List.filter_nil, List.map_nil, afterCalls_nil,
      Option.map_id']
  | cons step rest ih =>
    rw [afterSteps, List.foldl_cons, ← afterSteps, ih (hapart.callAt step), getElem?_callAt hapart]
    by_cases hplace : step.1 = place
    · have hcalls : callsAt place (step :: rest) = step.2 :: callsAt place rest := by
        simp [callsAt, hplace]
      rw [if_pos hplace, hcalls, Option.map_map]
      rfl
    · have hcalls : callsAt place (step :: rest) = callsAt place rest := by
        simp [callsAt, hplace]
      rw [if_neg hplace, hcalls]

end LicenseHeaders.Matcher
