import LicenseHeaders.Proofs.Builder.Identifiers
import LicenseHeaders.Proofs.Builder.Leaves

/-!
# Calls on identified matchers

Identified matchers are declared, resolved and built in calls that may fail, and what a call has
done before it fails is kept. `Identifiers.call` makes one call and `Identifiers.afterCalls` makes
several of them, one after the other, whatever their outcomes.

`Identifiers.Orderly` is the invariant of all calls: every builder is declared under its own
identifier, the matchers that have been built are those that the declarations build, and there is
one of them for each identifier at most. A call keeps it (`Identifiers.orderly_call`), so it holds
after all calls that start with nothing declared (`Identifiers.orderly_afterCalls`). The reason lies
in `Identifiers.keeps_resolveWithin_succ`, which says what one step of resolving has to be shown to
keep: an identifier that is being resolved stays out of the table until its builder has returned.
Neither table is ever changed but by adding to it (`Identifiers.grows_afterCalls`).
-/

set_option autoImplicit false
set_option relaxedAutoImplicit false

namespace LicenseHeaders

open Text

namespace Builder

/-! ### What building does to the state -/

section Simulating

variable {First Second : Type} {related : First → Second → Prop}
  {first : String → ExceptT Fault (StateM First) Matcher}
  {second : String → ExceptT Fault (StateM Second) Matcher}

theorem simulates_lifted (tag : String) (result : Except Fault Matcher) :
    Simulates related (lifted tag result) (lifted tag result) := by
  cases result with
  | ok matcher => exact simulates_pure matcher
  | error fault => exact simulates_throw (located tag fault)

theorem simulates_refer (hresolve : ∀ id, Simulates related (first id) (second id))
    (id : Option String) (name : String) (resolves : Bool) :
    Simulates related (refer first id name resolves) (refer second id name resolves) := by
  unfold refer
  split_ifs with hname hresolves
  · exact simulates_throw _
  · exact simulates_throw _
  · exact simulates_bind (hresolve name) fun target ↦ simulates_pure _

variable [Installation]

private theorem simulates_buildEach {members : List Builder}
    (hmembers : ∀ member ∈ members,
      Simulates related (member.build first) (member.build second)) :
    Simulates related (buildEach first members) (buildEach second members) := by
  induction members with
  | nil => exact simulates_pure []
  | cons member rest ih =>
    have hrest := ih fun other hother ↦ hmembers other (List.mem_cons_of_mem member hother)
    rw [buildEach, buildEach]
    exact simulates_bind (hmembers member List.mem_cons_self) fun matcher ↦
      simulates_bind hrest fun matchers ↦ simulates_pure _

/-- Building does to the state what resolving does to it. -/
theorem simulates_build (hresolve : ∀ id, Simulates related (first id) (second id))
    (builder : Builder) : Simulates related (builder.build first) (builder.build second) := by
  induction builder using induction with
  | declared id kind =>
    rw [build, build]
    exact hresolve id
  | plain kind id settings text members resolves ih =>
    rw [build, build]
    split_ifs with hkind hreference
    · cases memberFault? kind members.length with
      | some fault => exact simulates_throw fault
      | none => exact simulates_bind (simulates_buildEach ih) fun matchers ↦ simulates_lifted _ _
    · exact simulates_refer hresolve id _ resolves
    · exact simulates_lifted _ _

/-- Building keeps what resolving keeps. -/
theorem keeps_build {Good : First → Prop} (hresolve : ∀ id, Keeps Good (first id))
    (builder : Builder) : Keeps Good (builder.build first) := by
  simp only [keeps_iff_simulates] at hresolve ⊢
  exact simulates_build hresolve builder

end Simulating

/-! ### Further declarations -/

/-- Further declarations take nothing away from what a builder builds. -/
theorem Builds.mono [Installation] {builders later : List (String × Builder)}
    (hlater : ∀ id builder, builders.lookup id = some builder → later.lookup id = some builder)
    {builder : Builder} {matcher : Matcher} (hbuilds : Builds builders builder matcher) :
    Builds later builder matcher := by
  induction hbuilds using Builds.induction with
  | declared hlookup _ ih => exact .declared (hlater _ _ hlookup) ih
  | leaf hmembers hreference hleaf => exact .leaf hmembers hreference hleaf
  | combination hkind hcount _ hcombine ih =>
    have hmembers := ih.imp fun member built hbuilt ↦ hbuilt.snd
    exact .combination hkind hcount hmembers hcombine
  | reference hname hlookup _ ih => exact .reference hname (hlater _ _ hlookup) ih

theorem Sound.mono [Installation] {builders later : List (String × Builder)} {built : Built}
    (hlater : ∀ id builder, builders.lookup id = some builder → later.lookup id = some builder)
    (hsound : Sound builders built) : Sound later built := by
  intro id matcher hbuilt
  obtain ⟨builder, hlookup, hbuilds⟩ := hsound id matcher hbuilt
  exact ⟨builder, hlater id builder hlookup, hbuilds.mono hlater⟩

/-! ### Identifiers of matchers -/

theorem identifier?_eq_some {id : String} (hid : id ≠ "") :
    Matcher.identifier? (some id) = some id := by
  have hempty : ¬id.isEmpty = true := by simpa using hid
  exact if_neg hempty

theorem id?_leaf [Installation] {kind : Kind} {id : String} (hid : id ≠ "")
    {settings : List (String × String)} {text : String} {matcher : Matcher}
    (hleaf : leaf kind (some id) settings text = .ok matcher) :
    matcher.id? = some id := by
  rcases leaf_cases hleaf with ⟨criterion, _, rfl⟩ | ⟨made, rfl⟩
  · exact identifier?_eq_some hid
  · exact made.id?_eq id rfl hid

theorem id?_combine {kind : Kind} {id : String} (hid : id ≠ "") {members : List Matcher}
    {matcher : Matcher} (hcombine : combine kind (some id) members = .ok matcher) :
    matcher.id? = some id := by
  rcases combine_cases hcombine with rfl | rfl | ⟨member, _, rfl⟩
  · exact identifier?_eq_some hid
  · exact identifier?_eq_some hid
  · exact identifier?_eq_some hid

/-- What a builder with an identifier builds has that identifier. Assumes: every builder is declared
under its own identifier. -/
theorem Builds.id?_eq [Installation] {builders : List (String × Builder)}
    (howned : ∀ id builder, builders.lookup id = some builder → builder.id? = some id)
    {builder : Builder} {matcher : Matcher} (hbuilds : Builds builders builder matcher)
    {id : String} (hid : builder.id? = some id) (hnonempty : id ≠ "") :
    matcher.id? = some id := by
  induction hbuilds using Builds.induction with
  | declared hlookup _ ih =>
    cases hid
    exact ih (howned _ _ hlookup)
  | leaf _ _ hleaf =>
    cases hid
    exact id?_leaf hnonempty hleaf
  | combination _ _ _ hcombine _ =>
    cases hid
    exact id?_combine hnonempty hcombine
  | reference => exact hid

end Builder

namespace Identifiers

open Builder

/-! ### What a step of resolving keeps -/

section Resolving

variable {builders : List (String × Builder)} {chain : List String} [Installation]

/-- A step of resolving keeps a property of the table of built matchers if that property, with the
identifier out of the table, gives one that the construction of the matcher keeps, and that one
leads back to the first when the construction fails as well as when its matcher is added. -/
theorem keeps_resolveWithin_succ {Good Inner : Built → Prop} {steps : Nat} {id : String}
    (henter : ∀ before, Good before → before.lookup id = none → id ∉ chain → Inner before)
    (hinner : ∀ needed, Keeps Inner (resolveWithin builders steps (chain ++ [id]) needed))
    (hleave : ∀ after, Inner after → Good after)
    (hcomplete : ∀ builder before matcher after, builders.lookup id = some builder → id ∉ chain →
      Good before →
      Returns (builder.build (resolveWithin builders steps (chain ++ [id]))) before matcher after →
      Inner after → Good (after ++ [(id, matcher)])) :
    Keeps Good (resolveWithin builders (steps + 1) chain id) := by
  refine keeps_of_outcomes (fun before matcher after hgood hreturns ↦ ?_)
    fun before fault after hgood hraises ↦ ?_
  · rcases returns_resolveWithin_succ_iff.mp hreturns with
      ⟨_, _, _, rfl⟩ | ⟨hbuilt, builder, target, middle, hlookup, hchain, hbuild, _, rfl⟩
    · exact hgood
    · have hmiddle :=
        (keeps_build hinner builder).of_returns (henter before hgood hbuilt hchain) hbuild
      exact hcomplete builder before target middle hlookup hchain hgood hbuild hmiddle
  · obtain ⟨hbuilt, hcase⟩ := raises_resolveWithin_succ_iff.mp hraises
    rcases hcase with ⟨_, _, rfl⟩ | ⟨builder, _, ⟨_, _, rfl⟩ | ⟨hchain, hbuild⟩⟩
    · exact hgood
    · exact hgood
    · exact hleave after
        ((keeps_build hinner builder).of_raises (henter before hgood hbuilt hchain) hbuild)

/-- What has been built stays sound, also where resolving fails. -/
theorem keeps_sound_resolveWithin (steps : Nat) (chain : List String) (id : String) :
    Keeps (Sound builders) (resolveWithin builders steps chain id) := by
  induction steps generalizing chain id with
  | zero => exact keeps_throw _
  | succ steps ih =>
    refine keeps_resolveWithin_succ (fun _ hsound _ _ ↦ hsound) (ih (chain ++ [id]))
      (fun _ hsound ↦ hsound) fun builder before matcher after hlookup _ hsound hbuild _ ↦ ?_
    obtain ⟨hafter, hbuilds⟩ := build_faithful (resolveWithin_faithful steps (chain ++ [id]))
      builder before matcher after hsound hbuild
    exact hafter.append hlookup hbuilds

/-- The table of built matchers is never changed but by adding to it. -/
theorem keeps_prefix_resolveWithin (start : Built) (steps : Nat) (chain : List String)
    (id : String) : Keeps (start <+: ·) (resolveWithin builders steps chain id) := by
  induction steps generalizing chain id with
  | zero => exact keeps_throw _
  | succ steps ih =>
    exact keeps_resolveWithin_succ (fun _ hstart _ _ ↦ hstart) (ih (chain ++ [id]))
      (fun _ hstart ↦ hstart) fun _ _ _ _ _ _ _ _ hafter ↦ hafter.trans (List.prefix_append _ _)

/-- Each identifier has one built matcher at most, and those of the chain have none. -/
def Distinct (chain : List String) (built : Built) : Prop :=
  (built.map (·.1)).Nodup ∧ ∀ outer ∈ chain, outer ∉ built.map (·.1)

/-- Nothing is built twice: an identifier is not resolved anew while it is in the chain. -/
theorem keeps_distinct_resolveWithin (steps : Nat) (chain : List String) (id : String) :
    Keeps (Distinct chain) (resolveWithin builders steps chain id) := by
  induction steps generalizing chain id with
  | zero => exact keeps_throw _
  | succ steps ih =>
    refine keeps_resolveWithin_succ ?_ (ih (chain ++ [id])) ?_ ?_
    · rintro before ⟨hnodup, hchain⟩ hbuilt _
      refine ⟨hnodup, fun outer houter ↦ ?_⟩
      rcases List.mem_append.mp houter with houter | houter
      · exact hchain outer houter
      · rw [List.mem_singleton.mp houter, ← exists_lookup_iff, hbuilt]
        exact nofun
    · rintro after ⟨hnodup, hchain⟩
      exact ⟨hnodup, fun outer houter ↦ hchain outer (List.mem_append_left _ houter)⟩
    · rintro _ _ matcher after _ hfresh _ _ ⟨hnodup, hchain⟩
      have hnew : id ∉ after.map (·.1) :=
        hchain id (List.mem_append_right chain (List.mem_singleton_self id))
      rw [Distinct, List.map_append, List.map_singleton]
      refine ⟨?_, fun outer houter hbuilt ↦ ?_⟩
      · rw [← List.concat_eq_append]
        exact hnodup.concat hnew
      · rcases List.mem_append.mp hbuilt with hbuilt | hbuilt
        · exact hchain outer (List.mem_append_left _ houter) hbuilt
        · have heq : outer = id := List.mem_singleton.mp hbuilt
          exact hfresh (heq ▸ houter)

end Resolving

/-! ### Calls -/

/-- A call on identified matchers. -/
inductive Call where
  /-- Declares a builder. -/
  | declare (source : String) (builder : Builder)
  /-- Asks for the matcher of an identifier. -/
  | resolve (id : String)
  /-- Asks for the matcher of a builder. -/
  | build (builder : Builder)

/-- What a call returns. -/
inductive Answer where
  /-- What is to be used in place of a builder that was declared. -/
  | builder (builder : Builder)
  | matcher (matcher : Matcher)

/-- A call asks for the matcher of an identifier, by its name or by what stands for its
declaration. -/
inductive Call.AsksFor (id : String) : Call → Prop
  | resolve : AsksFor id (.resolve id)
  | build (kind : Kind) : AsksFor id (.build (.declared id kind))

/-- Makes a call. -/
def call [Installation] (identifiers : Identifiers) : Call → Except Fault Answer × Identifiers
  | .declare source builder =>
    match identifiers.declare source builder with
    | .ok (standIn, after) => (.ok (.builder standIn), after)
    | .error fault => (.error fault, identifiers)
  | .resolve id =>
    let (result, after) := identifiers.resolve id
    (result.map .matcher, after)
  | .build builder =>
    let (result, after) := identifiers.build builder
    (result.map .matcher, after)

/-- Makes several calls, one after the other, whatever their outcomes. -/
def afterCalls [Installation] (identifiers : Identifiers) : List Call → Identifiers
  | [] => identifiers
  | first :: rest => (identifiers.call first).2.afterCalls rest

section Calls

variable {identifiers : Identifiers}

theorem run_ok_iff {Value : Type} {step : Building Value} {value : Value} {after : Identifiers} :
    identifiers.run step = (.ok value, after) ↔
      ∃ built, Returns step identifiers.built value built ∧ after = { identifiers with built } := by
  have hrun : identifiers.run step = ((step.run.run identifiers.built).1,
      { identifiers with built := (step.run.run identifiers.built).2 }) := rfl
  unfold Returns
  rw [hrun]
  rcases step.run.run identifiers.built with ⟨result, built⟩
  constructor
  · intro h
    cases h
    exact ⟨built, rfl, rfl⟩
  · rintro ⟨_, ⟨⟩, rfl⟩
    rfl

variable [Installation]

/-- An identifier is resolved by building what stands for its declaration. -/
theorem resolve_eq_build (identifiers : Identifiers) (id : String) (kind : Kind) :
    identifiers.resolve id = identifiers.build (.declared id kind) := by
  rw [resolve, build, Builder.build]

theorem Call.AsksFor.call_eq {id : String} {call : Call} (hasks : call.AsksFor id)
    (identifiers : Identifiers) : identifiers.call call = identifiers.call (.resolve id) := by
  cases hasks with
  | resolve => rfl
  | build kind =>
    rw [Identifiers.call, Identifiers.call, resolve_eq_build identifiers id kind]

/-- A builder without an identifier stays as it is. One with an identifier that is free joins the
declared ones, and one with an identifier that is taken is refused. -/
theorem call_declare (identifiers : Identifiers) (source : String) (builder : Builder) :
    identifiers.call (.declare source builder) =
      match builder.id? with
      | none => (.ok (.builder builder), identifiers)
      | some id =>
        if identifiers.contains id then
          (.error (.of (.idTaken id) source builder.kind.tag), identifiers)
        else
          (.ok (.builder (.declared id builder.kind)),
            { identifiers with builders := identifiers.builders ++ [(id, builder)] }) := by
  rw [call, Identifiers.declare]
  cases builder.id? with
  | none => rfl
  | some id =>
    dsimp only
    split_ifs <;> rfl

/-- An identifier that is taken is refused, and nothing is changed. -/
theorem call_declare_taken {source : String} {builder : Builder} {id : String}
    (hid : builder.id? = some id) (htaken : identifiers.contains id = true) :
    identifiers.call (.declare source builder) =
      (.error (.of (.idTaken id) source builder.kind.tag), identifiers) := by
  simp only [call_declare, hid, htaken, if_true]

/-- A call changes no declaration but by adding one, of a builder under its own identifier. -/
theorem builders_call (identifiers : Identifiers) (call : Call) :
    (identifiers.call call).2.builders = identifiers.builders ∨
      ∃ source builder id, call = .declare source builder ∧ builder.id? = some id ∧
        (identifiers.call call).2.builders = identifiers.builders ++ [(id, builder)] := by
  cases call with
  | resolve id => exact .inl rfl
  | build builder => exact .inl rfl
  | declare source builder =>
    rw [call_declare]
    split
    · exact .inl rfl
    · next id hid =>
      split_ifs with htaken
      · exact .inl rfl
      · exact .inr ⟨source, builder, id, rfl, hid, rfl⟩

/-- A call keeps a property of the table of built matchers that resolving keeps. -/
theorem built_call {Good : Built → Prop}
    (hkeeps : ∀ id, Keeps Good (identifiers.resolving id)) (hgood : Good identifiers.built)
    (call : Call) : Good (identifiers.call call).2.built := by
  cases call with
  | resolve id => exact hkeeps id _ hgood
  | build builder => exact keeps_build hkeeps builder _ hgood
  | declare source builder =>
    rw [call_declare]
    split
    · exact hgood
    · split_ifs <;> exact hgood

/-! ### The invariant of all calls -/

/-- Both tables of identified matchers are as before or have got further entries at their ends. -/
structure Grows (before after : Identifiers) : Prop where
  builders : before.builders <+: after.builders
  built : before.built <+: after.built

theorem grows_call (identifiers : Identifiers) (call : Call) :
    Grows identifiers (identifiers.call call).2 := by
  refine ⟨?_, built_call (fun id ↦ keeps_prefix_resolveWithin identifiers.built _ [] id)
    List.prefix_rfl call⟩
  rcases builders_call identifiers call with hsame | ⟨_, _, _, _, _, hadded⟩
  · rw [hsame]
  · rw [hadded]
    exact List.prefix_append _ _

theorem grows_afterCalls (identifiers : Identifiers) (calls : List Call) :
    Grows identifiers (identifiers.afterCalls calls) := by
  induction calls generalizing identifiers with
  | nil => exact ⟨List.prefix_rfl, List.prefix_rfl⟩
  | cons call rest ih =>
    have hfirst := grows_call identifiers call
    have hrest := ih (identifiers.call call).2
    exact ⟨hfirst.builders.trans hrest.builders, hfirst.built.trans hrest.built⟩

/-- Identified matchers as calls leave them. -/
structure Orderly (identifiers : Identifiers) : Prop where
  /-- Every builder is declared under its own identifier. -/
  owned : ∀ id builder, identifiers.builders.lookup id = some builder → builder.id? = some id
  /-- What has been built is what the declarations build. -/
  sound : Sound identifiers.builders identifiers.built
  /-- No identifier has been built twice. -/
  distinct : (identifiers.built.map (·.1)).Nodup

theorem orderly_empty : Orderly {} :=
  ⟨nofun, nofun, List.nodup_nil⟩

theorem orderly_call (horderly : identifiers.Orderly) (call : Call) :
    (identifiers.call call).2.Orderly := by
  have hsound : Sound identifiers.builders (identifiers.call call).2.built :=
    built_call (fun id ↦ keeps_sound_resolveWithin _ [] id) horderly.sound call
  have hdistinct : Distinct [] (identifiers.call call).2.built :=
    built_call (fun id ↦ keeps_distinct_resolveWithin _ [] id)
      ⟨horderly.distinct, List.forall_mem_nil _⟩ call
  refine ⟨?_, hsound.mono fun id builder ↦ ?_, hdistinct.1⟩
  · intro id builder hlookup
    rcases builders_call identifiers call with hsame | ⟨source, added, own, _, hown, hadded⟩
    · exact horderly.owned id builder (hsame ▸ hlookup)
    · rw [hadded, lookup_concat_iff] at hlookup
      rcases hlookup with hlookup | ⟨_, rfl, rfl⟩
      · exact horderly.owned id builder hlookup
      · exact hown
  · exact lookup_of_start (grows_call identifiers call).builders

theorem orderly_afterCalls (horderly : identifiers.Orderly) (calls : List Call) :
    (identifiers.afterCalls calls).Orderly := by
  induction calls generalizing identifiers with
  | nil => exact horderly
  | cons call rest ih => exact ih (orderly_call horderly call)

/-- Everything that is declared after calls was declared before them or by one of them. -/
theorem declared_afterCalls {Declared : Builder → Prop} {calls : List Call}
    (hbefore : ∀ id builder, identifiers.builders.lookup id = some builder → Declared builder)
    (hcalls : ∀ source builder, .declare source builder ∈ calls → Declared builder) :
    ∀ id builder, (identifiers.afterCalls calls).builders.lookup id = some builder →
      Declared builder := by
  induction calls generalizing identifiers with
  | nil => exact hbefore
  | cons call rest ih =>
    refine ih (fun id builder hlookup ↦ ?_) fun source builder hmem ↦
      hcalls source builder (List.mem_cons_of_mem call hmem)
    rcases builders_call identifiers call with hsame | ⟨source, added, own, rfl, _, hadded⟩
    · exact hbefore id builder (hsame ▸ hlookup)
    · rw [hadded, lookup_concat_iff] at hlookup
      rcases hlookup with hlookup | ⟨_, _, rfl⟩
      · exact hbefore id builder hlookup
      · exact hcalls source builder List.mem_cons_self

/-! ### The matcher of an identifier -/

/-- What a call to resolve an identifier returns is what resolving it returns. -/
theorem call_resolve_ok_iff {id : String} {matcher : Matcher} {after : Identifiers} :
    identifiers.call (.resolve id) = (.ok (.matcher matcher), after) ↔
      ∃ built, Returns (identifiers.resolving id) identifiers.built matcher built ∧
        after = { identifiers with built } := by
  have hcall : identifiers.call (.resolve id) =
      ((identifiers.run (identifiers.resolving id)).1.map .matcher,
        (identifiers.run (identifiers.resolving id)).2) := rfl
  simp only [hcall, ← run_ok_iff, Prod.ext_iff]
  refine and_congr_left fun _ ↦ ?_
  cases (identifiers.run (identifiers.resolving id)).1 with
  | error fault => exact ⟨nofun, nofun⟩
  | ok value => simp [Except.map]

/-- A matcher that has been built is returned, and nothing is changed. -/
theorem call_resolve_of_built {id : String} {target : Matcher}
    (hbuilt : identifiers.built.lookup id = some target) :
    identifiers.call (.resolve id) = (.ok (.matcher (.registered id target)), identifiers) :=
  call_resolve_ok_iff.mpr ⟨identifiers.built,
    returns_resolveWithin_succ_iff.mpr (.inl ⟨target, hbuilt, rfl, rfl⟩), rfl⟩

/-- A matcher that is returned for an identifier has been built for it. -/
theorem built_of_call_resolve (horderly : identifiers.Orderly) {id : String} {matcher : Matcher}
    (hreturns : (identifiers.call (.resolve id)).1 = .ok (.matcher matcher)) :
    ∃ target, matcher = .registered id target ∧
      (identifiers.call (.resolve id)).2.built.lookup id = some target := by
  have hdistinct := (orderly_call horderly (.resolve id)).distinct
  obtain ⟨after, hcall⟩ : ∃ after,
      identifiers.call (.resolve id) = (.ok (.matcher matcher), after) :=
    ⟨_, Prod.ext hreturns rfl⟩
  obtain ⟨built, hresolve, rfl⟩ := call_resolve_ok_iff.mp hcall
  rw [hcall] at hdistinct ⊢
  rcases returns_resolveWithin_succ_iff.mp hresolve with
    ⟨target, hbuilt, rfl, rfl⟩ | ⟨_, _, target, middle, _, _, _, rfl, rfl⟩
  · exact ⟨target, rfl, hbuilt⟩
  · refine ⟨target, rfl, lookup_of_mem hdistinct ?_⟩
    exact List.mem_append_right middle (List.mem_singleton_self _)

end Calls

end Identifiers

end LicenseHeaders
