import LicenseHeaders.Proofs.Builder.Calls
import LicenseHeaders.Proofs.Builder.Faults
import LicenseHeaders.Sample

/-!
# References that lead back

An identifier is resolved by building its declaration, which may ask for further identifiers.
Whether this succeeds can be read off the declarations alone: an identifier is resolved exactly if
its declaration is `Grounded` (`Builder.resolves_iff_grounded`). Every builder that is reached from
it holds what it must, every identifier that is named there is declared, and none of them needs
itself. Identifiers that are needed on several ways are no circle.

Resolving counts its steps, but the count is no limit: `Identifiers.resolveUnbounded` has none, and
it ends since every identifier that it enters is declared and not in the chain
(`Identifiers.resolveWithin_eq_resolveUnbounded`). When a circle is reported, it is one. The
identifiers in the chain are declared, differ from each other and need each their successor, and
this is kept when a builder asks for a further one (`Identifiers.circle_of_raises`).
-/

set_option autoImplicit false
set_option relaxedAutoImplicit false

namespace LicenseHeaders

namespace Builder

/-! ### What is reached from an identifier -/

/-- The identifier that a builder itself stands for or refers to. -/
def names? : Builder → Option String
  | declared id _ => some id
  | plain kind _ settings _ _ _ => if kind = .reference then some (refersTo settings) else none

/-- A builder is reached from an identifier: through what is declared, through the members of a
builder and through the identifiers that builders name. -/
inductive Reaches (builders : List (String × Builder)) (id : String) : Builder → Prop
  | start {builder : Builder} (hlookup : builders.lookup id = some builder) :
      Reaches builders id builder
  | member {kind : Kind} {own : Option String} {settings : List (String × String)} {text : String}
      {members : List Builder} {resolves : Bool} {member : Builder}
      (hwhole : Reaches builders id (plain kind own settings text members resolves))
      (hmember : member ∈ members) : Reaches builders id member
  | named {builder target : Builder} {other : String} (hbuilder : Reaches builders id builder)
      (hnames : builder.names? = some other) (hlookup : builders.lookup other = some target) :
      Reaches builders id target

/-- Nothing that is reached from an identifier stands in the way of its matcher. -/
structure Grounded [Text.CharacterNames] (builders : List (String × Builder)) (id : String) :
    Prop where
  declared : ∃ builder, builders.lookup id = some builder
  /-- Every builder that is reached holds what its kind asks for. -/
  holds : ∀ builder, Reaches builders id builder → builder.Holds
  /-- Every identifier that is named there is declared. -/
  named : ∀ builder other, Reaches builders id builder → builder.names? = some other →
    ∃ target, builders.lookup other = some target
  /-- No identifier that is needed needs itself. -/
  acyclic : ∀ other, Relation.ReflTransGen (Needs builders) id other →
    ¬Relation.TransGen (Needs builders) other other

section Reaching

variable {builders : List (String × Builder)} {id : String}

theorem mem_mentions_of_names {builder : Builder} {other : String}
    (hnames : builder.names? = some other) : other ∈ builder.mentions := by
  cases builder with
  | declared id kind =>
    cases hnames
    exact List.mem_singleton_self _
  | plain kind id settings text members resolves =>
    by_cases hkind : kind = .reference
    · subst hkind
      cases hnames
      exact List.mem_singleton_self (refersTo settings)
    · rw [names?, if_neg hkind] at hnames
      cases hnames

theorem mem_mentions_of_member {kind : Kind} {own : Option String}
    {settings : List (String × String)} {text : String} {members : List Builder} {resolves : Bool}
    {member : Builder} (hkind : kind.hasMembers = true) (hmember : member ∈ members)
    {other : String} (hmentioned : other ∈ member.mentions) :
    other ∈ (plain kind own settings text members resolves).mentions := by
  rw [mentions, if_pos hkind, mentionsEach_eq_flatMap]
  exact List.mem_flatMap.mpr ⟨member, hmember, hmentioned⟩

/-- What a builder asks for is named by a builder in it. -/
theorem exists_names_of_mentions (builder : Builder) (hreaches : Reaches builders id builder)
    {other : String} (hmentioned : other ∈ builder.mentions) :
    ∃ inner, Reaches builders id inner ∧ inner.names? = some other := by
  induction builder using induction with
  | declared own kind =>
    have heq : other = own := List.mem_singleton.mp hmentioned
    exact ⟨declared own kind, hreaches, congrArg some heq.symm⟩
  | plain kind own settings text members resolves ih =>
    rw [mentions] at hmentioned
    split_ifs at hmentioned with hkind hreference
    · rw [mentionsEach_eq_flatMap, List.mem_flatMap] at hmentioned
      obtain ⟨member, hmember, hmentioned⟩ := hmentioned
      exact ih member hmember (hreaches.member hmember) hmentioned
    · have heq : other = refersTo settings := List.mem_singleton.mp hmentioned
      refine ⟨plain kind own settings text members resolves, hreaches, ?_⟩
      rw [names?, if_pos hreference, heq]
    · cases hmentioned

variable [Installation]

/-- If every builder that is reached holds what it must, those that are reached are valid. -/
theorem valid_of_reaches (hholds : ∀ builder, Reaches builders id builder → builder.Holds)
    {builder : Builder} (hassembled : builder.Assembled) (hreaches : Reaches builders id builder) :
    builder.Valid := by
  induction hassembled with
  | declared own kind => exact .declared own kind
  | plain hkind hleaf hresolves _ ih =>
    refine (valid_plain_iff hkind hleaf hresolves).mpr
      ⟨hholds _ hreaches, fun member hmember ↦ ih member hmember (hreaches.member hmember)⟩

/-- What is reached from an identifier with a matcher is valid, and what it asks for has a matcher
too. -/
theorem valid_of_resolves
    (hassembled : ∀ own builder, builders.lookup own = some builder → builder.Assembled)
    (hresolves : Resolves builders id) {builder : Builder}
    (hreaches : Reaches builders id builder) :
    builder.Assembled ∧ builder.Valid ∧ ∀ other ∈ builder.mentions, Resolves builders other := by
  have hdeclared {own : String} {target : Builder} (hlookup : builders.lookup own = some target)
      (hown : Resolves builders own) : target.Assembled ∧ target.Valid ∧
        ∀ other ∈ target.mentions, Resolves builders other := by
    obtain ⟨other, matcher, hother, hbuilds⟩ := hown
    cases hlookup.symm.trans hother
    exact ⟨hassembled own target hlookup, exists_builds_iff.mp ⟨matcher, hbuilds⟩⟩
  induction hreaches with
  | start hlookup => exact hdeclared hlookup hresolves
  | named _ hnames hlookup ih =>
    exact hdeclared hlookup (ih.2.2 _ (mem_mentions_of_names hnames))
  | @member kind own settings text members resolves member _ hmember ih =>
    obtain ⟨hwhole, hvalid, hmentions⟩ := ih
    cases hwhole with
    | plain hkind hleaf hresolvable hmembers =>
      have hcombination : kind.hasMembers = true := by
        by_contra hnone
        rw [hleaf (Bool.eq_false_iff.mpr hnone)] at hmember
        cases hmember
      have hvalid := ((valid_plain_iff hkind hleaf hresolvable).mp hvalid).2
      exact ⟨hmembers member hmember, hvalid member hmember, fun other hmentioned ↦
        hmentions other (mem_mentions_of_member hcombination hmember hmentioned)⟩

/-- The matcher of an identifier can be had exactly if its declaration is grounded. Assumes: what is
declared is put together as the built-in kinds provide for. -/
theorem resolves_iff_grounded
    (hassembled : ∀ own builder, builders.lookup own = some builder → builder.Assembled) :
    Resolves builders id ↔ Grounded builders id := by
  constructor
  · intro hresolves
    have hvalid {builder : Builder} (hreaches : Reaches builders id builder) :=
      valid_of_resolves hassembled hresolves hreaches
    refine ⟨?_, fun builder hreaches ↦ ?_, fun builder other hreaches hnames ↦ ?_,
      fun other hother ↦ (resolves_iff.mp hresolves other hother).2⟩
    · obtain ⟨builder, _, hlookup, _⟩ := hresolves
      exact ⟨builder, hlookup⟩
    · obtain ⟨hbuilder, hbuilderValid, _⟩ := hvalid hreaches
      cases hbuilder with
      | declared own kind => trivial
      | plain hkind hleaf hresolvable =>
        exact ((valid_plain_iff hkind hleaf hresolvable).mp hbuilderValid).1
    · obtain ⟨target, _, hlookup, _⟩ :=
        (hvalid hreaches).2.2 other (mem_mentions_of_names hnames)
      exact ⟨target, hlookup⟩
  · intro hgrounded
    refine resolves_iff.mpr fun other hother ↦ ⟨?_, hgrounded.acyclic other hother⟩
    -- Whatever is needed is declared, and its declaration is reached.
    have hreached : ∃ builder, builders.lookup other = some builder ∧
        Reaches builders id builder := by
      induction hother with
      | refl =>
        obtain ⟨builder, hlookup⟩ := hgrounded.declared
        exact ⟨builder, hlookup, .start hlookup⟩
      | tail _ hneeds ih =>
        obtain ⟨builder, hlookup, hreaches⟩ := ih
        obtain ⟨same, hsame, hmentioned⟩ := hneeds
        cases hlookup.symm.trans hsame
        obtain ⟨inner, hinner, hnames⟩ := exists_names_of_mentions builder hreaches hmentioned
        obtain ⟨target, htarget⟩ := hgrounded.named inner _ hinner hnames
        exact ⟨target, htarget, .named hinner hnames htarget⟩
    obtain ⟨builder, hlookup, hreaches⟩ := hreached
    exact ⟨builder, hlookup,
      valid_of_reaches hgrounded.holds (hassembled other builder hlookup) hreaches⟩

end Reaching

/-! ### Where a reported circle comes from -/

/-- Declared identifiers that need each the next one, and the last of them the first. Only the first
is named twice, at the start and at the end. -/
def Circle (builders : List (String × Builder)) (ids : List String) : Prop :=
  ∃ first rest, ids = first :: rest ++ [first] ∧ (first :: rest).Nodup ∧
    (∀ id ∈ first :: rest, ∃ builder, builders.lookup id = some builder) ∧
    ids.IsChain (Needs builders)

/-- A builder that is refused as circular asks for an identifier that is refused so. -/
theorem raises_build_of_circle [Installation] {State : Type}
    {resolve : String → ExceptT Fault (StateM State) Matcher} {before after : State}
    {fault : Fault} {ids : List String} (builder : Builder) (hcircle : fault.circle? = some ids)
    (hraises : Raises (builder.build resolve) before fault after) :
    ∃ needed ∈ builder.mentions, ∃ middle, Raises (resolve needed) middle fault after := by
  refine (isWritten_or_exists_of_raises_build builder hraises).resolve_left fun hwritten ↦ ?_
  rw [hwritten.circle?] at hcircle
  cases hcircle

end Builder

namespace Identifiers

open Builder

section Resolving

variable {builders : List (String × Builder)}

/-- What is reported as circular is a circle. The chain that is followed holds declared identifiers,
none of them twice, that need each the next one, the last of them the identifier to be resolved. -/
theorem circle_of_raises [Installation] (steps : Nat) (chain : List String) (id : String)
    (hnodup : chain.Nodup) (hdeclared : chain ⊆ builders.map (·.1))
    (hneeds : (chain ++ [id]).IsChain (Needs builders))
    (hsteps : builders.length < chain.length + steps) {before after : Built} {fault : Fault}
    {ids : List String} (hcircle : fault.circle? = some ids)
    (hraises : Raises (resolveWithin builders steps chain id) before fault after) :
    Circle builders ids := by
  induction steps generalizing chain id before with
  | zero =>
    -- Steps run out only where the chain is longer than the list of declarations.
    have hlength := (hnodup.subperm hdeclared).length_le
    rw [List.length_map] at hlength
    omega
  | succ steps ih =>
    obtain ⟨_, hcase⟩ := raises_resolveWithin_succ_iff.mp hraises
    rcases hcase with ⟨_, rfl, _⟩ | ⟨builder, hlookup, ⟨hchain, rfl, _⟩ | ⟨hchain, hbuild⟩⟩
    · cases hcircle
    · cases hcircle
      -- The circle is what is left of the chain from the identifier on.
      obtain ⟨skipped, rest, hfirst, hsplit⟩ :
          ∃ skipped rest, chain.dropWhile (· != id) = id :: rest ∧
            chain = skipped ++ id :: rest :=
        exists_dropWhile_ne hchain
      rw [hfirst]
      rw [hsplit] at hnodup hdeclared hneeds
      refine ⟨id, rest, rfl, hnodup.of_append_right, fun other hother ↦ ?_, ?_⟩
      · exact exists_lookup_iff.mpr (hdeclared (List.mem_append_right skipped hother))
      · rw [List.append_assoc] at hneeds
        exact hneeds.right_of_append
    · obtain ⟨needed, hmentioned, middle, hresolve⟩ :=
        raises_build_of_circle builder hcircle hbuild
      have hstep : Needs builders id needed := ⟨builder, hlookup, hmentioned⟩
      refine ih (chain ++ [id]) needed ?_ ?_ ?_ ?_ hresolve
      · rw [← List.concat_eq_append]
        exact hnodup.concat hchain
      · refine List.append_subset.mpr ⟨hdeclared, fun other hother ↦ ?_⟩
        rw [List.mem_singleton.mp hother]
        exact exists_lookup_iff.mp ⟨builder, hlookup⟩
      · rw [List.append_assoc, List.singleton_append, List.isChain_split]
        exact ⟨hneeds, List.isChain_pair.mpr hstep⟩
      · rw [List.length_append, List.length_singleton]
        omega

/-! ### Resolving without a limit -/

/-- With a declared identifier that joins the chain, fewer declared identifiers are left out of
it. -/
theorem unvisited_lt {chain : List String} {id : String} {builder : Builder}
    (hlookup : builders.lookup id = some builder) (hchain : chain.contains id = false) :
    (builders.filter fun entry ↦ !(chain ++ [id]).contains entry.1).length <
      (builders.filter fun entry ↦ !chain.contains entry.1).length := by
  have hleft : (builders.filter fun entry ↦ !(chain ++ [id]).contains entry.1) =
      (builders.filter fun entry ↦ !chain.contains entry.1).filter fun entry ↦ entry.1 != id := by
    rw [List.filter_filter]
    refine List.filter_congr fun entry _ ↦ ?_
    rw [Bool.eq_iff_iff]
    simp [and_comm]
  rw [hleft, List.length_filter_lt_length_iff_exists]
  exact ⟨(id, builder), List.mem_filter.mpr ⟨mem_of_lookup hlookup, by simpa using hchain⟩,
    by simp⟩

/-- The matcher of an identifier, with as many steps as it takes. -/
def resolveUnbounded [Installation] (builders : List (String × Builder)) (chain : List String)
    (id : String) :
    Building Matcher := do
  match (← get).lookup id with
  | some matcher => return .registered id matcher
  | none =>
    match _hlookup : builders.lookup id with
    | none => throw (.of (.idUnknown id) "" Kind.reference.tag)
    | some builder =>
      if _hchain : chain.contains id then
        throw (.of (.circular (chain.dropWhile (· != id) ++ [id])) "" Kind.reference.tag)
      else do
        let matcher ← builder.build fun needed ↦ resolveUnbounded builders (chain ++ [id]) needed
        modify (· ++ [(id, matcher)])
        return .registered id matcher
termination_by (builders.filter fun entry ↦ !chain.contains entry.1).length
decreasing_by
  exact unvisited_lt _hlookup (Bool.eq_false_iff.mpr _hchain)

/-- The limit is never reached: there are as many steps as declarations that are not in the chain,
and one more. -/
theorem resolveWithin_eq_resolveUnbounded [Installation] (steps : Nat) (chain : List String)
    (hnodup : chain.Nodup) (hdeclared : chain ⊆ builders.map (·.1))
    (hsteps : builders.length < chain.length + steps) :
    resolveWithin builders steps chain = resolveUnbounded builders chain := by
  induction steps generalizing chain with
  | zero =>
    have hlength := (hnodup.subperm hdeclared).length_le
    rw [List.length_map] at hlength
    omega
  | succ steps ih =>
    funext id
    rw [resolveWithin, resolveUnbounded]
    refine congrArg (get >>= ·) (funext fun before ↦ ?_)
    rcases before.lookup id with _ | matcher
    · dsimp only
      split
      · next hlookup => rw [hlookup]
      · next builder hlookup =>
        rw [hlookup]
        dsimp only
        by_cases hchain : chain.contains id = true
        · rw [dif_pos hchain, if_pos hchain]
        · rw [dif_neg hchain, if_neg hchain, ih]
          · rw [← List.concat_eq_append]
            exact hnodup.concat (mt List.contains_iff_mem.mpr hchain)
          · refine List.append_subset.mpr ⟨hdeclared, fun other hother ↦ ?_⟩
            rw [List.mem_singleton.mp hother]
            exact exists_lookup_iff.mp ⟨builder, hlookup⟩
          · rw [List.length_append, List.length_singleton]
            omega
    · rfl

end Resolving

/-! ### What resolving an identifier comes to -/

section Outcome

variable {identifiers : Identifiers} [Installation]

/-- Among sound matchers an identifier is resolved exactly if its matcher can be had. -/
theorem exists_resolve_ok_iff (hsound : Sound identifiers.builders identifiers.built)
    {id : String} :
    (∃ matcher, (identifiers.resolve id).1 = .ok matcher) ↔ Resolves identifiers.builders id := by
  -- Resolving an identifier is building what stands for its declaration, of whatever kind.
  have hbuild (matcher : Matcher) : (identifiers.resolve id).1 = .ok matcher ↔
      Builds identifiers.builders (.declared id default) matcher := by
    rw [← exists_returns_build_iff hsound, resolve_eq_build identifiers id default]
    constructor
    · intro hreturns
      obtain ⟨built, hbuilt, _⟩ := run_ok_iff.mp (Prod.ext hreturns rfl)
      exact ⟨built, hbuilt⟩
    · rintro ⟨built, hbuilt⟩
      exact congrArg Prod.fst (run_ok_iff.mpr ⟨built, hbuilt, rfl⟩)
  simp only [hbuild]
  constructor
  · rintro ⟨matcher, hbuilds⟩
    cases hbuilds with
    | declared hlookup hbuilds => exact ⟨_, _, hlookup, hbuilds⟩
  · rintro ⟨builder, matcher, hlookup, hbuilds⟩
    exact ⟨.registered id matcher, .declared hlookup hbuilds⟩

/-- What a call reports as circular, whatever has been built before, is a circle. -/
theorem circle_of_call {call : Call} {fault : Fault} {ids : List String}
    (hcircle : fault.circle? = some ids) (hfails : (identifiers.call call).1 = .error fault) :
    Circle identifiers.builders ids := by
  have hsteps : identifiers.builders.length <
      ([] : List String).length + (identifiers.builders.length + 1) := by
    rw [List.length_nil]
    omega
  have hbuild {builder : Builder}
      (hfails : (identifiers.call (.build builder)).1 = .error fault) :
      Circle identifiers.builders ids := by
    have hmap : (identifiers.build builder).1.map Answer.matcher = .error fault := hfails
    have hresult : (identifiers.build builder).1 = .error fault := by
      rcases hbuilt : (identifiers.build builder).1 with cause | matcher
      · rw [hbuilt] at hmap
        cases hmap
        rfl
      · rw [hbuilt] at hmap
        cases hmap
    have hraises : Raises (builder.build identifiers.resolving) identifiers.built fault
        (identifiers.build builder).2.built := Prod.ext hresult rfl
    obtain ⟨needed, _, middle, hneeded⟩ := raises_build_of_circle builder hcircle hraises
    exact circle_of_raises _ [] needed List.nodup_nil (List.nil_subset _)
      (List.isChain_singleton needed) hsteps hcircle hneeded
  cases call with
  | resolve id =>
    rw [← (Call.AsksFor.build default).call_eq identifiers] at hfails
    exact hbuild hfails
  | build builder => exact hbuild hfails
  | declare source builder =>
    -- A declaration is only refused because its identifier is taken.
    rw [call_declare] at hfails
    split at hfails
    · cases hfails
    · split_ifs at hfails
      cases hfails
      cases hcircle

/-- Whatever has been declared, resolved and built before, resolving an identifier takes no more
steps than it is given, it returns a matcher exactly if the declaration of the identifier is
grounded, and what it reports as circular is a circle. Assumes: what is declared is put together as
the built-in kinds provide for. -/
theorem resolve_detects_circles {calls : List Call}
    (hassembled : ∀ source builder, .declare source builder ∈ calls → builder.Assembled)
    (id : String) :
    let identifiers := ({} : Identifiers).afterCalls calls
    identifiers.resolve id = identifiers.run (resolveUnbounded identifiers.builders [] id) ∧
      ((∃ matcher, (identifiers.resolve id).1 = .ok matcher) ↔
        Grounded identifiers.builders id) ∧
      ∀ ids source node,
        (identifiers.resolve id).1 = .error (.of (.circular ids) source node) →
          Circle identifiers.builders ids := by
  intro identifiers
  have horderly : identifiers.Orderly := orderly_afterCalls orderly_empty calls
  have hdeclared : ∀ own builder, identifiers.builders.lookup own = some builder →
      builder.Assembled := declared_afterCalls nofun hassembled
  refine ⟨?_, ?_, fun ids source node hfails ↦ ?_⟩
  · have hsteps : identifiers.builders.length <
        ([] : List String).length + (identifiers.builders.length + 1) := by
      rw [List.length_nil]
      omega
    have hequal := resolveWithin_eq_resolveUnbounded _ [] List.nodup_nil
      (List.nil_subset (identifiers.builders.map (·.1))) hsteps
    rw [resolve, resolving, hequal]
  · rw [exists_resolve_ok_iff horderly.sound, resolves_iff_grounded hdeclared]
  · have hcall : (identifiers.call (.resolve id)).1 = .error (.of (.circular ids) source node) :=
      congrArg (Except.map Answer.matcher) hfails
    exact circle_of_call rfl hcall

/-- A matcher that is referred to twice before it is declared, and one that is referred to from
within itself. -/
def sharedCalls : List Call :=
  [.declare "" (.plain .all (some "both") [] ""
      [.plain .reference none [("refid", "leaf")] "" [] true,
        .plain .reference none [("refid", "leaf")] "" [] true] false),
    .resolve "both",
    .declare "" (.plain .text (some "leaf") [] "Foo" [] false),
    .declare "" (.plain .negation (some "inner") [] ""
      [.plain .reference none [("refid", "outer")] "" [] true] false),
    .declare "" (.plain .any (some "outer") [] ""
      [.declared "leaf" .text, .declared "inner" .negation] false)]

end Outcome

section Sample

open Sample

/-- A matcher that two references share is no circle, a reference to an enclosing matcher is one,
and what does not lead into it is resolved all the same. -/
theorem resolve_detects_circles_shared :
    (∀ source builder, .declare source builder ∈ sharedCalls → builder.Assembled) ∧
      Grounded (({} : Identifiers).afterCalls sharedCalls).builders "both" ∧
      ¬Grounded (({} : Identifiers).afterCalls sharedCalls).builders "outer" ∧
      Circle (({} : Identifiers).afterCalls sharedCalls).builders ["outer", "inner", "outer"] := by
  have hreference (name : String) :
      (Builder.plain .reference none [("refid", name)] "" [] true).Assembled :=
    .plain (by decide) (fun _ ↦ rfl) (fun _ ↦ rfl) (List.forall_mem_nil _)
  have hassembled : ∀ source builder, .declare source builder ∈ sharedCalls →
      builder.Assembled := by
    intro source builder hmem
    simp only [sharedCalls, List.mem_cons, Call.declare.injEq, reduceCtorEq, false_or,
      List.not_mem_nil, or_false] at hmem
    rcases hmem with ⟨_, rfl⟩ | ⟨_, rfl⟩ | ⟨_, rfl⟩ | ⟨_, rfl⟩
    · exact .plain (by decide) nofun nofun (by simpa using hreference "leaf")
    · exact .plain (by decide) (fun _ ↦ rfl) nofun (List.forall_mem_nil _)
    · exact .plain (by decide) nofun nofun (by simpa using hreference "outer")
    · exact .plain (by decide) nofun nofun
        (by simpa using ⟨.declared "leaf" .text, .declared "inner" .negation⟩)
  have hboth : ((({} : Identifiers).afterCalls sharedCalls).resolve "both").1 =
      .ok (.registered "both" (.all (some "both")
        [.reference none "leaf" (.leaf (some "leaf") (.literal "Foo") .unknown),
          .reference none "leaf" (.leaf (some "leaf") (.literal "Foo") .unknown)])) := by
    cbv
  have houter : ((({} : Identifiers).afterCalls sharedCalls).resolve "outer").1 =
      .error (.of (.circular ["outer", "inner", "outer"]) "" "matcher_ref") := by
    cbv
  have hfails : ¬∃ matcher,
      ((({} : Identifiers).afterCalls sharedCalls).resolve "outer").1 = .ok matcher := by
    rw [houter]
    exact not_exists_error_eq_ok _
  exact ⟨hassembled, (resolve_detects_circles hassembled "both").2.1.mp ⟨_, hboth⟩,
    mt (resolve_detects_circles hassembled "outer").2.1.mpr hfails,
    (resolve_detects_circles hassembled "outer").2.2 _ "" "matcher_ref" houter⟩

end Sample

end Identifiers

end LicenseHeaders
