import LicenseHeaders.Proofs.Builder.Circles
import LicenseHeaders.Sample

/-!
# One matcher for each identifier

What is being resolved can also be written down where everyone sees it: a `Workbench` holds, beside
the matchers that have been built, the identifiers that are being resolved. An identifier is put
there when its builder starts and taken away when the builder is done, also if it fails. This is
how `Identifiers.resolveTracked` resolves. It does what `Identifiers.resolveWithin` does with the
chain that is found on the workbench, and it leaves that chain there
(`Identifiers.simulates_resolveTracked`).

A `Session` makes calls on one workbench. Whatever its calls have been, and however many of them
have failed, the workbench is left without an identifier that is being resolved, the table of built
matchers has only grown, and an identifier that has got a matcher keeps it
(`Identifiers.Session.one_matcher_each`).
-/

set_option autoImplicit false
set_option relaxedAutoImplicit false

namespace LicenseHeaders

/-- What resolving works on. -/
structure Workbench where
  /-- The matchers that have been built, in the order in which they were completed. -/
  built : Built := []
  /-- The identifiers that are being resolved, outermost first. -/
  chain : List String := []

namespace Workbench

/-- An identifier starts being resolved. -/
def enter (id : String) (bench : Workbench) : Workbench :=
  { bench with chain := bench.chain ++ [id] }

/-- The innermost identifier is done. -/
def leave (bench : Workbench) : Workbench :=
  { bench with chain := bench.chain.dropLast }

/-- A matcher is completed. -/
def complete (id : String) (matcher : Matcher) (bench : Workbench) : Workbench :=
  { bench with built := bench.built ++ [(id, matcher)] }

end Workbench

namespace Identifiers

open Builder

/-- The matcher of an identifier. What is being resolved is looked up on the workbench. -/
def resolveTracked [Installation] (builders : List (String × Builder)) :
    Nat → String → ExceptT Fault (StateM Workbench) Matcher
  | 0, id => do throw (.of (.circular ((← get).chain ++ [id])) "" Kind.reference.tag)
  | steps + 1, id => do
    let bench ← get
    match bench.built.lookup id with
    | some matcher => return .registered id matcher
    | none =>
      match builders.lookup id with
      | none => throw (.of (.idUnknown id) "" Kind.reference.tag)
      | some builder =>
        if bench.chain.contains id then
          throw (.of (.circular (bench.chain.dropWhile (· != id) ++ [id])) "" Kind.reference.tag)
        else
          modify (Workbench.enter id)
          let matcher ← tryFinally (builder.build (resolveTracked builders steps))
            (modify Workbench.leave)
          modify (Workbench.complete id matcher)
          return .registered id matcher

/-- A workbench shows built matchers and a chain. -/
def Shows (chain : List String) (bench : Workbench) (built : Built) : Prop :=
  bench = ⟨built, chain⟩

/-- A step during which an identifier is in the chain leaves the chain as it was, also if it
fails. -/
theorem simulates_entered {Value : Type} {chain : List String} (id : String)
    {first : ExceptT Fault (StateM Workbench) Value} {second : Building Value}
    (hstep : Simulates (Shows (chain ++ [id])) first second) :
    Simulates (Shows chain)
      (modify (Workbench.enter id) >>= fun _ ↦ tryFinally first (modify Workbench.leave))
      second := by
  rintro _ built rfl
  obtain ⟨hresult, hbench⟩ := hstep ⟨built, chain ++ [id]⟩ built rfl
  have hrun : (modify (Workbench.enter id) >>= fun _ ↦
      tryFinally first (modify Workbench.leave)).run.run ⟨built, chain⟩ =
        ((second.run.run built).1, ⟨(second.run.run built).2, chain⟩) := by
    rw [run_bind]
    change (tryFinally first (modify Workbench.leave)).run.run ⟨built, chain ++ [id]⟩ = _
    rw [run_tryFinally_modify, hresult, hbench, Workbench.leave, List.dropLast_concat]
  rw [hrun]
  exact ⟨rfl, rfl⟩

/-- With the chain that is on the workbench, resolving goes on as with a chain that is handed on,
and the chain on the workbench is the same afterwards, also if resolving fails. -/
theorem simulates_resolveTracked [Installation] {builders : List (String × Builder)} (steps : Nat)
    (chain : List String) (id : String) :
    Simulates (Shows chain) (resolveTracked builders steps id)
      (resolveWithin builders steps chain id) := by
  induction steps generalizing chain id with
  | zero =>
    rintro _ built rfl
    exact ⟨rfl, rfl⟩
  | succ steps ih =>
    rw [resolveTracked, resolveWithin]
    refine simulates_get_bind ?_
    rintro _ built rfl
    dsimp only
    cases built.lookup id with
    | some matcher => exact simulates_pure _
    | none =>
      cases builders.lookup id with
      | none => exact simulates_throw _
      | some builder =>
        dsimp only
        split_ifs with hchain
        · exact simulates_throw _
        · have hbuild := simulates_entered id (simulates_build (ih (chain ++ [id])) builder)
          rw [← bind_assoc]
          refine simulates_bind hbuild fun matcher ↦ ?_
          refine simulates_bind (simulates_modify ?_) fun _ ↦ simulates_pure _
          rintro _ built rfl
          rfl

/-! ### Sessions -/

/-- Identified matchers with the chain of those that are being resolved. -/
structure Session where
  identifiers : Identifiers := {}
  chain : List String := []

namespace Session

variable (session : Session)

/-- Runs a step on the workbench. -/
def run {Value : Type} (step : ExceptT Fault (StateM Workbench) Value) :
    Except Fault Value × Session :=
  let (result, bench) := step.run.run ⟨session.identifiers.built, session.chain⟩
  (result, { identifiers := { session.identifiers with built := bench.built },
             chain := bench.chain })

/-- Resolves an identifier on the workbench. -/
def resolving [Installation] (id : String) : ExceptT Fault (StateM Workbench) Matcher :=
  resolveTracked session.identifiers.builders (session.identifiers.builders.length + 1) id

/-- Makes a call. -/
def call [Installation] : Call → Except Fault Answer × Session
  | .declare source builder =>
    let (result, identifiers) := session.identifiers.call (.declare source builder)
    (result, { session with identifiers })
  | .resolve id =>
    let (result, after) := session.run (session.resolving id)
    (result.map .matcher, after)
  | .build builder =>
    let (result, after) := session.run (builder.build session.resolving)
    (result.map .matcher, after)

/-- Makes several calls, one after the other, whatever their outcomes. -/
def afterCalls [Installation] (session : Session) : List Call → Session
  | [] => session
  | first :: rest => (session.call first).2.afterCalls rest

variable {session}

/-- While nothing is being resolved, a call does on the workbench what it does without one, and
nothing is being resolved afterwards, whatever its outcome. -/
theorem call_eq [Installation] (hidle : session.chain = []) (call : Call) :
    session.call call =
      ((session.identifiers.call call).1, ⟨(session.identifiers.call call).2, []⟩) := by
  obtain ⟨identifiers, chain⟩ := session
  obtain rfl : chain = [] := hidle
  have hrun {Value : Type} {first : ExceptT Fault (StateM Workbench) Value}
      {second : Building Value} (hstep : Simulates (Shows []) first second) :
      (⟨identifiers, []⟩ : Session).run first =
        ((identifiers.run second).1, ⟨(identifiers.run second).2, []⟩) := by
    let outcome := first.run.run ⟨identifiers.built, []⟩
    have houtcome : (⟨identifiers, []⟩ : Session).run first =
        (outcome.1, ⟨{ identifiers with built := outcome.2.built }, outcome.2.chain⟩) := rfl
    obtain ⟨hresult, hbench⟩ := hstep ⟨identifiers.built, []⟩ identifiers.built rfl
    rw [houtcome, hresult, hbench]
    rfl
  have hresolve (id : String) : Simulates (Shows []) ((⟨identifiers, []⟩ : Session).resolving id)
      (identifiers.resolving id) := simulates_resolveTracked _ [] id
  cases call with
  | declare source builder => rfl
  | resolve id =>
    rw [Session.call, hrun (hresolve id)]
    rfl
  | build builder =>
    rw [Session.call, hrun (simulates_build hresolve builder)]
    rfl

/-- Calls leave nothing that is being resolved, and what they do to the identified matchers does not
depend on the workbench. -/
theorem afterCalls_eq [Installation] (hidle : session.chain = []) (calls : List Call) :
    session.afterCalls calls = ⟨session.identifiers.afterCalls calls, []⟩ := by
  induction calls generalizing session with
  | nil =>
    rw [afterCalls, Identifiers.afterCalls, ← hidle]
  | cons call rest ih =>
    rw [afterCalls, Identifiers.afterCalls, call_eq hidle call]
    exact ih rfl

/-- Whatever the calls have been and however many of them have failed: an identifier that is
declared is refused anew, and nothing is changed; a call leaves nothing that is being resolved, does
not take back what has been built, and reports no circle where there is none; what has been built
for an identifier is the matcher of that name, which was declared and completed once; and once a
call has got a matcher for an identifier, every later one gets the same. Assumes: no builder is
declared with an empty identifier, which none gets from an attribute (`Builder.trimmedId?`). -/
theorem one_matcher_each [Installation] {calls : List Call}
    (hnamed : ∀ source builder, .declare source builder ∈ calls → builder.id? ≠ some "") :
    let session := ({} : Session).afterCalls calls
    (∀ source builder id, builder.id? = some id → session.identifiers.contains id = true →
      session.call (.declare source builder) =
        (.error (.of (.idTaken id) source builder.kind.tag), session)) ∧
    (∀ call, session.call call =
        ((session.identifiers.call call).1, ⟨(session.identifiers.call call).2, []⟩) ∧
      session.identifiers.built <+: (session.call call).2.identifiers.built ∧
      ∀ ids source node, (session.call call).1 = .error (.of (.circular ids) source node) →
        Circle session.identifiers.builders ids) ∧
    (∀ id matcher, (id, matcher) ∈ session.identifiers.built →
      session.identifiers.contains id = true ∧ matcher.id? = some id) ∧
    (session.identifiers.built.map (·.1)).Nodup ∧
    ∀ id first second more matcher, Call.AsksFor id first → Call.AsksFor id second →
      (session.call first).1 = .ok (.matcher matcher) →
        let later := (session.call first).2.afterCalls more
        later.call second = (.ok (.matcher matcher), later) := by
  have hsession : ({} : Session).afterCalls calls = ⟨({} : Identifiers).afterCalls calls, []⟩ :=
    afterCalls_eq rfl calls
  rw [hsession]
  intro session
  have horderly : session.identifiers.Orderly := orderly_afterCalls orderly_empty calls
  have hcall (call : Call) : session.call call =
      ((session.identifiers.call call).1, ⟨(session.identifiers.call call).2, []⟩) :=
    call_eq rfl call
  refine ⟨?_, fun call ↦ ⟨hcall call, ?_, ?_⟩, ?_, horderly.distinct, ?_⟩
  · intro source builder id hid htaken
    rw [hcall, call_declare_taken hid htaken]
  · rw [hcall]
    exact (grows_call session.identifiers call).built
  · intro ids source node hfails
    rw [hcall] at hfails
    exact circle_of_call rfl hfails
  · intro id matcher hmem
    have hbuilt := lookup_of_mem horderly.distinct hmem
    obtain ⟨builder, hlookup, hbuilds⟩ := horderly.sound id matcher hbuilt
    have hown : builder.id? = some id := horderly.owned id builder hlookup
    have hid : id ≠ "" := by
      rintro rfl
      exact declared_afterCalls (fun _ _ hnone ↦ nomatch hnone) hnamed "" builder hlookup hown
    refine ⟨Option.isSome_iff_exists.mpr ⟨builder, hlookup⟩, ?_⟩
    exact hbuilds.id?_eq horderly.owned hown hid
  · intro id first second more matcher hfirst hsecond hreturns
    rw [hcall, hfirst.call_eq] at hreturns
    obtain ⟨target, rfl, hbuilt⟩ := built_of_call_resolve horderly hreturns
    have hlater : (session.call first).2.afterCalls more =
        ⟨(session.identifiers.call (.resolve id)).2.afterCalls more, []⟩ := by
      rw [hcall, hfirst.call_eq, afterCalls_eq rfl]
    dsimp only
    rw [hlater, call_eq rfl, hsecond.call_eq]
    have hgrown := (grows_afterCalls (session.identifiers.call (.resolve id)).2 more).built
    rw [call_resolve_of_built (lookup_of_start hgrown hbuilt)]

/-- Calls that fail for lack of a declaration, with one that comes later. -/
def retriedCalls : List Call :=
  [.declare "" (.plain .text (some "leaf") [] "Foo" [] false),
    .declare "" (.plain .all (some "whole") [] ""
      [.declared "leaf" .text, .plain .reference none [("refid", "late")] "" [] true] false),
    .resolve "whole",
    .declare "" (.plain .spdx (some "late") [("name", "MIT")] "" [] false),
    .declare "" (.plain .text (some "leaf") [] "Bar" [] false)]

section Sample

open Sample

/-- What was built before a failure is kept, the failure leaves no trace of itself, and the matcher
that is got in the end stays. -/
theorem one_matcher_each_retried :
    (∀ source builder, .declare source builder ∈ retriedCalls → builder.id? ≠ some "") ∧
      ∃ matcher, let session := ({} : Session).afterCalls retriedCalls
        (session.call (.resolve "whole")).1 = .ok (.matcher matcher) ∧
          ((session.call (.resolve "whole")).2.call (.build (.declared "whole" .all))).1 =
            .ok (.matcher matcher) := by
  have hnamed : ∀ source builder, .declare source builder ∈ retriedCalls →
      builder.id? ≠ some "" := by
    intro source builder hmem
    simp only [retriedCalls, List.mem_cons, Call.declare.injEq, reduceCtorEq, false_or,
      List.not_mem_nil, or_false] at hmem
    rcases hmem with ⟨_, rfl⟩ | ⟨_, rfl⟩ | ⟨_, rfl⟩ | ⟨_, rfl⟩ <;> decide
  have hwhole : ∃ matcher, ((({} : Session).afterCalls retriedCalls).call (.resolve "whole")).1 =
      .ok (.matcher matcher) := ⟨.registered "whole" (.all (some "whole")
        [.registered "leaf" (.leaf (some "leaf") (.literal "Foo") .unknown),
          .reference none "late" (.leaf (some "late") (.identifier "mit".toList) .unknown)]),
      by cbv⟩
  obtain ⟨matcher, hreturns⟩ := hwhole
  have hlater := (one_matcher_each hnamed).2.2.2.2 "whole" (.resolve "whole")
    (.build (.declared "whole" .all)) [] matcher .resolve (.build .all) hreturns
  exact ⟨hnamed, matcher, hreturns, congrArg Prod.fst hlater⟩

end Sample

end Session

end Identifiers

end LicenseHeaders
