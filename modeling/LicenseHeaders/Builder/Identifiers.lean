import LicenseHeaders.Builder.Basic

/-!
# Identified matchers

A matcher that is declared with an identifier can be referred to. `Identifiers` holds the
declared builders and, for each identifier, the one matcher that has been built for it.
`Identifiers.resolve` builds it when it is first asked for, so a reference may come before the
declaration. References that lead back to where they started are reported.
-/

set_option autoImplicit false
set_option relaxedAutoImplicit false

namespace LicenseHeaders

variable [Installation]

/-- The declared identifiers and the matchers that have been built for them. -/
structure Identifiers where
  /-- The declared builders, in the order of their declaration. -/
  builders : List (String × Builder) := []
  /-- The matchers that have been built, in the order in which they were completed. -/
  built : Built := []
deriving Inhabited

namespace Identifiers

/-- Whether an identifier is declared. -/
def contains (identifiers : Identifiers) (id : String) : Bool :=
  (identifiers.builders.lookup id).isSome

/-- Declares a builder. If it has an identifier, the result stands for it wherever it is used;
an identifier can be declared once. -/
def declare (identifiers : Identifiers) (source : String) (builder : Builder) :
    Except Fault (Builder × Identifiers) :=
  match builder.id? with
  | none => .ok (builder, identifiers)
  | some id =>
    if identifiers.contains id then .error (.of (.idTaken id) source builder.kind.tag)
    else
      .ok (.declared id builder.kind,
        { identifiers with builders := identifiers.builders ++ [(id, builder)] })

/-- The matcher of an identifier. The identifiers in `chain` are being resolved, outermost first;
each step resolves a further one, so no more steps are needed than there are identifiers. -/
def resolveWithin (builders : List (String × Builder)) :
    Nat → List String → String → Building Matcher
  | 0, chain, id => throw (.of (.circular (chain ++ [id])) "" Kind.reference.tag)
  | steps + 1, chain, id => do
    match (← get).lookup id with
    | some matcher => return .registered id matcher
    | none =>
      match builders.lookup id with
      | none => throw (.of (.idUnknown id) "" Kind.reference.tag)
      | some builder =>
        if chain.contains id then
          throw (.of (.circular (chain.dropWhile (· != id) ++ [id])) "" Kind.reference.tag)
        else
          let matcher ← builder.build (resolveWithin builders steps (chain ++ [id]))
          modify (· ++ [(id, matcher)])
          return .registered id matcher

/-- Resolves an identifier among those that have been declared. -/
def resolving (identifiers : Identifiers) (id : String) : Building Matcher :=
  resolveWithin identifiers.builders (identifiers.builders.length + 1) [] id

/-- Runs a step of building with the matchers that have been built so far. -/
def run {α : Type} (identifiers : Identifiers) (building : Building α) :
    Except Fault α × Identifiers :=
  let (result, built) := building.run.run identifiers.built
  (result, { identifiers with built })

/-- The matcher of an identifier, which is built if it has not been. -/
def resolve (identifiers : Identifiers) (id : String) : Except Fault Matcher × Identifiers :=
  identifiers.run (identifiers.resolving id)

/-- The matcher of a builder. -/
def build (identifiers : Identifiers) (builder : Builder) : Except Fault Matcher × Identifiers :=
  identifiers.run (builder.build identifiers.resolving)

/-- Takes over what happened to identified matchers elsewhere. -/
def renew (identifiers : Identifiers) (table : List (String × Matcher)) : Identifiers :=
  { identifiers with
    built := identifiers.built.map fun (id, matcher) ↦
      match table.lookup id with
      | some current => (id, current)
      | none => (id, matcher.renewed table) }

end Identifiers

end LicenseHeaders
