import LicenseHeaders.Builder.Installation

/-!
# A sample installation

An installation that knows the names of the common characters and has two plugged-in kinds: one
that looks for a text in capital letters, and one that has a set verdict. Every other plugged-in
kind fails.
-/

set_option autoImplicit false
set_option relaxedAutoImplicit false

namespace LicenseHeaders.Sample

open Text

/-- The kind that looks for a text in capital letters. -/
def upper : Plugin :=
  { tag := "upper", className := "UpperBuilder", hasText := true }

/-- The kind that has a set verdict. -/
def fixed : Plugin :=
  { tag := "fixed", className := "FixedBuilder", options := ["id", "state"] }

/-- A matcher of the kind that looks for a text in capital letters. -/
def makeUpper (id : Option String) (text : String) : Except Plugin.Refusal (Plugin.Made id) :=
  if text.isEmpty then .error (.stated ValueFault.emptyText.message upper.tag)
  else
    .ok {
      matcher := .leaf id (.literal (String.ofList (uppercase text.toList))) .unknown
      named_eq_nil := rfl
      id?_eq := fun _ hid _ ↦ hid }

/-- A matcher of the kind that has a set verdict. -/
def makeFixed (id : Option String) (value? : String → Option String) :
    Except Plugin.Refusal (Plugin.Made id) :=
  let word := (value? "state").getD Verdict.unknown.word
  match Verdict.ofWord? word with
  | some verdict =>
    .ok { matcher := .ofProbe verdict id, named_eq_nil := rfl, id?_eq := fun _ hid _ ↦ hid }
  | none => .error (.stated (ValueFault.notAVerdict word).message fixed.tag)

scoped instance installation : Installation where
  code? := commonCode?
  make plugin id value? text :=
    if plugin = upper then makeUpper id text
    else if plugin = fixed then makeFixed id value?
    else .error (.failure "NotImplementedError")

end LicenseHeaders.Sample
