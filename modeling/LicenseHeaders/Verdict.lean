/-!
# Verdicts

What is known so far about whether a header shows something: nothing yet, that it does, or that
it does not. Verdicts are combined as in three-valued logic, where an unknown part leaves the
whole unknown unless the other parts settle it, and the end of the header settles what is still
unknown as a failure.
-/

set_option autoImplicit false
set_option relaxedAutoImplicit false

namespace LicenseHeaders

/-- What is known about a header so far. -/
inductive Verdict where
  | unknown
  | holds
  | fails
deriving DecidableEq, Repr, Inhabited

namespace Verdict

/-- The word for a verdict. -/
def word : Verdict → String
  | unknown => "unknown"
  | holds => "true"
  | fails => "false"

/-- The verdict that a word stands for. -/
def ofWord? : String → Option Verdict
  | "unknown" => some unknown
  | "true" => some holds
  | "false" => some fails
  | _ => none

/-- A line that shows what is looked for settles the verdict; any other leaves it. -/
def latch (verdict : Verdict) (hit : Bool) : Verdict :=
  if hit then holds else verdict

/-- At the end of the header no evidence counts as a failure. -/
def settle : Verdict → Verdict
  | unknown => fails
  | verdict => verdict

/-- The verdict on the opposite. -/
def negate : Verdict → Verdict
  | unknown => unknown
  | holds => fails
  | fails => holds

/-- The verdict on a conjunction: a failing part makes it fail, and otherwise an unknown part
leaves it unknown. -/
def all : List Verdict → Verdict
  | [] => holds
  | fails :: _ => fails
  | holds :: rest => all rest
  | unknown :: rest => if all rest = fails then fails else unknown

/-- The verdict on a disjunction: a part that holds makes it hold, and otherwise an unknown part
leaves it unknown. -/
def any : List Verdict → Verdict
  | [] => fails
  | holds :: _ => holds
  | fails :: rest => any rest
  | unknown :: rest => if any rest = holds then holds else unknown

end Verdict

end LicenseHeaders
