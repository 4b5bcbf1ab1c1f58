import LicenseHeaders.Event
import LicenseHeaders.Fault

/-!
# Approval

A `Policy` is a set of approved categories. A family is approved if its category is in the set;
where no family is recognized, nothing is approved.
-/

set_option autoImplicit false
set_option relaxedAutoImplicit false

namespace LicenseHeaders

/-- The approved categories, each of them once. -/
structure Policy where
  categories : List String := []
deriving Repr, Inhabited

namespace Policy

/-- The policy that approves the given categories. -/
def ofList (categories : List String) : Policy :=
  ⟨categories.eraseDups⟩

/-- Whether a category is approved. -/
def approves (policy : Policy) (category : String) : Bool :=
  policy.categories.contains category

/-- Whether the category of what has been recognized is approved. -/
def approvesSome (policy : Policy) (category : Option String) : Bool :=
  (category.map policy.approves).getD false

/-- Approves a category. Nothing happens if it is approved already. -/
def add (policy : Policy) (category : String) : Policy × List Event :=
  if policy.approves category then (policy, [])
  else (⟨category :: policy.categories⟩, [.familyApproved category])

/-- Approves several categories in order. -/
def addAll (policy : Policy) : List String → Policy × List Event
  | [] => (policy, [])
  | category :: rest =>
    let (policy, first) := policy.add category
    let (policy, others) := policy.addAll rest
    (policy, first ++ others)

/-- The approved categories in order. -/
def names (policy : Policy) : List String :=
  sorted policy.categories

end Policy

end LicenseHeaders
