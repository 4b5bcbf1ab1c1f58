import LicenseHeaders.Builder.Basic

/-!
# Licenses

A `License` is a family of licenses together with the matcher that recognizes it in a header.
Families are compared and ordered by their category alone; the name is for display. A
`LicenseDraft` collects what a license consists of, and `LicenseDraft.build` makes the license.
-/

set_option autoImplicit false
set_option relaxedAutoImplicit false

namespace LicenseHeaders

open Text

variable [Installation]

/-- A family of licenses. -/
structure Family where
  /-- The short name that identifies the family. -/
  category : String
  /-- The name for display. -/
  name : String := ""
deriving DecidableEq, Repr, Inhabited

namespace Family

/-- The category, and the name behind it if there is one. -/
def text (family : Family) : String :=
  if family.name.isEmpty then family.category else family.category ++ ": " ++ family.name

/-- Whether two families are the same: they have the same category. -/
def same (first second : Family) : Bool :=
  first.category == second.category

/-- Whether a family comes before another: its category does. -/
def before (first second : Family) : Bool :=
  decide (first.category < second.category)

/-- The first of several families that has a category. -/
def search? (category : String) (families : List Family) : Option Family :=
  families.find? fun family ↦ family.category == category

/-- A family in words. -/
def describe (family : Family) : String :=
  "LicenseFamily(category=" ++ quoted family.category ++ ", name=" ++ quoted family.name ++ ")"

/-- Families in the order of their categories; those of one category keep their order. -/
def sort (families : List Family) : List Family :=
  families.mergeSort fun first second ↦ !second.before first

end Family

/-- A license: a family and the matcher that recognizes it. -/
structure License where
  family : Family
  matcher : Matcher
  /-- Remarks on the license. -/
  notes : Option String := none
  /-- The category of the family that this one derives from. -/
  derivedFrom : Option String := none
deriving Repr

namespace License

/-- The category that identifies a license. -/
def id (license : License) : String :=
  license.family.category

/-- A license with a matcher of its own that has read nothing. -/
def fresh (license : License) : License :=
  { license with matcher := license.matcher.fresh }

/-- A license whose matcher has read nothing. -/
def reset (license : License) : License :=
  { license with matcher := license.matcher.reset }

/-- Reads a line to a license. -/
def feed (line : List Char) (license : License) : Verdict × License :=
  let (verdict, matcher) := license.matcher.feed line
  (verdict, { license with matcher })

/-- Tells a license that the header is over. -/
def finish (license : License) : Verdict × License :=
  let (verdict, matcher) := license.matcher.finish
  (verdict, { license with matcher })

/-- Takes over what happened to identified matchers elsewhere. -/
def renew (license : License) (table : List (String × Matcher)) : License :=
  { license with matcher := license.matcher.renewed table }

/-- A license in words, without its matcher. -/
def describe (license : License) : String :=
  "License(family=" ++ license.family.describe ++ ", notes=" ++ quotedOption license.notes ++
    ", derived_from=" ++ quotedOption license.derivedFrom ++ ")"

/-- Licenses in the order of their families. -/
def sort (licenses : List License) : List License :=
  licenses.mergeSort fun first second ↦ !second.family.before first.family

end License

/-! ### Making licenses -/

/-- The matcher of a license to be: one that exists, or one that is still to be built. -/
inductive Root where
  | matcher (matcher : Matcher)
  | builder (builder : Builder)
deriving Inhabited

/-- What is known of a license to be. -/
structure LicenseDraft where
  category : Option String := none
  name : Option String := none
  notes : Option String := none
  derivedFrom : Option String := none
  root : Option Root := none
deriving Inhabited

/-- A text without blanks at its ends, unless nothing is left of it. -/
def unlessBlank (text : Option String) : Option String :=
  (text.map trimmed).filter (!·.isEmpty)

namespace LicenseDraft

/-- Sets the remarks. -/
def setNotes (draft : LicenseDraft) (notes : Option String) : LicenseDraft :=
  { draft with notes := unlessBlank notes }

/-- Sets the category of the family that the license derives from. -/
def setDerivedFrom (draft : LicenseDraft) (category : Option String) : LicenseDraft :=
  { draft with derivedFrom := unlessBlank category }

/-- Sets the matcher, which can be set once. -/
def setRoot (draft : LicenseDraft) (root : Root) : Except Fault LicenseDraft :=
  if draft.root.isSome then .error (.of .secondMatcher "" "license")
  else .ok { draft with root := some root }

/-- Makes the license. It must have a category, a name and a matcher, which is built last. -/
def build (draft : LicenseDraft) (resolve : String → Building Matcher) : Building License :=
  match unlessBlank draft.category with
  | none => throw (.of .categoryMissing "" "license")
  | some category =>
    match unlessBlank draft.name with
    | none => throw (.of (.licenseNameMissing category) "" "license")
    | some name =>
      match draft.root with
      | none => throw (.of (.licenseMatcherMissing category) "" "license")
      | some root => do
        let matcher ←
          match root with
          | .matcher matcher => pure matcher
          | .builder builder => builder.build resolve
        return { family := ⟨category, name⟩, matcher, notes := draft.notes,
                 derivedFrom := draft.derivedFrom }

end LicenseDraft

end LicenseHeaders
