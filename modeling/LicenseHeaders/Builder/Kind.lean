/-!
# Kinds of matchers

A `Kind` is a kind of matcher that a rule document can declare. Seven kinds are built in; further
ones, each a `Plugin`, are plugged in by name. A kind says which attributes its declarations accept
and whether they hold text, further matchers or a reference. What is plugged in holds no matchers
and refers to none.
-/

set_option autoImplicit false
set_option relaxedAutoImplicit false

namespace LicenseHeaders

/-- A kind of matcher that is plugged in. -/
structure Plugin where
  /-- The tag that the kind goes by. -/
  tag : String
  /-- The name of the class of its builders. -/
  className : String
  /-- Where that class is from, which tells apart kinds that agree in all else. -/
  origin : String := ""
  /-- The attributes that its declarations accept, in order. -/
  options : List String := ["id"]
  /-- Whether its declarations hold text. -/
  hasText : Bool := false
deriving DecidableEq, Repr, Inhabited

/-- A kind of matcher. -/
inductive Kind where
  | text
  | copyright
  | spdx
  | all
  | any
  | negation
  | reference
  /-- The kind that leaves open how its matchers are built. -/
  | base
  /-- A plugged-in kind. -/
  | plugged (plugin : Plugin)
deriving DecidableEq, Repr, Inhabited

instance : Coe Plugin Kind where
  coe := .plugged

namespace Kind

/-- The tag that a kind goes by. -/
def tag : Kind → String
  | text => "text"
  | copyright => "copyright"
  | spdx => "spdx"
  | all => "and"
  | any => "or"
  | negation => "not"
  | reference => "matcher_ref"
  | base => "matcher"
  | plugged plugin => plugin.tag

/-- The name of the class of builders of a kind. -/
def className : Kind → String
  | text => "TextBuilder"
  | copyright => "CopyrightBuilder"
  | spdx => "SpdxBuilder"
  | all => "AndBuilder"
  | any => "OrBuilder"
  | negation => "NotBuilder"
  | reference => "MatcherRefBuilder"
  | base => "MatcherBuilder"
  | plugged plugin => plugin.className

/-- The kinds that every rule document knows. -/
def builtIn : List Kind :=
  [text, copyright, spdx, all, any, negation, reference]

theorem plugged_notMem_builtIn (plugin : Plugin) : plugged plugin ∉ builtIn := by
  simp [builtIn]

/-- The built-in kind that goes by a name. -/
def builtIn? (name : String) : Option Kind :=
  builtIn.find? fun kind ↦ kind.tag == name

/-- The attributes that declarations of a kind accept, in order. -/
def options : Kind → List String
  | copyright => ["end", "id", "owner", "start"]
  | spdx => ["id", "name"]
  | reference => ["id", "refid"]
  | plugged plugin => plugin.options
  | _ => ["id"]

/-- Whether a declaration of a kind holds matchers. -/
def hasMembers : Kind → Bool
  | all | any | negation => true
  | _ => false

/-- Whether a declaration of a kind holds text. -/
def hasText : Kind → Bool
  | text => true
  | plugged plugin => plugin.hasText
  | _ => false

end Kind

end LicenseHeaders
