import LicenseHeaders.Builder.Installation

/-!
# Builders of matchers

A `Builder` is a matcher that has been declared and not been built: its kind, its identifier, the
attributes that were set, its text and the builders in it. `Builder.build` builds the matcher.
What an identifier stands for is decided elsewhere, so building takes a function that resolves
identifiers and runs in whatever state that function keeps. In `Building` this state is the
identified matchers that have been built so far; they are kept also when building fails.
-/

set_option autoImplicit false
set_option relaxedAutoImplicit false

namespace LicenseHeaders

open Text

variable [Installation]

/-- A matcher that has been declared. -/
inductive Builder where
  /-- One that is built where it stands. -/
  | plain (kind : Kind) (id : Option String) (settings : List (String × String)) (text : String)
      (members : List Builder) (resolves : Bool)
  /-- The one that was declared under an identifier. -/
  | declared (id : String) (kind : Kind)
deriving Inhabited

namespace Builder

/-- A builder of a kind with nothing set. -/
def ofKind (kind : Kind) : Builder :=
  plain kind none [] "" [] false

/-- The kind of a builder. -/
def kind : Builder → Kind
  | plain kind .. => kind
  | declared _ kind => kind

/-- The identifier of a builder. -/
def id? : Builder → Option String
  | plain _ id .. => id
  | declared id _ => some id

/-- An identifier without blanks at its ends, unless nothing is left. -/
def trimmedId? (value : String) : Option String :=
  if isAllBlank value then none else some (trimmed value)

/-- Sets one attribute. -/
def set (name value : String) : Builder → Builder
  | plain kind id settings text members resolves =>
    if name == "id" then plain kind (trimmedId? value) settings text members resolves
    else plain kind id ((name, value) :: settings) text members resolves
  | declared id kind => declared id kind

/-- Sets attributes in order, which the kind must accept. A fault names the tag that the
declaration was written with. -/
def configure (tag source : String) (builder : Builder) :
    List (String × String) → Except Fault Builder
  | [] => .ok builder
  | (name, value) :: rest =>
    if builder.kind.options.contains name then configure tag source (builder.set name value) rest
    else
      .error (.of (.attributeUnsupported name builder.kind.options) source
        (if tag.isEmpty then builder.kind.tag else tag))

/-- Puts matchers into a builder, behind those that are in it. -/
def addMembers (added : List Builder) : Builder → Builder
  | plain kind id settings text members resolves =>
    plain kind id settings text (members ++ added) resolves
  | declared id kind => declared id kind

/-- Sets the text. -/
def setText (text : String) : Builder → Builder
  | plain kind id settings _ members resolves => plain kind id settings text members resolves
  | declared id kind => declared id kind

/-- Lets references be resolved. -/
def allowResolving : Builder → Builder
  | plain kind id settings text members _ => plain kind id settings text members true
  | declared id kind => declared id kind

/-- The value of an attribute, the one that was set last. -/
def setting? (settings : List (String × String)) (name : String) : Option String :=
  settings.lookup name

end Builder

/-! ### Building -/

/-- The identified matchers that have been built, by their identifiers. -/
abbrev Built := List (String × Matcher)

/-- Building something. The matchers that have been built are kept if it fails. -/
abbrev Building := ExceptT Fault (StateM Built)

namespace Builder

/-- A fault of a matcher that is being built. A value that is refused becomes a fault of the
declaration. -/
def located (tag : String) : Fault → Fault
  | .value fault => .of (.value fault) "" tag
  | fault => fault

/-- A matcher of a kind that holds no other, from what was set. -/
def leaf (kind : Kind) (id : Option String) (settings : List (String × String)) (text : String) :
    Except Fault Matcher :=
  match kind with
  | .text =>
    if text.isEmpty then .error (.of .textMissing "" kind.tag) else Matcher.ofText text id
  | .copyright =>
    Matcher.ofNotice ⟨setting? settings "start", setting? settings "end",
      setting? settings "owner"⟩ id
  | .spdx =>
    let name := (setting? settings "name").getD ""
    if isAllBlank name then .error (.of .nameMissing "" kind.tag)
    else Matcher.ofIdentifier name id
  | .plugged plugin =>
    match Installation.make plugin id (setting? settings) text with
    | .ok made => .ok made.matcher
    | .error refusal => .error refusal.fault
  | _ => .error (.crash .kindWithoutBuild)

/-- What a combination of a kind must not lack. -/
def memberFault? (kind : Kind) (count : Nat) : Option Fault :=
  match kind with
  | .all | .any => if count = 0 then some (.of (.membersMissing kind.tag) "" kind.tag) else none
  | .negation => if count ≠ 1 then some (.of (.notOneMember count) "" kind.tag) else none
  | _ => none

/-- The combination of matchers of a kind. -/
def combine (kind : Kind) (id : Option String) (members : List Matcher) : Except Fault Matcher :=
  match kind with
  | .all => Matcher.ofAll members id
  | .any => Matcher.ofAny members id
  | _ => Matcher.ofNegation members id

/-- A result as one of building. -/
def lifted {State : Type} (tag : String) (result : Except Fault Matcher) :
    ExceptT Fault (StateM State) Matcher :=
  match result with
  | .ok matcher => pure matcher
  | .error fault => throw (located tag fault)

/-- A reference to the matcher of an identifier, with a copy of that matcher as it is now. -/
def refer {State : Type} (resolve : String → ExceptT Fault (StateM State) Matcher)
    (id : Option String) (name : String) (resolves : Bool) :
    ExceptT Fault (StateM State) Matcher :=
  if name.isEmpty then throw (.of .referenceMissing "" Kind.reference.tag)
  else if !resolves then throw (.of (.referenceUnresolvable name) "" Kind.reference.tag)
  else do return Matcher.ofReference name (← resolve name) id

section Building

variable {State : Type} (resolve : String → ExceptT Fault (StateM State) Matcher)

mutual

/-- Builds the matcher of a builder. -/
def build : Builder → ExceptT Fault (StateM State) Matcher
  | declared id _ => resolve id
  | plain kind id settings text members resolves =>
    if kind.hasMembers then
      match memberFault? kind members.length with
      | some fault => throw fault
      | none => do lifted kind.tag (combine kind id (← buildEach members))
    else if kind = .reference then
      refer resolve id (trimmed ((setting? settings "refid").getD "")) resolves
    else lifted kind.tag (leaf kind id settings text)

/-- Builds the matchers of several builders in order. -/
def buildEach : List Builder → ExceptT Fault (StateM State) (List Matcher)
  | [] => pure []
  | builder :: rest => do
    let matcher ← build builder
    return matcher :: (← buildEach rest)

end

end Building

end Builder

end LicenseHeaders
