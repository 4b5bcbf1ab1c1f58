import LicenseHeaders.Proofs.Builder.Basic
import LicenseHeaders.Proofs.Effects

/-!
# What a builder must hold

A builder is refused for what is written in it or for what it asks for. `Builder.Holds` says what
must be written in a builder of a built-in kind, whatever stands in it: a text in which there is
something to look for, a notice with valid patterns, the name of a license identifier, members as
many as its kind combines, or the identifier of what it refers to. A leaf is made if it holds this
(`Builder.exists_leaf_iff`), and a builder that is assembled as the built-in kinds provide for is
valid by itself if it holds this and its members are valid (`Builder.valid_plain_iff`).
-/

set_option autoImplicit false
set_option relaxedAutoImplicit false

namespace LicenseHeaders

open Text

/-! ### Leaves -/

/-- Nothing is left of a text once it is trimmed if all of it is blank. -/
theorem Text.trim_eq_nil_iff (text : List Char) : trim text = [] ↔ text.all isBlank = true := by
  rw [trim, trimEnd, trimStart, List.reverse_eq_nil_iff, List.dropWhile_eq_nil_iff,
    List.all_eq_true]
  constructor
  · intro hstart
    rw [← List.dropWhile_eq_nil_iff]
    rcases hdrop : text.dropWhile isBlank with _ | ⟨first, rest⟩
    · rfl
    · have hfirst := List.head?_dropWhile_not isBlank text
      rw [hdrop, List.head?_cons] at hfirst
      have hblank := hstart first (by rw [hdrop]; exact List.mem_reverse.mpr List.mem_cons_self)
      exact absurd hblank (Bool.eq_false_iff.mp hfirst)
  · intro hblank
    rw [List.dropWhile_eq_nil_iff.mpr hblank, List.reverse_nil]
    exact nofun

namespace Matcher

/-- A text can be looked for if it is not empty and, where there is a blank in it, something of it
counts. -/
theorem exists_ofText_iff {text : String} {id : Option String} (htext : text ≠ "") :
    (∃ matcher, Matcher.ofText text id = .ok matcher) ↔
      (text.toList.any isBlank = true → Matcher.prune text.toList ≠ []) := by
  rw [ofText]
  by_cases hblank : text.toList.any isBlank = true
  · rw [if_pos hblank, ofPhrase, Phrase.ofText]
    dsimp only
    by_cases hpruned : prune text.toList = []
    · rw [if_pos (List.isEmpty_iff.mpr hpruned)]
      exact iff_of_false (not_exists_error_eq_ok _) fun h ↦ h hblank hpruned
    · rw [if_neg (mt List.isEmpty_iff.mp hpruned)]
      exact ⟨fun _ _ ↦ hpruned, fun _ ↦ ⟨_, rfl⟩⟩
  · have hempty : ¬text.isEmpty = true := by simpa using htext
    rw [if_neg hblank, ofLiteral, if_neg hempty]
    exact ⟨fun _ h ↦ absurd h hblank, fun _ ↦ ⟨_, rfl⟩⟩

/-- A notice can be looked for if its patterns are valid. -/
theorem exists_ofNotice_iff [CharacterNames] {notice : Matcher.Notice} {id : Option String} :
    (∃ matcher, Matcher.ofNotice notice id = .ok matcher) ↔
      ∀ text ∈ notice.patternTexts,
        ∃ pattern, Regex.Pattern.parse Matcher.Notice.flags text = .ok pattern := by
  have hpatterns : (∃ matcher, Matcher.ofNotice notice id = .ok matcher) ↔
      ∃ patterns, notice.patterns = .ok patterns := by
    rw [ofNotice]
    rcases notice.patterns with fault | patterns
    · exact iff_of_false (not_exists_error_eq_ok fault) (not_exists_error_eq_ok fault)
    · exact iff_of_true ⟨_, rfl⟩ ⟨patterns, rfl⟩
  rw [hpatterns, Notice.patterns, exists_mapM_eq_ok_iff]
  refine forall₂_congr fun text _ ↦ ?_
  rcases Regex.Pattern.parse Matcher.Notice.flags text with fault | pattern
  · exact iff_of_false (not_exists_error_eq_ok _) (by rintro ⟨pattern, ⟨⟩⟩)
  · exact iff_of_true ⟨pattern, rfl⟩ ⟨pattern, rfl⟩

/-- An identifier can be looked for if it is not blank. -/
theorem exists_ofIdentifier {name : String} (id : Option String)
    (hname : isAllBlank name = false) : ∃ matcher, Matcher.ofIdentifier name id = .ok matcher := by
  have htrim : ¬(trim name.toList).isEmpty = true := by
    rw [List.isEmpty_iff, trim_eq_nil_iff, Bool.not_eq_true]
    exact hname
  rw [ofIdentifier, if_neg htrim]
  exact ⟨_, rfl⟩

end Matcher

namespace Builder

/-! ### What is written in a builder -/

/-- What must be written in a builder of a built-in kind with the given attributes, text and
members. -/
def HoldsFor [CharacterNames] (settings : List (String × String)) (text : String) (members : Nat) :
    Kind → Prop
  | .text => text ≠ "" ∧
      (text.toList.any isBlank = true → Matcher.prune text.toList ≠ [])
  | .copyright =>
    ∀ pattern ∈ Matcher.Notice.patternTexts
        ⟨setting? settings "start", setting? settings "end", setting? settings "owner"⟩,
      ∃ parsed, Regex.Pattern.parse Matcher.Notice.flags pattern = .ok parsed
  | .spdx => isAllBlank ((setting? settings "name").getD "") = false
  | .all | .any => members ≠ 0
  | .negation => members = 1
  | .reference => refersTo settings ≠ ""
  | _ => False

/-- What is written in a builder is as its kind asks for. Of what stands for a declaration nothing
is asked. -/
def Holds [CharacterNames] : Builder → Prop
  | declared _ _ => True
  | plain kind _ settings text members _ => HoldsFor settings text members.length kind

/-- A builder is put together as the built-in kinds provide for: only combinations have members, and
references may be resolved. -/
inductive Assembled : Builder → Prop
  | declared (id : String) (kind : Kind) : Assembled (declared id kind)
  | plain {kind : Kind} {id : Option String} {settings : List (String × String)} {text : String}
      {members : List Builder} {resolves : Bool} (hkind : kind ∈ Kind.builtIn)
      (hleaf : kind.hasMembers = false → members = [])
      (hresolves : kind = .reference → resolves = true)
      (hmembers : ∀ member ∈ members, Assembled member) :
      Assembled (plain kind id settings text members resolves)

/-- A leaf is made if what it must hold is there. Assumes: a built-in kind that neither holds
matchers nor refers to one. -/
theorem exists_leaf_iff [Installation] {kind : Kind} {id : Option String}
    {settings : List (String × String)} {text : String} {members : Nat}
    (hkind : kind ∈ Kind.builtIn) (hmembers : kind.hasMembers = false)
    (hreference : kind ≠ .reference) :
    (∃ matcher, leaf kind id settings text = .ok matcher) ↔
      HoldsFor settings text members kind := by
  cases kind with
  | text =>
    rw [leaf, HoldsFor]
    by_cases hempty : text = ""
    · rw [hempty]
      exact iff_of_false (not_exists_error_eq_ok _) fun h ↦ h.1 rfl
    · have hisEmpty : ¬text.isEmpty = true := by simpa using hempty
      rw [if_neg hisEmpty, Matcher.exists_ofText_iff hempty]
      exact ⟨fun h ↦ ⟨hempty, h⟩, fun h ↦ h.2⟩
  | copyright => exact Matcher.exists_ofNotice_iff
  | spdx =>
    rw [leaf, HoldsFor]
    cases hname : isAllBlank ((setting? settings "name").getD "") with
    | true => exact iff_of_false (not_exists_error_eq_ok _) (by simp)
    | false => exact iff_of_true (Matcher.exists_ofIdentifier _ hname) rfl
  | reference => exact absurd rfl hreference
  | all => cases hmembers
  | any => cases hmembers
  | negation => cases hmembers
  | base => exact absurd hkind (by decide)
  | plugged plugin => exact absurd hkind (Kind.plugged_notMem_builtIn plugin)

/-- A leaf of a plugged-in kind is made if the kind makes something of what is written. -/
theorem exists_leaf_plugged_iff [Installation] {plugin : Plugin} {id : Option String}
    {settings : List (String × String)} {text : String} :
    (∃ matcher, leaf (.plugged plugin) id settings text = .ok matcher) ↔
      ∃ made, Installation.make plugin id (setting? settings) text = .ok made := by
  rw [leaf]
  cases Installation.make plugin id (setting? settings) text with
  | ok made => exact iff_of_true ⟨_, rfl⟩ ⟨made, rfl⟩
  | error refusal => exact iff_of_false (not_exists_error_eq_ok _) (not_exists_error_eq_ok _)

/-- A combination lacks nothing if it has the members that its kind combines. -/
theorem memberFault?_eq_none_iff [CharacterNames] {kind : Kind} {settings : List (String × String)}
    {text : String} {members : Nat} (hkind : kind.hasMembers = true) :
    memberFault? kind members = none ↔ HoldsFor settings text members kind := by
  cases kind with
  | all => simp [memberFault?, HoldsFor]
  | any => simp [memberFault?, HoldsFor]
  | negation => simp [memberFault?, HoldsFor]
  | _ => cases hkind

/-- A builder is valid by itself if it holds what it must and its members are valid. Assumes: a
built-in kind, members only where the kind combines them, and references that may be resolved. -/
theorem valid_plain_iff [Installation] {kind : Kind} {id : Option String}
    {settings : List (String × String)} {text : String} {members : List Builder} {resolves : Bool}
    (hkind : kind ∈ Kind.builtIn) (hleaf : kind.hasMembers = false → members = [])
    (hresolves : kind = .reference → resolves = true) :
    (plain kind id settings text members resolves).Valid ↔
      HoldsFor settings text members.length kind ∧ ∀ member ∈ members, member.Valid := by
  by_cases hmembers : kind.hasMembers = true
  · rw [← memberFault?_eq_none_iff hmembers]
    constructor
    · intro hvalid
      cases hvalid with
      | leaf hleaf => exact absurd hmembers (Bool.eq_false_iff.mp hleaf)
      | combination _ hcount hvalid => exact ⟨hcount, hvalid⟩
      | reference => cases hmembers
    · rintro ⟨hcount, hvalid⟩
      exact .combination hmembers hcount hvalid
  have hnone : kind.hasMembers = false := Bool.eq_false_iff.mpr hmembers
  obtain rfl := hleaf hnone
  by_cases hreference : kind = .reference
  · subst hreference
    obtain rfl := hresolves rfl
    constructor
    · intro hvalid
      cases hvalid with
      | leaf _ hreference => exact absurd rfl hreference
      | combination hmembers => cases hmembers
      | reference hname => exact ⟨hname, List.forall_mem_nil _⟩
    · rintro ⟨hname, _⟩
      exact .reference hname
  · rw [← exists_leaf_iff hkind hnone hreference]
    constructor
    · intro hvalid
      cases hvalid with
      | leaf _ _ hmade => exact ⟨⟨_, hmade⟩, List.forall_mem_nil _⟩
      | combination hmembers => rw [hnone] at hmembers; cases hmembers
      | reference => exact absurd rfl hreference
    · rintro ⟨⟨matcher, hmade⟩, _⟩
      exact .leaf hnone hreference hmade

end Builder

end LicenseHeaders
