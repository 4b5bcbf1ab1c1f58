import LicenseHeaders.Proofs.Document.Meaning
import LicenseHeaders.Proofs.Matcher.ShortCircuit
import LicenseHeaders.Proofs.Reader.Acceptance
import LicenseHeaders.Sample

/-!
# Loading preserves meaning

What is loaded of a document finds in the lines of a header what the document says
(`Reader.load?_preserves_meaning`).

`Matcher.truth` is the value of the formula that a matcher stands for, its leaves being hit or not
once they have been read every line. By the results on short circuits it is what the matcher decides
at the end, whatever lines its leaves have missed. A reference has its own copy of a matcher, which
stands for the same formula (`Matcher.truth_ofReference`). So the connectives and the references of
matchers are those of `Document.Means`, and `Document.means_of_builds` follows by induction over
what builds a matcher: a reference leads to a construction that is part of its own, wherever the
element that it refers to stands.
-/

set_option autoImplicit false
set_option relaxedAutoImplicit false

namespace LicenseHeaders

open Text

/-! ### The truth value of a matcher -/

namespace Matcher

/-- Whether a matcher that is reset and read lines holds at the end. -/
def truth (lines : List (List Char)) (matcher : Matcher) : Bool :=
  matcher.reset.formula.eval (hit lines)

section Truth

variable (lines : List (List Char))

theorem finish_feedLines_reset (matcher : Matcher) :
    (matcher.reset.feedLines lines).finish.1 = .ofBool (matcher.truth lines) :=
  finish_feedLines matcher.reset lines

theorem truth_all (own : Option String) (members : List Matcher) :
    (all own members).truth lines = (members.map (truth lines)).all id := by
  simp only [truth, reset, resetEach_eq_map, formula, formulas_eq_map, Formula.eval,
    Formula.evalAll_eq, List.map_map]
  rfl

theorem truth_any (own : Option String) (members : List Matcher) :
    (any own members).truth lines = (members.map (truth lines)).any id := by
  simp only [truth, reset, resetEach_eq_map, formula, formulas_eq_map, Formula.eval,
    Formula.evalAny_eq, List.map_map]
  rfl

theorem truth_negation (id : Option String) (member : Matcher) :
    (negation id member).truth lines = !member.truth lines :=
  rfl

theorem truth_registered (name : String) (matcher : Matcher) :
    (registered name matcher).truth lines = matcher.truth lines :=
  rfl

/-- A fresh copy of a tree stands for the formula of the tree. -/
theorem formula_fresh (matcher : Matcher) : matcher.fresh.formula = matcher.reset.formula := by
  induction matcher using induction with
  | leaf id criterion verdict => rfl
  | probe id verdict fed resets => rfl
  | all id members ih =>
    simp only [fresh, copied, copiedEach_eq_map, reset, resetEach_eq_map, formula,
      formulas_eq_map, List.map_map]
    exact congrArg Formula.all (List.map_congr_left ih)
  | any id members ih =>
    simp only [fresh, copied, copiedEach_eq_map, reset, resetEach_eq_map, formula,
      formulas_eq_map, List.map_map]
    exact congrArg Formula.any (List.map_congr_left ih)
  | negation id member ih => exact congrArg Formula.negation ih
  | reference id name copy ih => exact ih
  | registered name matcher ih => exact ih

/-- A reference holds if what it was made from does. Assumes: a tree of the built-in kinds. -/
theorem truth_ofReference (name : String) {target : Matcher} (id : Option String)
    (hbuiltIn : target.isBuiltIn = true) :
    (ofReference name target id).truth lines = target.truth lines := by
  have hcopy : (ofReference name target id).truth lines = target.fresh.truth lines := rfl
  rw [hcopy, truth, truth, reset_fresh hbuiltIn, formula_fresh]

/-- The identifier of a leaf does not matter to what it finds. -/
theorem hit_leaf (criterion : Criterion) (verdict : Verdict) (first second : Option String) :
    hit lines (leaf first criterion verdict) = hit lines (leaf second criterion verdict) := by
  induction lines generalizing criterion verdict with
  | nil => rfl
  | cons line rest ih => cases verdict <;> exact ih _ _

end Truth

end Matcher

/-! ### Leaves -/

namespace Node

/-- What a leaf looks for does not depend on its identifier, and it has read nothing. -/
theorem exists_criterion_of_leaf? [CharacterNames] {node : Node} {id : Option String} {kind : Kind}
    {matcher : Matcher} (hleaf : node.leaf? id kind = some matcher) :
    ∃ criterion : Criterion, criterion.forget = criterion ∧ ∀ other, node.leaf? other kind =
      some (.leaf (Matcher.identifier? other) criterion .unknown) := by
  have hfrom {make : Option String → Except Fault Matcher} (hmakes : Matcher.MakesLeaf make)
      (hmade : (make id).toOption = some matcher) :
      ∃ criterion : Criterion, criterion.forget = criterion ∧ ∀ other,
        (make other).toOption = some (.leaf (Matcher.identifier? other) criterion .unknown) := by
    cases hresult : make id with
    | error fault =>
      rw [hresult] at hmade
      cases hmade
    | ok own =>
      obtain ⟨criterion, hforget, hother⟩ := hmakes id own hresult
      exact ⟨criterion, hforget, fun other ↦ congrArg Except.toOption (hother other)⟩
  cases kind with
  | text => exact hfrom (Matcher.makesLeaf_ofText _) hleaf
  | copyright => exact hfrom (Matcher.makesLeaf_ofNotice _) hleaf
  | spdx => exact hfrom (Matcher.makesLeaf_ofIdentifier _) hleaf
  | _ => cases hleaf

/-- What is built for a leaf is what is made of what is written in it. -/
theorem leaf?_of_leaf [Installation] {node : Node} {kind : Kind} (hkind : node.kind? = some kind)
    {matcher : Matcher}
    (hleaf : Builder.leaf kind node.declaredId? node.settings
      (if kind.hasText then trimmed node.text else "") = .ok matcher) :
    node.leaf? node.declaredId? kind = some matcher := by
  have hbuiltIn := mem_builtIn_of_kind? hkind
  cases kind with
  | text =>
    have htext : (if (trimmed node.text).isEmpty then .error (.of .textMissing "" Kind.text.tag)
        else Matcher.ofText (trimmed node.text) node.declaredId?) = .ok matcher :=
      hleaf
    by_cases hempty : (trimmed node.text).isEmpty = true
    · rw [if_pos hempty] at htext
      cases htext
    · rw [if_neg hempty] at htext
      rw [leaf?, htext, Except.toOption]
  | copyright =>
    rw [leaf_copyright_settings] at hleaf
    rw [leaf?, hleaf, Except.toOption]
  | spdx =>
    rw [leaf_spdx_settings] at hleaf
    by_cases hblank : isAllBlank ((node.last? "name").getD "") = true
    · rw [if_pos hblank] at hleaf
      cases hleaf
    · rw [if_neg hblank] at hleaf
      rw [leaf?, hleaf, Except.toOption]
  | all => cases hleaf
  | any => cases hleaf
  | negation => cases hleaf
  | reference => cases hleaf
  | base => cases hleaf
  | plugged plugin => exact absurd hbuiltIn (Kind.plugged_notMem_builtIn plugin)

end Node

namespace Document

section Meaning

variable {document : Document} {lines : List (List Char)} {node : Node}

/-- A leaf means what the matcher that was made of it finds. -/
theorem means_leaf [CharacterNames] {kind : Kind} (hkind : node.kind? = some kind)
    {id : Option String} {matcher : Matcher} (hleaf : node.leaf? id kind = some matcher) :
    matcher.isBuiltIn = true ∧
      ∀ truth, document.Means lines node truth ↔ truth = matcher.truth lines := by
  obtain ⟨criterion, hforget, hmade⟩ := Node.exists_criterion_of_leaf? hleaf
  cases hleaf.symm.trans (hmade id)
  refine ⟨rfl, fun truth ↦ ?_⟩
  have htruth : (Matcher.leaf (Matcher.identifier? id) criterion .unknown).truth lines =
      Matcher.hit lines (.leaf (Matcher.identifier? none) criterion .unknown) := by
    rw [Matcher.truth, Matcher.reset, hforget, Matcher.formula, Formula.eval, Matcher.hit_leaf]
  have hverdict : ((Matcher.leaf (Matcher.identifier? none) criterion .unknown).feedLines
      lines).finish.1 = .ofBool
        (Matcher.hit lines (.leaf (Matcher.identifier? none) criterion .unknown)) :=
    Matcher.finish_feedLines _ lines
  rw [means_leaf_iff hkind (Option.isSome_of_eq_some hleaf), htruth]
  constructor
  · rintro ⟨alone, halone, hfinish⟩
    cases halone.symm.trans (hmade none)
    exact (Verdict.ofBool_inj.mp (hverdict.symm.trans hfinish)).symm
  · rintro rfl
    exact ⟨_, hmade none, hverdict⟩

/-- The elements in an element mean what the matchers in its matcher find. -/
theorem forall₂_means_iff [CharacterNames] {children : List Node} {matchers : List Matcher}
    (hmembers : List.Forall₂ (fun child (matcher : Matcher) ↦ matcher.isBuiltIn = true ∧
      ∀ truth, document.Means lines child truth ↔ truth = matcher.truth lines) children matchers)
    {truths : List Bool} :
    List.Forall₂ (document.Means lines) children truths ↔
      truths = matchers.map (Matcher.truth lines) := by
  induction hmembers generalizing truths with
  | nil => rw [List.forall₂_nil_left_iff, List.map_nil]
  | cons hmember _ ih =>
    rw [List.forall₂_cons_left_iff, List.map_cons]
    constructor
    · rintro ⟨truth, rest, hmeans, hrest, rfl⟩
      rw [(hmember.2 truth).mp hmeans, ih.mp hrest]
    · rintro rfl
      exact ⟨_, _, (hmember.2 _).mpr rfl, ih.mpr rfl, rfl⟩

/-- A combination means what the matcher that combines those of its members finds. -/
theorem means_combination [CharacterNames] {kind : Kind} (hkind : node.kind? = some kind)
    (hmembers : kind.hasMembers = true) {matchers : List Matcher}
    (hchildren : List.Forall₂ (fun child (matcher : Matcher) ↦ matcher.isBuiltIn = true ∧
      ∀ truth, document.Means lines child truth ↔ truth = matcher.truth lines)
        node.children matchers)
    {id : Option String} {matcher : Matcher}
    (hcombine : Builder.combine kind id matchers = .ok matcher) :
    matcher.isBuiltIn = true ∧
      ∀ truth, document.Means lines node truth ↔ truth = matcher.truth lines := by
  have hbuiltIn : Matcher.areBuiltIn matchers = true := by
    refine (Matcher.areBuiltIn_iff matchers).mpr fun member hmember ↦ ?_
    obtain ⟨_, _, hbuiltIn, _⟩ := exists_of_mem_of_forall₂ hchildren.flip hmember
    exact hbuiltIn
  cases kind with
  | all =>
    obtain ⟨-, rfl⟩ := Matcher.ofAll_eq_ok_iff.mp hcombine
    refine ⟨hbuiltIn, fun truth ↦ ?_⟩
    rw [means_all_iff hkind, Matcher.truth_all]
    simp only [forall₂_means_iff hchildren, exists_eq_left]
  | any =>
    obtain ⟨-, rfl⟩ := Matcher.ofAny_eq_ok_iff.mp hcombine
    refine ⟨hbuiltIn, fun truth ↦ ?_⟩
    rw [means_any_iff hkind, Matcher.truth_any]
    simp only [forall₂_means_iff hchildren, exists_eq_left]
  | negation =>
    obtain ⟨member, rfl, rfl⟩ := Matcher.ofNegation_eq_ok_iff.mp hcombine
    rcases hnode : node.children with _ | ⟨child, rest⟩
    · rw [hnode] at hchildren
      cases hchildren
    · rw [hnode] at hchildren
      cases hchildren with
      | cons hchild hrest =>
        cases hrest
        refine ⟨hchild.1, fun truth ↦ ?_⟩
        rw [means_negation_iff hkind hnode, hchild.2, Matcher.truth_negation, Bool.not_eq_eq_eq_not]
  | _ => cases hmembers

/-- A builder that stands for an element without pointing at a declaration has the kind of the
element and all that is written in it. -/
theorem plain_of_stands {kind : Kind} {id : Option String} {settings : List (String × String)}
    {text : String} {members : List Builder} {resolves : Bool}
    (hreadable : node.kind?.isSome = true)
    (hstands : Builder.plain kind id settings text members resolves = node.plain ∨
      Builder.plain kind id settings text members resolves = node.builder) :
    node.kind? = some kind ∧ id = node.declaredId? ∧ settings = node.settings ∧
      text = (if kind.hasText then trimmed node.text else "") ∧
      members = node.children.map Node.builder := by
  have hplain : Builder.plain kind id settings text members resolves = node.plain := by
    rcases hstands with hplain | hbuilder
    · exact hplain
    rcases hid : node.declaredId? with _ | own
    · rw [Node.builder_of_not_declared hid] at hbuilder
      exact hbuilder
    · rw [Node.builder_of_declared hid] at hbuilder
      cases hbuilder
  obtain ⟨own, hkind⟩ := Option.isSome_iff_exists.mp hreadable
  rw [Node.plain, Node.withMembers, Node.kind_eq hkind, Builder.plain.injEq] at hplain
  obtain ⟨rfl, rfl, rfl, rfl, rfl, _⟩ := hplain
  exact ⟨hkind, rfl, rfl, rfl, rfl⟩

theorem declaredId?_of_stands {id : String} {kind : Kind}
    (hstands : Builder.declared id kind = node.plain ∨ Builder.declared id kind = node.builder) :
    node.declaredId? = some id := by
  rcases hstands with hplain | hbuilder
  · cases hplain
  rcases hid : node.declaredId? with _ | own
  · rw [Node.builder_of_not_declared hid] at hbuilder
    cases hbuilder
  · rw [Node.builder_of_declared hid] at hbuilder
    cases hbuilder
    rfl

/-- An element means what the matcher that is built for it finds, with and without its
identifier. -/
theorem means_of_builds [Installation] (hids : document.ids.Nodup)
    (hreadable : ∀ element ∈ document.elements, element.Readable) {builder : Builder}
    {matcher : Matcher} (hbuilds : Builder.Builds document.declarations builder matcher) :
    ∀ node ∈ document.elements, builder = node.plain ∨ builder = node.builder →
      matcher.isBuiltIn = true ∧
        ∀ truth, document.Means lines node truth ↔ truth = matcher.truth lines := by
  induction hbuilds using Builder.Builds.induction with
  | declared hlookup _ ih =>
    intro node hnode hstands
    have hown := (lookup_declarations_iff hids).mpr
      ⟨node, hnode, declaredId?_of_stands hstands, rfl⟩
    exact ih node hnode (.inl (Option.some.inj (hlookup.symm.trans hown)))
  | leaf hmembers hreference hleaf =>
    intro node hnode hstands
    obtain ⟨hkind, rfl, rfl, rfl, _⟩ := plain_of_stands (hreadable node hnode).kind hstands
    exact means_leaf hkind (Node.leaf?_of_leaf hkind hleaf)
  | combination hmembers _ _ hcombine ih =>
    intro node hnode hstands
    obtain ⟨hkind, rfl, rfl, rfl, rfl⟩ := plain_of_stands (hreadable node hnode).kind hstands
    rw [List.forall₂_map_left_iff] at ih
    have hinside (child : Node) (hchild : child ∈ node.children) : child ∈ document.elements :=
      child_mem_elements hnode hchild
    refine means_combination hkind hmembers ?_ hcombine
    refine ((List.forall₂_and_left _ _).mpr ⟨hinside, ih⟩).imp fun child member hchild ↦ ?_
    exact hchild.2.2 child hchild.1 (.inr rfl)
  | reference _ hlookup _ ih =>
    intro node hnode hstands
    obtain ⟨hkind, rfl, rfl, _⟩ := plain_of_stands (hreadable node hnode).kind hstands
    rw [Node.refersTo_settings] at hlookup
    -- No two elements are declared under one identifier, so the construction at hand is that of
    -- every element that the reference can lead to.
    have htarget (element : Node) (helement : element ∈ document.elements)
        (hid : element.declaredId? = some node.refid) := by
      have hown := (lookup_declarations_iff hids).mpr ⟨element, helement, hid, rfl⟩
      exact ih element helement (.inl (Option.some.inj (hlookup.symm.trans hown)))
    obtain ⟨element, helement, hid, _⟩ := (lookup_declarations_iff hids).mp hlookup
    have hbuiltIn : (Matcher.registered (Builder.refersTo node.settings) _).isBuiltIn = true :=
      (htarget element helement hid).1
    refine ⟨(Matcher.isBuiltIn_fresh _).trans hbuiltIn, fun truth ↦ ?_⟩
    rw [means_reference_iff hkind, Matcher.truth_ofReference lines _ _ hbuiltIn,
      Matcher.truth_registered]
    constructor
    · rintro ⟨other, hother, hid, hmeans⟩
      exact ((htarget other hother hid).2 truth).mp hmeans
    · intro htruth
      exact ⟨element, helement, hid, ((htarget element helement hid).2 truth).mpr htruth⟩

end Meaning

end Document

/-! ### Loaded licenses -/

namespace License

/-- The verdict of a license that is reset, read lines and told that no line follows. -/
def verdictOn (license : License) (lines : List (List Char)) : Verdict :=
  (lines.foldl (fun current line ↦ (current.feed line).2) license.reset).finish.1

theorem verdictOn_eq (license : License) (lines : List (List Char)) :
    license.verdictOn lines = .ofBool (license.matcher.truth lines) := by
  have hfeed (license : License) :
      (lines.foldl (fun current line ↦ (current.feed line).2) license).matcher =
        license.matcher.feedLines lines := by
    induction lines generalizing license with
    | nil => rfl
    | cons line rest ih => exact ih (license.feed line).2
  have hfinish (license : License) : license.finish.1 = license.matcher.finish.1 := rfl
  rw [verdictOn, hfinish, hfeed, ← Matcher.finish_feedLines_reset]
  rfl

end License

namespace Reader

/-- Loading preserves meaning. For every license that is declared in a document that is loaded there
is one loaded license of its category, and on the lines of any header that license holds exactly if
the element in the declaration is true, which has one truth value there. Assumes: a document without
declarations of kinds that is loaded, and the declaration of a license in it. -/
theorem load?_preserves_meaning [Installation] {catalogue : Catalogue} {document : Document}
    (hmatchers : document.matchers = []) {licenses : List License}
    (hload : load? catalogue document = .ok licenses) {node : Node}
    (hnode : node ∈ document.licenses) :
    ∃ root license, node.roots = [root] ∧ license ∈ licenses ∧
      node.category? = some license.id ∧
      (∀ other ∈ licenses, other.id = license.id → other = license) ∧
      ∀ lines, (license.verdictOn lines = .holds ↔ document.Means lines root true) ∧
        ∃! truth, document.Means lines root truth := by
  obtain ⟨_, hreadable, hids, made, hmade, hcategories, _, rfl⟩ :=
    (load?_eq_ok_iff hmatchers).mp hload
  rw [Document.declarations_map_fst] at hids
  obtain ⟨license, hlicense, hmakes⟩ := exists_of_mem_of_forall₂ hmade hnode
  obtain ⟨root, hroots, hbuilds⟩ := hmakes.matcher
  have hsorted (other : License) : other ∈ License.sort made ↔ other ∈ made :=
    (List.mergeSort_perm made _).mem_iff
  refine ⟨root, license, hroots, (hsorted license).mpr hlicense, hmakes.category, ?_,
    fun lines ↦ ?_⟩
  · intro other hother hid
    exact List.inj_on_of_nodup_map hcategories ((hsorted other).mp hother) hlicense hid
  have hroot : root ∈ document.elements :=
    Document.root_mem_elements hnode (hroots ▸ List.mem_singleton_self root)
  obtain ⟨_, hmeans⟩ :=
    Document.means_of_builds hids hreadable hbuilds root hroot (.inr rfl)
  constructor
  · have hholds : Verdict.holds = .ofBool true := rfl
    rw [License.verdictOn_eq, hmeans, hholds, Verdict.ofBool_inj, eq_comm]
  · exact ⟨license.matcher.truth lines, (hmeans _).mpr rfl, fun truth ↦ (hmeans truth).mp⟩

section Sample

open Sample

/-- The first license refers to a text of the second one, which comes later. -/
theorem load?_preserves_meaning_forward :
    let node : Node :=
      ⟨"license", [("id", " A"), ("name", "Alpha")], "",
        [⟨"not", [], "", [⟨"matcher_ref", [("refid", " t ")], "", [], ""⟩], ""⟩], ""⟩
    let document : Document :=
      { licenses :=
          [node, ⟨"license", [("id", "B"), ("name", "Beta")], "",
              [⟨"text", [("id", "t")], "Foo", [], ""⟩], ""⟩] }
    let licenses : List License :=
      [⟨⟨"A", "Alpha"⟩, .negation none
          (.reference none "t" (.leaf (some "t") (.literal "Foo") .unknown)), none, none⟩,
        ⟨⟨"B", "Beta"⟩, .registered "t" (.leaf (some "t") (.literal "Foo") .unknown), none, none⟩]
    document.matchers = [] ∧ load? {} document = .ok licenses ∧ node ∈ document.licenses ∧
      ∃ root license, node.roots = [root] ∧ license ∈ licenses ∧
        node.category? = some license.id ∧
        (∀ other ∈ licenses, other.id = license.id → other = license) ∧
        ∀ lines, (license.verdictOn lines = .holds ↔ document.Means lines root true) ∧
          ∃! truth, document.Means lines root truth := by
  intro node document licenses
  have hload : load? {} document = .ok licenses := by cbv
  exact ⟨rfl, hload, List.mem_cons_self, load?_preserves_meaning rfl hload List.mem_cons_self⟩

end Sample

end Reader

end LicenseHeaders
