import LicenseHeaders.Proofs.Document.WellFormed

/-!
# Declarations that agree

Two declarations agree (`Node.Agrees`) if they say the same: the same tag, the same text, the same
values under every name of an attribute, the same document, and in them declarations that agree one
by one. The order in which attributes of different names are written makes no difference. Agreeing
is an equivalence, and everything that is read off a declaration is the same for two that agree.
-/

set_option autoImplicit false
set_option relaxedAutoImplicit false

namespace LicenseHeaders

open Text

/-! ### Values of attributes -/

/-- The values that are written under a name, in order. -/
def valuesOf (attributes : List (String × String)) (name : String) : List String :=
  (attributes.filter (·.1 == name)).map (·.2)

section Values

variable {attributes reordered : List (String × String)}

/-- Without two values under one name, the order of attributes does not matter. -/
theorem valuesOf_eq_of_perm (hnodup : (attributes.map (·.1)).Nodup)
    (hperm : attributes.Perm reordered) (name : String) :
    valuesOf reordered name = valuesOf attributes name := by
  have hdistinct (entries : List (String × String)) (hentries : (entries.map (·.1)).Nodup) :
      (entries.filter (·.1 == name)).Pairwise fun first second ↦ first.1 ≠ second.1 :=
    (List.pairwise_map.mp hentries).filter _
  have hname (entries : List (String × String)) (entry : String × String)
      (hentry : entry ∈ entries.filter (·.1 == name)) : entry.1 = name :=
    eq_of_beq (List.mem_filter.mp hentry).2
  have hsame : attributes.filter (·.1 == name) = reordered.filter (·.1 == name) := by
    refine (hperm.filter _).eq_of_pairwise (fun first second hfirst hsecond hne _ ↦ ?_)
      (hdistinct attributes hnodup) (hdistinct reordered ((hperm.map _).nodup_iff.mp hnodup))
    exact absurd ((hname _ _ hfirst).trans (hname _ _ hsecond).symm) hne
  rw [valuesOf, valuesOf, hsame]

theorem lookup_eq_head?_valuesOf (attributes : List (String × String)) (name : String) :
    attributes.lookup name = (valuesOf attributes name).head? := by
  rw [valuesOf]
  induction attributes with
  | nil => rfl
  | cons entry rest ih =>
    rw [List.lookup_cons, List.filter_cons, Bool.beq_comm]
    cases entry.1 == name with
    | true => rfl
    | false => exact ih

theorem mem_map_fst_iff_valuesOf {name : String} :
    name ∈ attributes.map (·.1) ↔ valuesOf attributes name ≠ [] := by
  rw [← exists_lookup_iff, lookup_eq_head?_valuesOf, Ne, ← List.head?_eq_none_iff,
    Option.eq_none_iff_forall_ne_some, not_forall_not]

end Values

namespace Node

/-- Two declarations agree. -/
inductive Agrees : Node → Node → Prop
  | intro {first second : Node} (htag : second.tag = first.tag)
      (hvalues : ∀ name, valuesOf second.attributes name = valuesOf first.attributes name)
      (htext : second.text = first.text) (hsource : second.source = first.source)
      (hchildren : List.Forall₂ Agrees first.children second.children) : Agrees first second

section Agrees

variable {first second common : Node}

theorem agrees_refl (node : Node) : node.Agrees node := by
  induction node using induction_children with
  | step node ih => exact .intro rfl (fun _ ↦ rfl) rfl rfl (List.forall₂_same.mpr ih)

/-- Declarations that agree with the same one agree with each other. -/
theorem Agrees.of_common (hfirst : common.Agrees first) (hsecond : common.Agrees second) :
    first.Agrees second := by
  induction common using induction_children generalizing first second with
  | step common ih =>
    obtain ⟨htag, hvalues, htext, hsource, hchildren⟩ := hfirst
    obtain ⟨htag', hvalues', htext', hsource', hchildren'⟩ := hsecond
    refine .intro (htag'.trans htag.symm) (fun name ↦ (hvalues' name).trans (hvalues name).symm)
      (htext'.trans htext.symm) (hsource'.trans hsource.symm) ?_
    exact forall₂_of_common (fun child hchild _ _ ↦ ih child hchild) hchildren hchildren'

theorem Agrees.symm (hagrees : first.Agrees second) : second.Agrees first :=
  hagrees.of_common (agrees_refl first)

theorem Agrees.tag (hagrees : first.Agrees second) : second.tag = first.tag := by
  cases hagrees
  assumption

theorem Agrees.text (hagrees : first.Agrees second) : second.text = first.text := by
  cases hagrees
  assumption

theorem Agrees.children (hagrees : first.Agrees second) :
    List.Forall₂ Agrees first.children second.children := by
  cases hagrees
  assumption

/-- The first value of an attribute is the same. -/
theorem Agrees.get? (hagrees : first.Agrees second) (name : String) :
    second.get? name = first.get? name := by
  obtain ⟨_, hvalues, _, _, _⟩ := hagrees
  rw [get?_eq_lookup, get?_eq_lookup, lookup_eq_head?_valuesOf, lookup_eq_head?_valuesOf, hvalues]

/-- The last value of an attribute is the same. -/
theorem Agrees.last? (hagrees : first.Agrees second) (name : String) :
    second.last? name = first.last? name := by
  obtain ⟨_, hvalues, _, _, _⟩ := hagrees
  have hreverse (node : Node) :
      node.last? name = (valuesOf node.attributes name).getLast? := by
    rw [Node.last?, lookup_eq_head?_valuesOf, valuesOf, List.filter_reverse, List.map_reverse,
      List.head?_reverse]
    rfl
  rw [hreverse, hreverse, hvalues]

theorem Agrees.mem_names_iff (hagrees : first.Agrees second) {name : String} :
    name ∈ second.names ↔ name ∈ first.names := by
  obtain ⟨_, hvalues, _, _, _⟩ := hagrees
  rw [names, names, mem_map_fst_iff_valuesOf, mem_map_fst_iff_valuesOf, hvalues]

/-- The same attributes are supported. -/
theorem Agrees.options_iff (hagrees : first.Agrees second) {supported : List String} :
    (∀ name ∈ second.names, name ∈ supported) ↔ ∀ name ∈ first.names, name ∈ supported :=
  forall_congr' fun _ ↦ imp_congr_left hagrees.mem_names_iff

theorem Agrees.declaredId? (hagrees : first.Agrees second) :
    second.declaredId? = first.declaredId? := by
  rw [Node.declaredId?, Node.declaredId?, hagrees.last?]

theorem Agrees.children_eq_nil_iff (hagrees : first.Agrees second) :
    second.children = [] ↔ first.children = [] := by
  rw [← List.length_eq_zero_iff, ← List.length_eq_zero_iff, hagrees.children.length_eq]

/-- What is chosen of two declarations by its tags agrees. -/
theorem Agrees.filter_children (hagrees : first.Agrees second) (chosen : String → Bool) :
    List.Forall₂ Agrees (first.children.filter fun child ↦ chosen child.tag)
      (second.children.filter fun child ↦ chosen child.tag) := by
  refine List.rel_filter (fun child other hchild ↦ ?_) hagrees.children
  show chosen child.tag = true ↔ chosen other.tag = true
  rw [hchild.tag]

/-- What is no note in two licenses agrees. -/
theorem Agrees.roots (hagrees : first.Agrees second) :
    List.Forall₂ Agrees first.roots second.roots :=
  hagrees.filter_children (· != noteTag)

/-- The declarations in two that agree, agree at every depth. -/
theorem Agrees.elements (hagrees : first.Agrees second) :
    List.Forall₂ Agrees first.elements second.elements := by
  induction first using induction_children generalizing second with
  | step first ih =>
    have hchildren := forall₂_imp_of_mem (fun child hchild _ ↦ ih child hchild) hagrees.children
    rw [elements_eq, elements_eq]
    exact List.rel_append (List.rel_flatMap hchildren fun _ _ ↦ id) (.cons hagrees .nil)

theorem map_text_eq_of_agrees {nodes others : List Node}
    (hagrees : List.Forall₂ Agrees nodes others) : others.map Node.text = nodes.map Node.text := by
  induction hagrees with
  | nil => rfl
  | cons hnode _ ih => rw [List.map_cons, List.map_cons, hnode.text, ih]

end Agrees

end Node

/-! ### Documents that agree -/

/-- Two documents agree: they declare the same, in the same order. -/
structure Document.Agrees (first second : Document) : Prop where
  licenses : List.Forall₂ Node.Agrees first.licenses second.licenses
  families : List.Forall₂ Node.Agrees first.families second.families
  matchers : List.Forall₂ Node.Agrees first.matchers second.matchers
  sources : second.sources = first.sources

namespace Document

section Agrees

variable {first second common : Document}

theorem agrees_refl (document : Document) : document.Agrees document :=
  ⟨List.forall₂_same.mpr fun node _ ↦ node.agrees_refl,
    List.forall₂_same.mpr fun node _ ↦ node.agrees_refl,
    List.forall₂_same.mpr fun node _ ↦ node.agrees_refl, rfl⟩

/-- Documents that agree with the same one agree with each other. -/
theorem Agrees.of_common (hfirst : common.Agrees first) (hsecond : common.Agrees second) :
    first.Agrees second := by
  have heach (commons : List Node) : ∀ node ∈ commons, ∀ one other, node.Agrees one →
      node.Agrees other → one.Agrees other :=
    fun _ _ _ _ ↦ Node.Agrees.of_common
  exact ⟨forall₂_of_common (heach _) hfirst.licenses hsecond.licenses,
    forall₂_of_common (heach _) hfirst.families hsecond.families,
    forall₂_of_common (heach _) hfirst.matchers hsecond.matchers,
    hsecond.sources.trans hfirst.sources.symm⟩

theorem Agrees.symm (hagrees : first.Agrees second) : second.Agrees first :=
  hagrees.of_common (agrees_refl first)

end Agrees

end Document

end LicenseHeaders
