import LicenseHeaders.Proofs.Document.WellFormed
import LicenseHeaders.Proofs.Effects
import LicenseHeaders.Reader

/-!
# Reading matchers

A reader turns the elements of a document into builders and puts those with an identifier into its
table of declarations. Both can be said without the reader. `Node.builder` is the builder of an
element where it stands, which for an identified element only stands for the declaration;
`Node.plain` is the builder that is declared. `Reader.Declares` says that the elements are readable,
that no identifier is declared twice, and that the reader goes on with their declarations added.

`Reader.returns_readMatcher_iff` is the main result: reading an element returns its builder, and it
does so if the reader can take up the declarations in the element. It is an induction over the
element, in which `Reader.declares_append_iff` and `Reader.declares_singleton_iff` take a reader
past one element after the other. Only kinds that are built in are read here, so nothing depends on
what else a reader may import.
-/

set_option autoImplicit false
set_option relaxedAutoImplicit false

namespace LicenseHeaders

open Text

/-! ### The builders of elements -/

/-- What a builder is replaced with where it stands: the one that stands for its declaration, if it
has an identifier. -/
def Builder.standIn (builder : Builder) : Builder :=
  match builder.id? with
  | some id => .declared id builder.kind
  | none => builder

namespace Node

/-- The attributes of an element other than its identifier, the last one first. -/
def settings (node : Node) : List (String × String) :=
  (node.attributes.filter (·.1 != "id")).reverse

/-- The builder of an element over the builders in it. -/
def withMembers (node : Node) (members : List Builder) : Builder :=
  .plain node.kind node.declaredId? node.settings
    (if node.kind.hasText then trimmed node.text else "") members (node.kind = .reference)

mutual

/-- The builder of an element where it stands. -/
def builder : Node → Builder
  | ⟨tag, attributes, text, children, source⟩ =>
    (withMembers ⟨tag, attributes, text, children, source⟩ (builderOfEach children)).standIn

/-- The builders of several elements where they stand. -/
def builderOfEach : List Node → List Builder
  | [] => []
  | node :: rest => node.builder :: builderOfEach rest

end

/-- The builder of an element. -/
def plain (node : Node) : Builder :=
  node.withMembers (node.children.map builder)

/-- The declaration of an element, if it has an identifier. -/
def declaration? (node : Node) : Option (String × Builder) :=
  node.declaredId?.map fun id ↦ (id, node.plain)

/-- The declarations of the elements of a declaration. -/
def declarations (node : Node) : List (String × Builder) :=
  node.elements.filterMap declaration?

theorem builderOfEach_eq_map (nodes : List Node) : builderOfEach nodes = nodes.map builder := by
  induction nodes with
  | nil => rfl
  | cons node rest ih => rw [builderOfEach, ih, List.map_cons]

theorem builder_eq (node : Node) : node.builder = node.plain.standIn := by
  obtain ⟨tag, attributes, text, children, source⟩ := node
  rw [builder, builderOfEach_eq_map]
  rfl

theorem declarations_eq (node : Node) :
    node.declarations = node.children.flatMap declarations ++ node.declaration?.toList := by
  have hself : [node].filterMap declaration? = node.declaration?.toList := by
    rw [List.filterMap_cons, List.filterMap_nil]
    cases node.declaration? <;> rfl
  rw [declarations, elements_eq, List.filterMap_append, List.filterMap_flatMap, hself]
  rfl

/-- What was set for an attribute other than the identifier is its last value. -/
theorem setting?_settings (node : Node) {name : String} (hname : name ≠ "id") :
    Builder.setting? node.settings name = node.last? name := by
  rw [Builder.setting?, settings, last?, ← List.filter_reverse]
  induction node.attributes.reverse with
  | nil => rfl
  | cons entry rest ih =>
    by_cases hid : entry.1 = "id"
    · have hlookup : (name == entry.1) = false := beq_false_of_ne (hid ▸ hname)
      rw [List.filter_cons_of_neg (by simp [hid]), List.lookup_cons, hlookup, ih]
    · rw [List.filter_cons_of_pos (by simp [hid]), List.lookup_cons, List.lookup_cons, ih]

variable [Installation]

/-- With the attributes of an element the builder of a notice looks for the notice in the
element. -/
theorem leaf_copyright_settings (node : Node) (id : Option String) (text : String) :
    Builder.leaf .copyright id node.settings text = Matcher.ofNotice node.notice id := by
  have hstart : "start" ≠ "id" := by simp
  have hend : "end" ≠ "id" := by simp
  have howner : "owner" ≠ "id" := by simp
  rw [Builder.leaf, setting?_settings node hstart, setting?_settings node hend,
    setting?_settings node howner, notice]

/-- With the attributes of an element the builder of a license identifier looks for the name in the
element, which must not be blank. -/
theorem leaf_spdx_settings (node : Node) (id : Option String) (text : String) :
    Builder.leaf .spdx id node.settings text =
      if isAllBlank ((node.last? "name").getD "") then .error (.of .nameMissing "" Kind.spdx.tag)
      else Matcher.ofIdentifier ((node.last? "name").getD "") id := by
  have hname : "name" ≠ "id" := by simp
  rw [Builder.leaf, setting?_settings node hname]

end Node

/-! ### Attributes -/

/-- The identifier of a builder after further attributes have been set. -/
def Builder.idAfter (id : Option String) (attributes : List (String × String)) : Option String :=
  match attributes.reverse.lookup "id" with
  | some value => trimmedId? value
  | none => id

theorem Builder.idAfter_cons (id : Option String) (name value : String)
    (rest : List (String × String)) :
    idAfter id ((name, value) :: rest) =
      idAfter (if name = "id" then trimmedId? value else id) rest := by
  rw [idAfter, idAfter, List.reverse_cons, List.lookup_append]
  cases rest.reverse.lookup "id" with
  | some later => rfl
  | none =>
    rw [Option.none_or, List.lookup_singleton]
    by_cases hid : name = "id"
    · rw [if_pos (beq_iff_eq.mpr hid.symm), if_pos hid]
    · rw [if_neg fun h ↦ hid (eq_of_beq h).symm, if_neg hid]

/-- Attributes are set if the kind accepts all of them. -/
theorem Builder.configure_eq_ok_iff {kind : Kind} {id : Option String}
    {settings : List (String × String)} {text : String} {members : List Builder} {resolves : Bool}
    {tag source : String} {attributes : List (String × String)} {builder : Builder} :
    (plain kind id settings text members resolves).configure tag source attributes = .ok builder ↔
      (∀ entry ∈ attributes, entry.1 ∈ kind.options) ∧
        builder = plain kind (idAfter id attributes)
          ((attributes.filter (·.1 != "id")).reverse ++ settings) text members resolves := by
  induction attributes generalizing id settings with
  | nil =>
    rw [configure, Except.ok.injEq]
    exact ⟨fun h ↦ ⟨nofun, h.symm⟩, fun h ↦ h.2.symm⟩
  | cons entry rest ih =>
    obtain ⟨name, value⟩ := entry
    rw [configure, List.forall_mem_cons]
    by_cases hoption : name ∈ kind.options
    · have hcontains : kind.options.contains name = true := List.contains_iff_mem.mpr hoption
      simp only [Builder.kind, hcontains, if_true, hoption, true_and]
      rw [idAfter_cons]
      by_cases hid : name = "id"
      · have hset : (plain kind id settings text members resolves).set name value =
            plain kind (trimmedId? value) settings text members resolves := by
          rw [set, if_pos (beq_iff_eq.mpr hid)]
        rw [hset, ih, if_pos hid, List.filter_cons_of_neg (by simp [hid])]
      · have hset : (plain kind id settings text members resolves).set name value =
            plain kind id ((name, value) :: settings) text members resolves := by
          rw [set, if_neg fun h ↦ hid (eq_of_beq h)]
        rw [hset, ih, if_neg hid, List.filter_cons_of_pos (by simp [hid]), List.reverse_cons,
          List.append_assoc, List.singleton_append]
    · have hcontains : kind.options.contains name = false :=
        Bool.eq_false_iff.mpr fun h ↦ hoption (List.contains_iff_mem.mp h)
      simp only [Builder.kind, hcontains, hoption, false_and, iff_false, Bool.false_eq_true,
        if_false]
      exact nofun

/-- The table of built-in kinds binds their tags to them. -/
theorem KindTable.lookup_builtIn (tag : String) : builtIn.lookup tag = Kind.builtIn? tag := by
  rw [builtIn, Kind.builtIn?]
  induction Kind.builtIn with
  | nil => rfl
  | cons kind rest ih =>
    rw [List.map_cons, List.lookup_cons, List.find?_cons, Bool.beq_comm]
    cases kind.tag == tag with
    | true => rfl
    | false => exact ih

namespace Reader

/-! ### The declarations of a reader -/

/-- A reader with further declarations of identified matchers. -/
def declaring (reader : Reader) (declarations : List (String × Builder)) : Reader :=
  { reader with
    identifiers :=
      { reader.identifiers with builders := reader.identifiers.builders ++ declarations } }

/-- The identifiers that have been declared. -/
def declaredIds (reader : Reader) : List String :=
  reader.identifiers.builders.map (·.1)

@[simp] theorem declaring_nil (reader : Reader) : reader.declaring [] = reader := by
  rw [declaring, List.append_nil]

@[simp] theorem declaring_declaring (reader : Reader) (first second : List (String × Builder)) :
    (reader.declaring first).declaring second = reader.declaring (first ++ second) := by
  simp only [declaring, List.append_assoc]

@[simp] theorem kinds_declaring (reader : Reader) (declarations : List (String × Builder)) :
    (reader.declaring declarations).kinds = reader.kinds :=
  rfl

theorem declaredIds_declaring (reader : Reader) (declarations : List (String × Builder)) :
    (reader.declaring declarations).declaredIds =
      reader.declaredIds ++ declarations.map (·.1) :=
  List.map_append

/-- Fewer declarations have no more identifiers twice. -/
theorem nodup_declaring_of_append {reader : Reader} {first second : List (String × Builder)}
    (hnodup : (reader.declaring (first ++ second)).declaredIds.Nodup) :
    (reader.declaring first).declaredIds.Nodup := by
  rw [← declaring_declaring, declaredIds_declaring] at hnodup
  exact hnodup.of_append_left

section Reading

variable {reader reader' : Reader} {builder : Builder}

/-- A builder is declared if its identifier has not been. -/
theorem returns_declare_iff {source : String} {declared : Builder} :
    Returns (declare source builder) reader declared reader' ↔
      (∀ id, builder.id? = some id → id ∉ reader.declaredIds) ∧ declared = builder.standIn ∧
        reader' = reader.declaring (builder.id?.map fun id ↦ (id, builder)).toList := by
  rw [declare, returns_get_bind_iff, returns_lift_bind_iff, Identifiers.declare, Builder.standIn]
  rcases builder.id? with _ | id
  · rw [Option.map_none, Option.toList_none, declaring_nil]
    constructor
    · rintro ⟨_, ⟨⟩, hrest⟩
      cases hrest
      exact ⟨nofun, rfl, rfl⟩
    · rintro ⟨_, rfl, rfl⟩
      exact ⟨_, rfl, rfl⟩
  · have hcontains : reader.identifiers.contains id = true ↔ id ∈ reader.declaredIds :=
      Option.isSome_iff_exists.trans exists_lookup_iff
    by_cases hdeclared : id ∈ reader.declaredIds
    · simp only [if_pos (hcontains.mpr hdeclared)]
      exact ⟨nofun, fun h ↦ absurd hdeclared (h.1 id rfl)⟩
    · simp only [if_neg (mt hcontains.mp hdeclared)]
      constructor
      · rintro ⟨_, ⟨⟩, hrest⟩
        cases hrest
        exact ⟨fun _ hid ↦ Option.some.inj hid ▸ hdeclared, rfl, rfl⟩
      · rintro ⟨_, rfl, rfl⟩
        exact ⟨_, rfl, rfl⟩

/-- The members of an element are read if its kind holds matchers, and there must be none
otherwise. -/
theorem returns_members_iff {plain : Builder} {children : List Node} {fault : Fault}
    {next : Builder → Reading Builder} :
    Returns
        (if plain.kind.hasMembers then do
            let members ← readMatchers children
            let whole ← pure (plain.addMembers members)
            next whole
          else if children.isEmpty then do
            let whole ← pure plain
            next whole
          else do
            let whole ← throw fault
            next whole) reader builder reader' ↔
      (plain.kind.hasMembers = false → children = []) ∧
        ∃ members middle, Returns (readMatchers children) reader members middle ∧
          Returns (next (if plain.kind.hasMembers then plain.addMembers members else plain)) middle
            builder reader' := by
  by_cases hmembers : plain.kind.hasMembers = true
  · simp only [hmembers, if_true, pure_bind, returns_bind_iff, Bool.true_eq_false, false_implies,
      true_and]
  · have hfalse : plain.kind.hasMembers = false := Bool.eq_false_iff.mpr hmembers
    simp only [hfalse, Bool.false_eq_true, if_false, forall_const, pure_bind]
    cases children with
    | nil =>
      simp only [List.isEmpty_nil, if_true, readMatchers, returns_pure_iff]
      constructor
      · intro hnext
        exact ⟨trivial, [], reader, ⟨rfl, rfl⟩, hnext⟩
      · rintro ⟨_, _, _, ⟨_, rfl⟩, hnext⟩
        exact hnext
    | cons child rest => exact ⟨fun hreturn ↦ absurd hreturn not_returns_throw, nofun⟩

/-- With its attributes, its members, its text and the means to resolve, what was made for an
element is its builder. -/
theorem completed_eq {node : Node} {kind : Kind} (hkind : node.kind? = some kind)
    {members : List Builder} (hmembers : kind.hasMembers = false → members = []) :
    let plain := Builder.plain kind (Builder.idAfter none node.attributes)
      ((node.attributes.filter (·.1 != "id")).reverse ++ []) "" [] false
    completed node (if plain.kind.hasMembers then plain.addMembers members else plain) =
      node.withMembers members := by
  have hid : Builder.idAfter none node.attributes = node.declaredId? := by
    rw [Builder.idAfter, Node.declaredId?, Node.last?]
    cases node.attributes.reverse.lookup "id" <;> rfl
  rw [Node.withMembers, Node.kind, hkind, List.append_nil, hid]
  cases kind with
  | all => rfl
  | any => rfl
  | negation => rfl
  | plugged plugin =>
    exact absurd (Node.mem_builtIn_of_kind? hkind) (Kind.plugged_notMem_builtIn plugin)
  | _ =>
    rw [hmembers rfl]
    rfl

/-- An element is read if it is readable, what stands in it is read, and its identifier has not
been declared. -/
theorem returns_readMatcher_step_iff (hkinds : reader.kinds = .builtIn) {node : Node} :
    Returns (readMatcher node) reader builder reader' ↔
      node.Readable ∧ ∃ members middle, Returns (readMatchers node.children) reader members middle ∧
        Returns (declare node.source (node.withMembers members)) middle builder reader' := by
  obtain ⟨tag, attributes, text, children, source⟩ := node
  rw [readMatcher, returns_get_bind_iff, hkinds, returns_lift_bind_iff, KindTable.builderFor,
    KindTable.lookup_builtIn]
  have hcompleted {kind : Kind} {members : List Builder} {middle : Reader}
      (hkind : Node.kind? ⟨tag, attributes, text, children, source⟩ = some kind)
      (hchildren : kind.hasMembers = false → children = [])
      (hread : Returns (readMatchers children) reader members middle) := by
    have hleaf : kind.hasMembers = false → members = [] := by
      intro hleaf
      rw [hchildren hleaf, readMatchers, returns_pure_iff] at hread
      exact hread.1
    exact completed_eq hkind hleaf
  constructor
  · rintro ⟨ofTag, hofTag, hreturns⟩
    rcases hkind : Kind.builtIn? tag with _ | kind
    · rw [hkind] at hofTag
      cases hofTag
    rw [hkind] at hofTag
    cases hofTag
    obtain ⟨configured, hconfigure, hreturns⟩ := returns_lift_bind_iff.mp hreturns
    obtain ⟨hoptions, rfl⟩ := Builder.configure_eq_ok_iff.mp hconfigure
    obtain ⟨hchildren, members, middle, hread, hdeclare⟩ := returns_members_iff.mp hreturns
    rw [hcompleted hkind hchildren hread] at hdeclare
    have hkindOf : Node.kind ⟨tag, attributes, text, children, source⟩ = kind := Node.kind_eq hkind
    refine ⟨⟨Option.isSome_iff_exists.mpr ⟨kind, hkind⟩, ?_, ?_⟩, members, middle, hread, hdeclare⟩
    · rw [hkindOf, Node.names, List.forall_mem_map]
      exact hoptions
    · rw [hkindOf]
      exact hchildren
  · rintro ⟨⟨hbuiltIn, hoptions, hchildren⟩, members, middle, hread, hdeclare⟩
    obtain ⟨kind, hkind⟩ := Option.isSome_iff_exists.mp hbuiltIn
    rw [Node.kind_eq hkind, Node.names, List.forall_mem_map] at hoptions
    rw [Node.kind_eq hkind] at hchildren
    rw [← hcompleted hkind hchildren hread] at hdeclare
    refine ⟨.ofKind kind, ?_, returns_lift_bind_iff.mpr ⟨_, Builder.configure_eq_ok_iff.mpr
      ⟨hoptions, rfl⟩, returns_members_iff.mpr ⟨hchildren, members, middle, hread, hdeclare⟩⟩⟩
    have hlookup : Kind.builtIn? tag = some kind := hkind
    rw [hlookup]

/-! ### Taking up declarations -/

/-- A reader that knows the built-in kinds and has no identifier twice. -/
structure Ready (reader : Reader) : Prop where
  kinds : reader.kinds = .builtIn
  nodup : reader.declaredIds.Nodup

/-- A reader takes up the declarations of elements: all elements in them are readable, no identifier
is declared twice, and the reader goes on with the declarations. -/
structure Declares (reader : Reader) (nodes : List Node) (reader' : Reader) : Prop where
  readable : ∀ node ∈ nodes, ∀ element ∈ node.elements, element.Readable
  nodup : (reader.declaring (nodes.flatMap Node.declarations)).declaredIds.Nodup
  reader : reader' = reader.declaring (nodes.flatMap Node.declarations)

/-- A reader that has taken up declarations is ready to take up more. -/
theorem Declares.ready {nodes : List Node} (hdeclares : Declares reader nodes reader')
    (hready : reader.Ready) : reader'.Ready := by
  obtain ⟨_, hnodup, rfl⟩ := hdeclares
  exact ⟨(kinds_declaring ..).trans hready.kinds, hnodup⟩

theorem declares_nil_iff (hready : reader.Ready) :
    Declares reader [] reader' ↔ reader' = reader := by
  constructor
  · intro hdeclares
    rw [hdeclares.reader, List.flatMap_nil, declaring_nil]
  · rintro rfl
    have hnil : reader'.declaring [] = reader' := reader'.declaring_nil
    exact ⟨nofun, hnil.symm ▸ hready.nodup, hnil.symm⟩

/-- Declarations are taken up one after the other. -/
theorem declares_append_iff {first second : List Node} :
    Declares reader (first ++ second) reader' ↔
      ∃ middle, Declares reader first middle ∧ Declares middle second reader' := by
  constructor
  · rintro ⟨hreadable, hnodup, rfl⟩
    rw [List.forall_mem_append] at hreadable
    rw [List.flatMap_append] at hnodup ⊢
    refine ⟨_, ⟨hreadable.1, nodup_declaring_of_append hnodup, rfl⟩, hreadable.2, ?_, ?_⟩
    · rw [declaring_declaring]
      exact hnodup
    · rw [declaring_declaring]
  · rintro ⟨_, ⟨hfirst, _, rfl⟩, hsecond, hnodup, rfl⟩
    rw [declaring_declaring, ← List.flatMap_append] at hnodup ⊢
    exact ⟨List.forall_mem_append.mpr ⟨hfirst, hsecond⟩, hnodup, rfl⟩

/-- The identifier of an element is not declared twice if it has not been declared. -/
theorem nodup_declaring_own_iff {node : Node} :
    (reader.declaring node.declaration?.toList).declaredIds.Nodup ↔
      reader.declaredIds.Nodup ∧ ∀ id, node.declaredId? = some id → id ∉ reader.declaredIds := by
  rw [declaredIds_declaring, Node.declaration?]
  rcases node.declaredId? with _ | id
  · rw [Option.map_none, Option.toList_none, List.map_nil, List.append_nil]
    exact ⟨fun hnodup ↦ ⟨hnodup, nofun⟩, fun h ↦ h.1⟩
  · rw [Option.map_some, Option.toList_some, List.map_singleton, ← List.concat_eq_append,
      List.nodup_concat, and_comm]
    exact and_congr_right fun _ ↦ ⟨fun hid _ h ↦ Option.some.inj h ▸ hid, fun hid ↦ hid id rfl⟩

/-- The declarations in an element are taken up before its own. -/
theorem declares_singleton_iff {node : Node} :
    Declares reader [node] reader' ↔
      node.Readable ∧ ∃ middle, Declares reader node.children middle ∧
        (∀ id, node.declaredId? = some id → id ∉ middle.declaredIds) ∧
        reader' = middle.declaring node.declaration?.toList := by
  have hdeclarations : [node].flatMap Node.declarations =
      node.children.flatMap Node.declarations ++ node.declaration?.toList := by
    rw [List.flatMap_singleton, Node.declarations_eq]
  constructor
  · rintro ⟨hreadable, hnodup, rfl⟩
    rw [List.forall_mem_singleton] at hreadable
    rw [hdeclarations] at hnodup ⊢
    refine ⟨hreadable node node.mem_elements_self, _,
      ⟨fun child hchild element helement ↦
        hreadable element (Node.mem_elements_of_child hchild helement),
        nodup_declaring_of_append hnodup, rfl⟩, ?_, (declaring_declaring ..).symm⟩
    rw [← declaring_declaring, nodup_declaring_own_iff] at hnodup
    exact hnodup.2
  · rintro ⟨hreadable, _, ⟨hchildren, hnodup, rfl⟩, hown, rfl⟩
    refine ⟨?_, ?_, ?_⟩
    · rw [List.forall_mem_singleton]
      intro element helement
      rw [Node.elements_eq, List.mem_append, List.mem_flatMap, List.mem_singleton] at helement
      rcases helement with ⟨child, hchild, helement⟩ | rfl
      · exact hchildren child hchild element helement
      · exact hreadable
    · rw [hdeclarations, ← declaring_declaring, nodup_declaring_own_iff]
      exact ⟨hnodup, hown⟩
    · rw [hdeclarations, declaring_declaring]

/-- Elements that are read one after the other are read as each of them is. -/
private theorem returns_readMatchers_of_each {nodes : List Node}
    (hnodes : ∀ node ∈ nodes, ∀ {reader reader' : Reader} {builder : Builder}, reader.Ready →
      (Returns (readMatcher node) reader builder reader' ↔
        builder = node.builder ∧ Declares reader [node] reader'))
    (hready : reader.Ready) {builders : List Builder} :
    Returns (readMatchers nodes) reader builders reader' ↔
      builders = nodes.map Node.builder ∧ Declares reader nodes reader' := by
  induction nodes generalizing reader reader' builders with
  | nil => rw [readMatchers, returns_pure_iff, declares_nil_iff hready, List.map_nil]
  | cons node rest ih =>
    have hrest {middle last : Reader} {others : List Builder} (hmiddle : middle.Ready) :
        Returns (readMatchers rest) middle others last ↔
          others = rest.map Node.builder ∧ Declares middle rest last :=
      ih (fun other hother ↦ hnodes other (List.mem_cons_of_mem node hother)) hmiddle
    rw [readMatchers, ← List.singleton_append, declares_append_iff, List.map_append]
    simp only [returns_bind_iff, returns_pure_iff, hnodes node List.mem_cons_self hready]
    constructor
    · rintro ⟨builder, middle, ⟨rfl, hdeclares⟩, others, last, hothers, rfl, rfl⟩
      obtain ⟨rfl, hlast⟩ := (hrest (hdeclares.ready hready)).mp hothers
      exact ⟨rfl, middle, hdeclares, hlast⟩
    · rintro ⟨rfl, middle, hdeclares, hlast⟩
      exact ⟨node.builder, middle, ⟨rfl, hdeclares⟩, rest.map Node.builder, reader',
        (hrest (hdeclares.ready hready)).mpr ⟨rfl, hlast⟩, rfl, rfl⟩

/-- An element is read if the reader can take up the declarations in it. Assumes: a reader that is
ready. -/
theorem returns_readMatcher_iff (node : Node) :
    ∀ {reader reader' : Reader} {builder : Builder}, reader.Ready →
      (Returns (readMatcher node) reader builder reader' ↔
        builder = node.builder ∧ Declares reader [node] reader') := by
  induction node using Node.induction with
  | node tag attributes text children source ih =>
    intro reader reader' builder hready
    rw [returns_readMatcher_step_iff hready.kinds, declares_singleton_iff, Node.builder_eq]
    simp only [returns_readMatchers_of_each ih hready, returns_declare_iff]
    constructor
    · rintro ⟨hreadable, members, middle, ⟨rfl, hdeclares⟩, hid, rfl, rfl⟩
      exact ⟨rfl, hreadable, middle, hdeclares, hid, rfl⟩
    · rintro ⟨rfl, hreadable, middle, hdeclares, hid, rfl⟩
      exact ⟨hreadable, children.map Node.builder, middle, ⟨rfl, hdeclares⟩, hid, rfl, rfl⟩

end Reading

end Reader

end LicenseHeaders
