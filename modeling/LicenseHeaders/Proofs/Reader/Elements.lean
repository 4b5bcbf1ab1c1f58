import LicenseHeaders.Proofs.Reader.Declaring

/-!
# Reading elements of any kind

`Reader.returns_readMatcher_iff` describes a reader that knows the built-in kinds only. Here a tag
may be bound to any kind. Reading an element is three steps (`Reader.readMatcher_eq`): the element
is accepted by its kind (`Node.accepted`), what stands in it is read, and its builder
(`Node.ofKind`) is declared.

As with the built-in kinds, what is read can be said without the reader. `Node.builderIn` is the
builder of an element under a table of kinds and `Node.draftIn` is what is read of a license. They
are returned if every element is accepted and the reader can take up the declarations
(`Reader.returns_builderIn_iff`, `Reader.returns_draftsIn_iff`). Otherwise, where no identifier is
declared twice, the fault is that of an element that is not accepted
(`Reader.exists_refused_of_raises`).
-/

set_option autoImplicit false
set_option relaxedAutoImplicit false

namespace LicenseHeaders

open Text

namespace Node

/-- The builder of an element of a kind over the builders in it. -/
def ofKind (node : Node) (kind : Kind) (members : List Builder) : Builder :=
  .plain kind node.declaredId? node.settings (if kind.hasText then trimmed node.text else "")
    members (kind = .reference)

/-- The kind that the tag of an element is bound to, if it accepts the attributes of the element and
what stands in it. -/
def accepted (kinds : KindTable) (node : Node) : Except Fault Kind :=
  match kinds.lookup node.tag with
  | none => .error (.of (.tagUnknown kinds.tags) node.source node.tag)
  | some kind =>
    match (Builder.ofKind kind).configure node.tag node.source node.attributes with
    | .error fault => .error fault
    | .ok _ =>
      if kind.hasMembers || node.children.isEmpty then .ok kind
      else .error (.of .membersRefused node.source node.tag)

/-- The identifiers under which something is declared in an element, its own behind the others. -/
def declaredIds (node : Node) : List String :=
  node.elements.filterMap declaredId?

theorem declaredIds_eq (node : Node) :
    node.declaredIds = node.children.flatMap declaredIds ++ node.declaredId?.toList := by
  have hself : [node].filterMap declaredId? = node.declaredId?.toList := by
    rw [List.filterMap_cons, List.filterMap_nil]
    cases node.declaredId? <;> rfl
  rw [declaredIds, elements_eq, List.filterMap_append, List.filterMap_flatMap, hself]
  rfl

/-- Setting the attributes of an element gives a builder its identifier. -/
theorem idAfter_attributes (node : Node) :
    Builder.idAfter none node.attributes = node.declaredId? := by
  rw [Builder.idAfter, declaredId?, last?]
  cases node.attributes.reverse.lookup "id" <;> rfl

end Node

/-- The attributes of an element are set if its kind accepts all of them. -/
theorem Builder.configure_ofKind_eq_ok_iff {kind : Kind} {node : Node} {builder : Builder} :
    (ofKind kind).configure node.tag node.source node.attributes = .ok builder ↔
      (∀ name ∈ node.names, name ∈ kind.options) ∧
        builder = .plain kind node.declaredId? node.settings "" [] false := by
  rw [ofKind, configure_eq_ok_iff, Node.idAfter_attributes, List.append_nil, Node.names,
    List.forall_mem_map]
  rfl

namespace Node

theorem accepted_eq_ok_iff {kinds : KindTable} {node : Node} {kind : Kind} :
    node.accepted kinds = .ok kind ↔
      kinds.lookup node.tag = some kind ∧ (∀ name ∈ node.names, name ∈ kind.options) ∧
        (kind.hasMembers = false → node.children = []) := by
  rw [accepted]
  rcases kinds.lookup node.tag with _ | found
  · exact ⟨nofun, nofun⟩
  dsimp only
  rcases hconfigured : (Builder.ofKind found).configure node.tag node.source node.attributes with
    fault | configured
  · refine ⟨nofun, ?_⟩
    rintro ⟨hfound, hoptions, _⟩
    rw [Option.some.inj hfound] at hconfigured
    cases hconfigured.symm.trans (Builder.configure_ofKind_eq_ok_iff.mpr ⟨hoptions, rfl⟩)
  · obtain ⟨hoptions, _⟩ := Builder.configure_ofKind_eq_ok_iff.mp hconfigured
    have hchildren : (found.hasMembers || node.children.isEmpty) = true ↔
        (found.hasMembers = false → node.children = []) := by
      rw [Bool.or_eq_true, List.isEmpty_iff, or_iff_not_imp_left, Bool.not_eq_true]
    dsimp only
    rw [Option.some.injEq]
    by_cases hmembers : (found.hasMembers || node.children.isEmpty) = true
    · rw [if_pos hmembers, Except.ok.injEq]
      constructor
      · rintro rfl
        exact ⟨rfl, hoptions, hchildren.mp hmembers⟩
      · exact fun h ↦ h.1
    · rw [if_neg hmembers]
      refine ⟨nofun, ?_⟩
      rintro ⟨rfl, _, hrefused⟩
      exact absurd (hchildren.mpr hrefused) hmembers

end Node

/-! ### The builders of elements -/

namespace Node

section Builders

variable (kinds : KindTable)

/-- The kind that the tag of an element is bound to. One that is bound to none counts as one that
leaves open how it is built. -/
def kindIn (node : Node) : Kind :=
  (kinds.lookup node.tag).getD .base

mutual

/-- The builder of an element where it stands. -/
def builderIn : Node → Builder
  | ⟨tag, attributes, text, children, source⟩ =>
    (ofKind ⟨tag, attributes, text, children, source⟩
      (kindIn kinds ⟨tag, attributes, text, children, source⟩)
      (builderInEach children)).standIn

/-- The builders of several elements where they stand. -/
def builderInEach : List Node → List Builder
  | [] => []
  | node :: rest => node.builderIn :: builderInEach rest

end

/-- The builder of an element. -/
def plainIn (node : Node) : Builder :=
  node.ofKind (node.kindIn kinds) (node.children.map (builderIn kinds))

/-- The declaration of an element, if it has an identifier. -/
def declarationIn? (node : Node) : Option (String × Builder) :=
  node.declaredId?.map fun id ↦ (id, node.plainIn kinds)

/-- The declarations of the elements of a declaration. -/
def declarationsIn (node : Node) : List (String × Builder) :=
  node.elements.filterMap (declarationIn? kinds)

/-- All elements of a declaration are accepted by their kinds. -/
def Accepted (node : Node) : Prop :=
  ∀ element ∈ node.elements, ∃ kind, element.accepted kinds = .ok kind

theorem builderInEach_eq_map (nodes : List Node) :
    builderInEach kinds nodes = nodes.map (builderIn kinds) := by
  induction nodes with
  | nil => rfl
  | cons node rest ih => rw [builderInEach, ih, List.map_cons]

theorem builderIn_eq (node : Node) : node.builderIn kinds = (node.plainIn kinds).standIn := by
  obtain ⟨tag, attributes, text, children, source⟩ := node
  rw [builderIn, builderInEach_eq_map]
  rfl

theorem declarationsIn_eq (node : Node) :
    node.declarationsIn kinds =
      node.children.flatMap (declarationsIn kinds) ++ (node.declarationIn? kinds).toList := by
  have hself : [node].filterMap (declarationIn? kinds) = (node.declarationIn? kinds).toList := by
    rw [List.filterMap_cons, List.filterMap_nil]
    cases node.declarationIn? kinds <;> rfl
  rw [declarationsIn, elements_eq, List.filterMap_append, List.filterMap_flatMap, hself]
  rfl

/-- What is declared in a declaration are the identifiers that are written in it. -/
theorem declarationsIn_map_fst (node : Node) :
    (node.declarationsIn kinds).map (·.1) = node.declaredIds := by
  rw [declarationsIn, List.map_filterMap, declaredIds]
  refine List.filterMap_congr fun element _ ↦ ?_
  rw [declarationIn?, Option.map_map]
  exact Option.map_id'

theorem declarationsInEach_map_fst (nodes : List Node) :
    (nodes.flatMap (declarationsIn kinds)).map (·.1) = nodes.flatMap declaredIds := by
  simp only [List.map_flatMap, declarationsIn_map_fst]

theorem accepted_iff (node : Node) :
    node.Accepted kinds ↔
      (∀ child ∈ node.children, child.Accepted kinds) ∧
        ∃ kind, node.accepted kinds = .ok kind := by
  rw [Accepted, elements_eq, List.forall_mem_append, List.forall_mem_singleton,
    List.forall_mem_flatMap]
  rfl

/-- The kind of an element is the one that accepts it. -/
theorem kindIn_eq_of_accepted {kinds : KindTable} {node : Node} {kind : Kind}
    (haccepted : node.accepted kinds = .ok kind) : node.kindIn kinds = kind := by
  rw [kindIn, (accepted_eq_ok_iff.mp haccepted).1, Option.getD_some]

end Builders

end Node

namespace Reader

section Elements

variable {reader reader' : Reader} {builder : Builder} {node : Node} {fault : Fault}

/-- With its attributes set, its members, its text and the means to resolve, what was made for an
element is its builder. -/
theorem completed_ofKind {kind : Kind} {members : List Builder} :
    completed node (.plain kind node.declaredId? node.settings "" members false) =
      node.ofKind kind members := by
  rw [Node.ofKind]
  cases kind with
  | plugged plugin =>
    cases htext : plugin.hasText <;>
      simp [completed, Builder.kind, Kind.hasText, Builder.setText, htext]
  | _ => rfl

/-- To read an element is to accept it, to read what stands in it, and to declare its builder. -/
theorem readMatcher_eq (node : Node) :
    readMatcher node = (do
      let kind ← liftM (node.accepted (← get).kinds)
      let members ← readMatchers node.children
      declare node.source (node.ofKind kind members)) := by
  have hrun : ∀ reader, (readMatcher node).run.run reader = (do
      let kind ← liftM (node.accepted (← get).kinds)
      let members ← readMatchers node.children
      declare node.source (node.ofKind kind members) : Reading Builder).run.run reader := by
    intro reader
    obtain ⟨tag, attributes, text, children, source⟩ := node
    rw [readMatcher, run_get_bind, run_get_bind, Node.accepted, KindTable.builderFor]
    rcases reader.kinds.lookup tag with _ | kind
    · rfl
    have hok {Value Result : Type} (value : Value) (next : Value → Reading Result) :
        (liftM (Except.ok value : Except Fault Value) >>= next : Reading Result) = next value :=
      rfl
    dsimp only
    rw [hok]
    rcases hconfigured : (Builder.ofKind kind).configure tag source attributes with
      fault | configured
    · rfl
    have hplain : configured = .plain kind (Node.declaredId? ⟨tag, attributes, text, children,
        source⟩) (Node.settings ⟨tag, attributes, text, children, source⟩) "" [] false :=
      (Builder.configure_ofKind_eq_ok_iff.mp hconfigured).2
    have hkind : configured.kind = kind := by rw [hplain, Builder.kind]
    have hwith (members : List Builder) :
        completed ⟨tag, attributes, text, children, source⟩ (configured.addMembers members) =
          Node.ofKind ⟨tag, attributes, text, children, source⟩ kind members := by
      rw [hplain, Builder.addMembers, List.nil_append, completed_ofKind]
    have hwithout : completed ⟨tag, attributes, text, children, source⟩ configured =
        Node.ofKind ⟨tag, attributes, text, children, source⟩ kind [] := by
      rw [hplain, completed_ofKind]
    rw [hok, hkind]
    by_cases hmembers : kind.hasMembers = true
    · simp only [hmembers, Bool.true_or, if_true, hok, pure_bind, hwith]
    · have hleaf : kind.hasMembers = false := Bool.eq_false_iff.mpr hmembers
      cases children with
      | nil =>
        simp only [hleaf, Bool.false_eq_true, if_false, Bool.false_or, List.isEmpty_nil, if_true,
          hok, pure_bind, hwithout, readMatchers]
      | cons child rest =>
        simp only [hleaf, Bool.false_eq_true, if_false, Bool.false_or, List.isEmpty_cons]
        rfl
  exact funext hrun

/-- An element is read if its kind accepts it, if what stands in it is read, and if its identifier
has not been declared. -/
theorem returns_element_iff :
    Returns (readMatcher node) reader builder reader' ↔
      ∃ kind members middle, node.accepted reader.kinds = .ok kind ∧
        Returns (readMatchers node.children) reader members middle ∧
        Returns (declare node.source (node.ofKind kind members)) middle builder reader' := by
  rw [readMatcher_eq, returns_get_bind_iff, returns_lift_bind_iff]
  simp only [returns_bind_iff]
  constructor
  · rintro ⟨kind, haccepted, members, middle, hread, hdeclare⟩
    exact ⟨kind, members, middle, haccepted, hread, hdeclare⟩
  · rintro ⟨kind, members, middle, haccepted, hread, hdeclare⟩
    exact ⟨kind, haccepted, members, middle, hread, hdeclare⟩

/-- An element is not read if its kind does not accept it, if something in it is not read, or if its
builder cannot be declared. -/
theorem raises_element_iff :
    Raises (readMatcher node) reader fault reader' ↔
      (node.accepted reader.kinds = .error fault ∧ reader' = reader) ∨
      ∃ kind, node.accepted reader.kinds = .ok kind ∧
        (Raises (readMatchers node.children) reader fault reader' ∨
          ∃ members middle, Returns (readMatchers node.children) reader members middle ∧
            Raises (declare node.source (node.ofKind kind members)) middle fault reader') := by
  rw [readMatcher_eq, raises_get_bind_iff, raises_lift_bind_iff]
  simp only [raises_bind_iff]

theorem returns_readMatchers_cons_iff {rest : List Node} {builders : List Builder} :
    Returns (readMatchers (node :: rest)) reader builders reader' ↔
      ∃ builder middle others, Returns (readMatcher node) reader builder middle ∧
        Returns (readMatchers rest) middle others reader' ∧ builders = builder :: others := by
  rw [readMatchers]
  simp only [returns_bind_iff, returns_pure_iff]
  constructor
  · rintro ⟨builder, middle, hbuilder, others, last, hothers, rfl, rfl⟩
    exact ⟨builder, middle, others, hbuilder, hothers, rfl⟩
  · rintro ⟨builder, middle, others, hbuilder, hothers, rfl⟩
    exact ⟨builder, middle, hbuilder, others, reader', hothers, rfl, rfl⟩

theorem raises_readMatchers_cons_iff {rest : List Node} :
    Raises (readMatchers (node :: rest)) reader fault reader' ↔
      Raises (readMatcher node) reader fault reader' ∨
        ∃ builder middle, Returns (readMatcher node) reader builder middle ∧
          Raises (readMatchers rest) middle fault reader' := by
  rw [readMatchers]
  simp only [raises_bind_iff, not_raises_pure, and_false, exists_false, or_false]

/-- A builder is not declared if its identifier has been. -/
theorem raises_declare_iff {source : String} :
    Raises (declare source builder) reader fault reader' ↔
      ∃ id, builder.id? = some id ∧ id ∈ reader.declaredIds ∧
        fault = .of (.idTaken id) source builder.kind.tag ∧ reader' = reader := by
  rw [declare, raises_get_bind_iff, raises_lift_bind_iff, Identifiers.declare]
  rcases builder.id? with _ | id
  · constructor
    · rintro (⟨⟨⟩, _⟩ | ⟨_, _, hraises⟩)
      cases hraises
    · rintro ⟨_, ⟨⟩, _⟩
  · have hcontains : reader.identifiers.contains id = true ↔ id ∈ reader.declaredIds :=
      Option.isSome_iff_exists.trans exists_lookup_iff
    by_cases hdeclared : id ∈ reader.declaredIds
    · simp only [if_pos (hcontains.mpr hdeclared)]
      constructor
      · rintro (⟨⟨⟩, rfl⟩ | ⟨_, ⟨⟩, _⟩)
        exact ⟨id, rfl, hdeclared, rfl, rfl⟩
      · rintro ⟨_, ⟨⟩, _, rfl, rfl⟩
        exact .inl ⟨rfl, rfl⟩
    · simp only [if_neg (mt hcontains.mp hdeclared)]
      constructor
      · rintro (⟨⟨⟩, _⟩ | ⟨_, _, hraises⟩)
        cases hraises
      · rintro ⟨_, ⟨⟩, htaken, _⟩
        exact absurd htaken hdeclared

/-! ### What is read -/

/-- Elements that are read one after the other are read if each of them is. -/
private theorem returns_builderInEach_iff {nodes : List Node}
    (hnodes : ∀ node ∈ nodes, ∀ {reader reader' : Reader} {builder : Builder},
      Returns (readMatcher node) reader builder reader' ↔
        node.Accepted reader.kinds ∧ reader.Fresh (node.declarationsIn reader.kinds) ∧
          builder = node.builderIn reader.kinds ∧
          reader' = reader.declaring (node.declarationsIn reader.kinds))
    {builders : List Builder} :
    Returns (readMatchers nodes) reader builders reader' ↔
      (∀ node ∈ nodes, node.Accepted reader.kinds) ∧
        reader.Fresh (nodes.flatMap (Node.declarationsIn reader.kinds)) ∧
        builders = nodes.map (Node.builderIn reader.kinds) ∧
        reader' = reader.declaring (nodes.flatMap (Node.declarationsIn reader.kinds)) := by
  induction nodes generalizing reader builders with
  | nil =>
    rw [readMatchers, returns_pure_iff, List.flatMap_nil, declaring_nil]
    exact ⟨fun h ↦ ⟨List.forall_mem_nil _, fresh_nil reader, h⟩, fun h ↦ h.2.2⟩
  | cons node rest ih =>
    rw [List.forall_mem_cons] at hnodes
    rw [returns_readMatchers_cons_iff, List.forall_mem_cons, List.flatMap_cons, List.map_cons,
      fresh_append_iff, ← declaring_declaring]
    simp only [hnodes.1, ih hnodes.2]
    constructor
    · rintro ⟨_, _, _, ⟨hnode, hfresh, rfl, rfl⟩, ⟨hrest, hothers, rfl, rfl⟩, rfl⟩
      exact ⟨⟨hnode, hrest⟩, ⟨hfresh, hothers⟩, rfl, rfl⟩
    · rintro ⟨⟨hnode, hrest⟩, ⟨hfresh, hothers⟩, rfl, rfl⟩
      exact ⟨_, _, _, ⟨hnode, hfresh, rfl, rfl⟩, ⟨hrest, hothers, rfl, rfl⟩, rfl⟩

/-- An element is read if all elements in it are accepted and the reader can take up their
declarations. What is returned is its builder. -/
theorem returns_builderIn_iff (node : Node) :
    ∀ {reader reader' : Reader} {builder : Builder},
      Returns (readMatcher node) reader builder reader' ↔
        node.Accepted reader.kinds ∧ reader.Fresh (node.declarationsIn reader.kinds) ∧
          builder = node.builderIn reader.kinds ∧
          reader' = reader.declaring (node.declarationsIn reader.kinds) := by
  induction node using Node.induction_children with
  | step node ih =>
    intro reader reader' builder
    have hid (kind : Kind) (members : List Builder) :
        (node.ofKind kind members).id? = node.declaredId? := rfl
    have hplain {kind : Kind} (haccepted : node.accepted reader.kinds = .ok kind) :
        node.ofKind kind (node.children.map (Node.builderIn reader.kinds)) =
          node.plainIn reader.kinds := by
      rw [Node.plainIn, Node.kindIn_eq_of_accepted haccepted]
    have hown (middle : Reader) : middle.Fresh (node.declarationIn? reader.kinds).toList ↔
        ∀ id, node.declaredId? = some id → id ∉ middle.declaredIds := by
      rw [Node.declarationIn?]
      exact fresh_own_iff
    rw [returns_element_iff, Node.accepted_iff, Node.declarationsIn_eq, fresh_append_iff,
      Node.builderIn_eq, ← declaring_declaring]
    simp only [returns_builderInEach_iff ih, returns_declare_iff, hown, hid]
    constructor
    · rintro ⟨kind, _, _, haccepted, ⟨hchildren, hfresh, rfl, rfl⟩, hfree, rfl, rfl⟩
      rw [hplain haccepted]
      exact ⟨⟨hchildren, kind, haccepted⟩, ⟨hfresh, hfree⟩, rfl, rfl⟩
    · rintro ⟨⟨hchildren, kind, haccepted⟩, ⟨hfresh, hfree⟩, rfl, rfl⟩
      refine ⟨kind, _, _, haccepted, ⟨hchildren, hfresh, rfl, rfl⟩, hfree, ?_, ?_⟩
      · rw [hplain haccepted]
      · rw [hplain haccepted]
        rfl

/-- Of elements that are read one after the other, the first that is not read ends the reading. -/
private theorem exists_refused_of_raises_each {nodes : List Node}
    (hnodes : ∀ node ∈ nodes, ∀ {reader reader' : Reader} {fault : Fault},
      Raises (readMatcher node) reader fault reader' →
      (reader.declaredIds ++ node.declaredIds).Nodup →
        ∃ element ∈ node.elements, element.accepted reader.kinds = .error fault)
    (hraises : Raises (readMatchers nodes) reader fault reader')
    (hnodup : (reader.declaredIds ++ nodes.flatMap Node.declaredIds).Nodup) :
    ∃ element ∈ nodes.flatMap Node.elements, element.accepted reader.kinds = .error fault := by
  induction nodes generalizing reader with
  | nil => exact absurd hraises not_raises_pure
  | cons node rest ih =>
    rw [List.flatMap_cons, ← List.append_assoc] at hnodup
    rw [List.forall_mem_cons] at hnodes
    rw [List.flatMap_cons]
    rcases raises_readMatchers_cons_iff.mp hraises with hnode | ⟨builder, middle, hnode, hrest⟩
    · obtain ⟨element, helement, hrefused⟩ := hnodes.1 hnode hnodup.of_append_left
      exact ⟨element, List.mem_append_left _ helement, hrefused⟩
    · obtain ⟨_, _, _, rfl⟩ := (returns_builderIn_iff node).mp hnode
      rw [← Node.declarationsIn_map_fst reader.kinds node, ← declaredIds_declaring] at hnodup
      obtain ⟨element, helement, hrefused⟩ := ih hnodes.2 hrest hnodup
      exact ⟨element, List.mem_append_right _ helement, hrefused⟩

/-- An element that is not read has an element in it that is not accepted, and the fault is that of
the latter. Assumes: no identifier is declared twice. -/
theorem exists_refused_of_raises (node : Node) :
    ∀ {reader reader' : Reader} {fault : Fault},
      Raises (readMatcher node) reader fault reader' →
      (reader.declaredIds ++ node.declaredIds).Nodup →
        ∃ element ∈ node.elements, element.accepted reader.kinds = .error fault := by
  induction node using Node.induction_children with
  | step node ih =>
    intro reader reader' fault hraises hnodup
    rw [Node.declaredIds_eq, ← List.append_assoc] at hnodup
    rcases raises_element_iff.mp hraises with ⟨hrefused, _⟩ | ⟨kind, _, hmembers | hdeclare⟩
    · exact ⟨node, node.mem_elements_self, hrefused⟩
    · obtain ⟨element, helement, hrefused⟩ :=
        exists_refused_of_raises_each ih hmembers hnodup.of_append_left
      rw [Node.elements_eq]
      exact ⟨element, List.mem_append_left _ helement, hrefused⟩
    · -- The identifier of the element itself is free.
      obtain ⟨members, middle, hmembers, hdeclare⟩ := hdeclare
      obtain ⟨_, _, _, rfl⟩ :=
        (returns_builderInEach_iff fun child _ ↦ returns_builderIn_iff child).mp hmembers
      obtain ⟨id, hid, htaken, _⟩ := raises_declare_iff.mp hdeclare
      rw [Node.ofKind, Builder.id?] at hid
      rw [declaredIds_declaring, Node.declarationsInEach_map_fst] at htaken
      rw [hid] at hnodup
      exact absurd (List.mem_singleton_self id) (List.disjoint_of_nodup_append hnodup htaken)

end Elements

end Reader

/-! ### Licenses -/

namespace Node

/-- The license to be that is read from a declaration, with a given root. -/
def draftOf (node : Node) (root : Option Root) : LicenseDraft :=
  { category := node.get? "id"
    name := node.get? "name"
    notes := unlessBlank (some node.notes)
    derivedFrom := unlessBlank (node.get? "derived_from")
    root }

/-- The license to be that is read from a declaration. -/
def draftIn (kinds : KindTable) (node : Node) : LicenseDraft :=
  node.draftOf (node.roots.head?.map fun root ↦ .builder (root.builderIn kinds))

@[simp] theorem category_draftIn (kinds : KindTable) (node : Node) :
    (node.draftIn kinds).category = node.get? "id" :=
  rfl

@[simp] theorem name_draftIn (kinds : KindTable) (node : Node) :
    (node.draftIn kinds).name = node.get? "name" :=
  rfl

@[simp] theorem notes_draftIn (kinds : KindTable) (node : Node) :
    (node.draftIn kinds).notes = unlessBlank (some node.notes) := by
  rw [draftIn, draftOf]

@[simp] theorem derivedFrom_draftIn (kinds : KindTable) (node : Node) :
    (node.draftIn kinds).derivedFrom = unlessBlank (node.get? "derived_from") := by
  rw [draftIn, draftOf]

theorem root_draftIn {kinds : KindTable} {node root : Node} (hroots : node.roots = [root]) :
    (node.draftIn kinds).root = some (.builder (root.builderIn kinds)) := by
  rw [draftIn, draftOf, hroots]
  rfl

/-- The drafts of declarations that hold a license have builders. -/
theorem roots_draftsIn (kinds : KindTable) {nodes : List Node}
    (hlicenses : ∀ node ∈ nodes, node.HoldsLicense) :
    ∀ entry ∈ nodes.map fun node ↦ (node, node.draftIn kinds),
      ∃ builder, entry.2.root = some (.builder builder) := by
  rw [List.forall_mem_map]
  intro node hnode
  obtain ⟨root, hroots⟩ := (hlicenses node hnode).root
  exact ⟨root.builderIn kinds, root_draftIn hroots⟩

/-- The declarations in the declaration of a license. -/
def heldIn (kinds : KindTable) (node : Node) : List (String × Builder) :=
  node.roots.flatMap (declarationsIn kinds)

/-- The identifiers under which something is declared in the declaration of a license. -/
def heldIds (node : Node) : List String :=
  node.roots.flatMap declaredIds

theorem heldIn_map_fst (kinds : KindTable) (node : Node) :
    (node.heldIn kinds).map (·.1) = node.heldIds :=
  declarationsInEach_map_fst kinds node.roots

theorem heldInEach_map_fst (kinds : KindTable) (nodes : List Node) :
    (nodes.flatMap (heldIn kinds)).map (·.1) = nodes.flatMap heldIds := by
  simp only [List.map_flatMap, heldIn_map_fst]

end Node

namespace Document

/-- The declarations of the elements of a document. -/
def declarationsIn (kinds : KindTable) (document : Document) : List (String × Builder) :=
  document.licenses.flatMap (Node.heldIn kinds)

theorem ids_eq_flatMap (document : Document) :
    document.ids = document.licenses.flatMap Node.heldIds := by
  simp only [ids, elements, List.filterMap_flatMap]
  rfl

theorem declarationsIn_map_fst (kinds : KindTable) (document : Document) :
    (document.declarationsIn kinds).map (·.1) = document.ids := by
  rw [declarationsIn, Node.heldInEach_map_fst, ids_eq_flatMap]

end Document

namespace Reader

section Licenses

variable {reader reader' : Reader} {node : Node} {nodes : List Node} {draft : LicenseDraft}
  {drafts : List (Node × LicenseDraft)} {fault : Fault}

/-- The attributes that the declaration of a license may have. -/
def checkLicense (node : Node) : Except Fault Unit :=
  checkAttributes node ["id", "name", "derived_from"]

/-- To read a license is to check it, and to read the one element in it. -/
theorem readLicense_eq {root : Node} (hroots : node.roots = [root]) :
    readLicense node = (do
      liftM (checkLicense node)
      let builder ← readMatcher root
      pure (node.draftOf (some (.builder builder)))) := by
  rw [Node.roots] at hroots
  rw [readLicense]
  dsimp only
  rw [hroots]
  rfl

theorem readLicense_eq_throw (hroots : node.roots.length ≠ 1) :
    readLicense node = (do
      liftM (checkLicense node)
      throw (.of (.notOneMatcher (node.get? "id") node.roots.length) node.source node.tag)) := by
  rw [Node.roots] at hroots ⊢
  rw [readLicense]
  dsimp only
  generalize node.children.filter (·.tag != noteTag) = roots at hroots
  rcases roots with _ | ⟨root, _ | ⟨second, rest⟩⟩
  · rfl
  · exact absurd rfl hroots
  · rfl

/-- A license is read if it has only attributes of a license, and if the one element in it is read.
What is returned is its draft. -/
theorem returns_draftIn_iff :
    Returns (readLicense node) reader draft reader' ↔
      node.HoldsLicense ∧ (∀ root ∈ node.roots, root.Accepted reader.kinds) ∧
        reader.Fresh (node.heldIn reader.kinds) ∧ draft = node.draftIn reader.kinds ∧
        reader' = reader.declaring (node.heldIn reader.kinds) := by
  by_cases hlength : node.roots.length = 1
  · obtain ⟨root, hroots⟩ := List.length_eq_one_iff.mp hlength
    have hdraft (builder : Builder) (hbuilder : builder = root.builderIn reader.kinds) :
        node.draftOf (some (.builder builder)) = node.draftIn reader.kinds := by
      rw [hbuilder, Node.draftIn, hroots]
      rfl
    rw [readLicense_eq hroots, returns_lift_bind_iff, Node.heldIn, hroots, List.flatMap_singleton,
      List.forall_mem_singleton]
    simp only [returns_bind_iff, returns_pure_iff, returns_builderIn_iff]
    constructor
    · rintro ⟨_, hcheck, builder, _, ⟨haccepted, hfresh, hbuilder, rfl⟩, rfl, rfl⟩
      exact ⟨⟨checkAttributes_eq_ok_iff.mp hcheck, root, hroots⟩, haccepted, hfresh,
        hdraft builder hbuilder, rfl⟩
    · rintro ⟨hlicense, haccepted, hfresh, rfl, rfl⟩
      exact ⟨(), checkAttributes_eq_ok_iff.mpr hlicense.options, _, _,
        ⟨haccepted, hfresh, rfl, rfl⟩, (hdraft _ rfl).symm, rfl⟩
  · rw [readLicense_eq_throw hlength, returns_lift_bind_iff]
    constructor
    · rintro ⟨_, _, hthrow⟩
      exact absurd hthrow not_returns_throw
    · rintro ⟨⟨_, root, hroots⟩, _⟩
      rw [hroots] at hlength
      exact absurd rfl hlength

theorem returns_readEachLicense_cons_iff :
    Returns (readEachLicense (node :: nodes)) reader drafts reader' ↔
      ∃ draft middle others, Returns (readLicense node) reader draft middle ∧
        Returns (readEachLicense nodes) middle others reader' ∧
        drafts = (node, draft) :: others := by
  rw [readEachLicense]
  simp only [returns_bind_iff, returns_pure_iff]
  constructor
  · rintro ⟨draft, middle, hdraft, others, last, hothers, rfl, rfl⟩
    exact ⟨draft, middle, others, hdraft, hothers, rfl⟩
  · rintro ⟨draft, middle, others, hdraft, hothers, rfl⟩
    exact ⟨draft, middle, hdraft, others, reader', hothers, rfl, rfl⟩

theorem raises_readEachLicense_cons_iff :
    Raises (readEachLicense (node :: nodes)) reader fault reader' ↔
      Raises (readLicense node) reader fault reader' ∨
        ∃ draft middle, Returns (readLicense node) reader draft middle ∧
          Raises (readEachLicense nodes) middle fault reader' := by
  rw [readEachLicense]
  simp only [raises_bind_iff, not_raises_pure, and_false, exists_false, or_false]

/-- Licenses are read if each of them is, and the reader can take up the declarations in all of
them. -/
theorem returns_draftsIn_iff :
    Returns (readEachLicense nodes) reader drafts reader' ↔
      (∀ node ∈ nodes, node.HoldsLicense) ∧
        (∀ node ∈ nodes, ∀ root ∈ node.roots, root.Accepted reader.kinds) ∧
        reader.Fresh (nodes.flatMap (Node.heldIn reader.kinds)) ∧
        drafts = nodes.map (fun node ↦ (node, node.draftIn reader.kinds)) ∧
        reader' = reader.declaring (nodes.flatMap (Node.heldIn reader.kinds)) := by
  induction nodes generalizing reader drafts with
  | nil =>
    rw [readEachLicense, returns_pure_iff, List.flatMap_nil, declaring_nil, List.map_nil]
    exact ⟨fun h ↦ ⟨List.forall_mem_nil _, List.forall_mem_nil _, fresh_nil reader, h⟩,
      fun h ↦ h.2.2.2⟩
  | cons node rest ih =>
    rw [returns_readEachLicense_cons_iff, List.forall_mem_cons, List.forall_mem_cons,
      List.flatMap_cons, List.map_cons, fresh_append_iff, ← declaring_declaring]
    simp only [returns_draftIn_iff, ih]
    constructor
    · rintro ⟨_, _, _, ⟨hlicense, hroots, hfresh, rfl, rfl⟩,
        ⟨hlicenses, hothers, hrest, rfl, rfl⟩, rfl⟩
      exact ⟨⟨hlicense, hlicenses⟩, ⟨hroots, hothers⟩, ⟨hfresh, hrest⟩, rfl, rfl⟩
    · rintro ⟨⟨hlicense, hlicenses⟩, ⟨hroots, hothers⟩, ⟨hfresh, hrest⟩, rfl, rfl⟩
      exact ⟨_, _, _, ⟨hlicense, hroots, hfresh, rfl, rfl⟩,
        ⟨hlicenses, hothers, hrest, rfl, rfl⟩, rfl⟩

/-- Licenses that are not read have an element in them that is not accepted, and the fault is that
of the latter. Assumes: licenses by their attributes and with one element each, and no identifier
that is declared twice. -/
theorem exists_refused_of_raises_licenses (hlicenses : ∀ node ∈ nodes, node.HoldsLicense)
    (hraises : Raises (readEachLicense nodes) reader fault reader')
    (hnodup : (reader.declaredIds ++ nodes.flatMap Node.heldIds).Nodup) :
    ∃ element ∈ nodes.flatMap fun node ↦ node.roots.flatMap Node.elements,
      element.accepted reader.kinds = .error fault := by
  induction nodes generalizing reader with
  | nil => exact absurd hraises not_raises_pure
  | cons node rest ih =>
    rw [List.flatMap_cons, ← List.append_assoc] at hnodup
    rw [List.forall_mem_cons] at hlicenses
    rw [List.flatMap_cons]
    rcases raises_readEachLicense_cons_iff.mp hraises with hnode | ⟨draft, middle, hnode, hrest⟩
    · obtain ⟨hoptions, root, hroots⟩ := hlicenses.1
      have hfree := hnodup.of_append_left
      rw [Node.heldIds, hroots, List.flatMap_singleton] at hfree
      rw [readLicense_eq hroots, raises_lift_bind_iff] at hnode
      rcases hnode with ⟨hrefused, _⟩ | ⟨_, _, hnode⟩
      · rw [checkLicense, checkAttributes_eq_ok_iff.mpr hoptions] at hrefused
        cases hrefused
      rcases raises_bind_iff.mp hnode with hroot | ⟨_, _, _, hpure⟩
      · obtain ⟨element, helement, hrefused⟩ := exists_refused_of_raises root hroot hfree
        rw [hroots, List.flatMap_singleton]
        exact ⟨element, List.mem_append_left _ helement, hrefused⟩
      · exact absurd hpure not_raises_pure
    · obtain ⟨_, _, _, _, rfl⟩ := returns_draftIn_iff.mp hnode
      rw [← Node.heldIn_map_fst reader.kinds node, ← declaredIds_declaring] at hnodup
      obtain ⟨element, helement, hrefused⟩ := ih hlicenses.2 hrest hnodup
      exact ⟨element, List.mem_append_right _ helement, hrefused⟩

end Licenses

end Reader

end LicenseHeaders
