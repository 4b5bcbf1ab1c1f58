import LicenseHeaders.Proofs.Reader.Licenses

/-!
# Reading kinds of matchers

The declaration of a kind binds tags to the kind that goes by a name (`Node.Binds`). What goes by a
name depends on the catalogue, and loading a kind changes the catalogue but not what goes by any
name in it (`Catalogue.kind?_of_lookup`). A table takes bindings if it `Admits` them: no tag is
bound to two kinds, by the table and by the bindings taken together. Neither this nor what the table
binds afterwards depends on the order of the bindings.

`Reader.bound_of_returns_readEachKind` and `Reader.exists_returns_readEachKind` say this of reading
declarations. Where reading fails, the reader is `Reader.Later`: what was bound stays bound, and the
same kinds go by the same names (`Reader.keeps_later_readEachKind`). So a pass over the kinds that
has failed fails again (`Reader.raises_readKinds_again`), and one that has returned has nothing more
to do (`Reader.drop_kindsRead_of_returns_readKinds`).
-/

set_option autoImplicit false
set_option relaxedAutoImplicit false

namespace LicenseHeaders

/-! ### What goes by a name -/

namespace Catalogue

/-- The kind that goes by a name, also if it is still to be loaded. -/
def kind? (catalogue : Catalogue) (name : String) : Option Kind :=
  (catalogue.lookup name).1.toOption.map (·.1)

theorem kind?_eq (catalogue : Catalogue) (name : String) :
    catalogue.kind? name =
      ((Kind.builtIn? name).or (catalogue.plugins.lookup name)).or
        ((catalogue.entryPoints.find? fun entry ↦ entry.name == name).bind
          (·.factory.toOption)) := by
  rw [kind?, lookup, Option.orElse_eq_or]
  cases (Kind.builtIn? name).or (catalogue.plugins.lookup name) with
  | some kind => rfl
  | none =>
    cases catalogue.entryPoints.find? fun entry ↦ entry.name == name with
    | none => rfl
    | some entry =>
      obtain ⟨_, _, factory⟩ := entry
      cases factory <;> rfl

/-- A kind that is found goes by its name, and the same kinds as before go by all names. -/
theorem kind?_of_lookup {catalogue after : Catalogue} {name : String} {kind : Kind}
    (hlookup : (catalogue.lookup name).1 = .ok (kind, after)) :
    catalogue.kind? name = some kind ∧ after.kind? = catalogue.kind? := by
  have hkind : catalogue.kind? name = some kind := by
    rw [kind?, hlookup]
    rfl
  refine ⟨hkind, funext fun other ↦ ?_⟩
  have hafter : after = catalogue ∨
      (Kind.builtIn? name).or (catalogue.plugins.lookup name) = none ∧
        after = { catalogue with plugins := (name, kind) :: catalogue.plugins } := by
    rw [lookup] at hlookup
    split at hlookup
    · cases hlookup
      exact .inl rfl
    · next hunknown =>
      split at hlookup
      · cases hlookup
      · split at hlookup
        · cases hlookup
        · cases hlookup
          refine .inr ⟨?_, rfl⟩
          rw [← hunknown]
          cases Kind.builtIn? name <;> rfl
  rcases hafter with rfl | ⟨hunknown, rfl⟩
  · rfl
  · -- Only what goes by the loaded name is found elsewhere now.
    rw [kind?_eq, kind?_eq, List.lookup_cons]
    by_cases hother : other = name
    · subst hother
      rw [kind?_eq, hunknown, Option.none_or] at hkind
      rw [Option.or_eq_none_iff] at hunknown
      rw [hunknown.1, hunknown.2, hkind]
      simp
    · rw [beq_false_of_ne hother]

end Catalogue

/-! ### Binding tags -/

namespace KindTable

/-- No tag is bound to two kinds, by a table and by bindings that are to join it. -/
def Admits (table : KindTable) (bindings : List (String × Kind)) : Prop :=
  ∀ tag kind, (tag, kind) ∈ bindings →
    ∀ other, table.lookup tag = some other ∨ (tag, other) ∈ bindings → other = kind

/-- A table binds what another one does, and bindings besides. -/
def Joins (table : KindTable) (bindings : List (String × Kind)) (joined : KindTable) : Prop :=
  ∀ tag kind, joined.lookup tag = some kind ↔
    table.lookup tag = some kind ∨ (tag, kind) ∈ bindings

variable {table middle joined : KindTable} {first second : List (String × Kind)}

theorem joins_nil (table : KindTable) : table.Joins [] table :=
  fun _ _ ↦ by simp

theorem Joins.append (hfirst : table.Joins first middle) (hsecond : middle.Joins second joined) :
    table.Joins (first ++ second) joined := by
  intro tag kind
  rw [hsecond tag kind, hfirst tag kind, List.mem_append, or_assoc]

theorem Admits.of_append_left (hadmits : table.Admits (first ++ second)) : table.Admits first :=
  fun tag kind hmem other hother ↦ hadmits tag kind (List.mem_append_left second hmem) other
    (hother.imp_right (List.mem_append_left second))

/-- Bindings are admitted if they are so one after the other. -/
theorem admits_append_iff (hfirst : table.Joins first middle) :
    table.Admits (first ++ second) ↔ table.Admits first ∧ middle.Admits second := by
  constructor
  · intro hadmits
    refine ⟨hadmits.of_append_left, fun tag kind hmem other hother ↦ ?_⟩
    refine hadmits tag kind (List.mem_append_right first hmem) other ?_
    rw [hfirst tag other] at hother
    rw [List.mem_append, ← or_assoc]
    exact hother
  · rintro ⟨hadmitsFirst, hadmitsSecond⟩ tag kind hmem other hother
    rw [List.mem_append, ← or_assoc, ← hfirst tag other] at hother
    rcases List.mem_append.mp hmem with hmem | hmem
    · rcases hother with hother | hother
      · exact hadmitsFirst tag kind hmem other ((hfirst tag other).mp hother)
      · have hbound : middle.lookup tag = some kind := (hfirst tag kind).mpr (.inr hmem)
        exact (hadmitsSecond tag other hother kind (.inl hbound)).symm
    · exact hadmitsSecond tag kind hmem other hother

/-- Bindings are admitted in any order. -/
theorem Admits.perm (hadmits : table.Admits first) (hperm : first.Perm second) :
    table.Admits second := by
  intro tag kind hmem other hother
  rw [← hperm.mem_iff] at hmem hother
  exact hadmits tag kind hmem other hother

/-- Where less is bound, more is admitted. -/
theorem Admits.anti (hadmits : joined.Admits first)
    (hless : ∀ tag kind, table.lookup tag = some kind → joined.lookup tag = some kind) :
    table.Admits first :=
  fun tag kind hmem other hother ↦ hadmits tag kind hmem other (hother.imp_left (hless tag other))

/-- A tag is bound if the table admits its binding. -/
theorem exists_register_iff {tag : String} {kind : Kind} :
    (∃ joined, table.register tag kind = .ok joined) ↔ table.Admits [(tag, kind)] := by
  have hadmits : table.Admits [(tag, kind)] ↔
      ∀ other, table.lookup tag = some other → other = kind := by
    simp only [Admits, List.mem_singleton, Prod.mk.injEq, and_imp, forall_eq_apply_imp_iff,
      forall_eq, true_and]
    exact forall_congr' fun other ↦ ⟨fun h hother ↦ h (.inl hother), fun h hother ↦
      hother.elim h id⟩
  rw [hadmits, register]
  cases table.lookup tag with
  | none => exact ⟨fun _ ↦ nofun, fun _ ↦ ⟨_, rfl⟩⟩
  | some bound =>
    dsimp only
    by_cases hsame : bound = kind
    · rw [if_pos hsame]
      exact ⟨fun _ other hother ↦ Option.some.inj hother ▸ hsame, fun _ ↦ ⟨table, rfl⟩⟩
    · rw [if_neg hsame]
      exact ⟨nofun, fun h ↦ absurd (h bound rfl) hsame⟩

theorem joins_of_register {tag : String} {kind : Kind}
    (hregister : table.register tag kind = .ok joined) : table.Joins [(tag, kind)] joined := by
  intro other bound
  rw [register] at hregister
  rw [List.mem_singleton, Prod.mk.injEq]
  rcases hlookup : table.lookup tag with _ | same
  · rw [hlookup] at hregister
    cases hregister
    rw [lookup_concat_iff]
    refine or_congr_right ⟨fun h ↦ h.2, fun hnew ↦ ⟨?_, hnew⟩⟩
    rw [hnew.1, hlookup]
  · rw [hlookup] at hregister
    dsimp only at hregister
    split_ifs at hregister with hsame
    cases hregister
    subst hsame
    constructor
    · exact .inl
    · rintro (hbound | ⟨rfl, rfl⟩)
      · exact hbound
      · exact hlookup

end KindTable

/-! ### Reading declarations of kinds -/

/-- The tags that the declaration of a kind binds: the name of the kind, and the name that is given
beside. -/
def Node.boundTags (node : Node) (name : String) : List String :=
  name :: ((unlessBlank (node.get? "name")).filter (· != name)).toList

/-- The declaration of a kind binds tags to the kind that goes by the name in it. -/
structure Node.Binds (kind? : String → Option Kind) (node : Node)
    (bindings : List (String × Kind)) : Prop where
  options : ∀ name ∈ node.names, name ∈ ["factory", "name"]
  bindings : ∃ name kind, unlessBlank (node.get? "factory") = some name ∧
    kind? name = some kind ∧ bindings = (node.boundTags name).map fun tag ↦ (tag, kind)

namespace Reader

/-- What was bound stays bound, and the same kinds go by the same names. Nothing else of the reader
has changed. -/
structure Later (before after : Reader) : Prop where
  kinds : ∀ tag kind, before.kinds.lookup tag = some kind → after.kinds.lookup tag = some kind
  catalogue : after.catalogue.kind? = before.catalogue.kind?
  rest : after = { before with
    catalogue := after.catalogue, kinds := after.kinds, events := after.events }

/-- A reader has taken up bindings. -/
structure Bound (before : Reader) (bindings : List (String × Kind)) (after : Reader) : Prop
    extends Later before after where
  admits : before.kinds.Admits bindings
  joins : before.kinds.Joins bindings after.kinds

section Binding

variable {reader middle reader' : Reader} {first second bindings : List (String × Kind)}

theorem Later.refl (reader : Reader) : reader.Later reader :=
  ⟨fun _ _ ↦ id, rfl, rfl⟩

theorem Later.trans (hfirst : reader.Later middle) (hsecond : middle.Later reader') :
    reader.Later reader' := by
  refine ⟨fun tag kind hbound ↦ hsecond.kinds tag kind (hfirst.kinds tag kind hbound),
    hsecond.catalogue.trans hfirst.catalogue, ?_⟩
  rw [hsecond.rest, hfirst.rest]

theorem bound_nil (reader : Reader) : reader.Bound [] reader :=
  ⟨Later.refl reader, nofun, KindTable.joins_nil reader.kinds⟩

theorem Bound.append (hfirst : reader.Bound first middle) (hsecond : middle.Bound second reader') :
    reader.Bound (first ++ second) reader' :=
  ⟨hfirst.toLater.trans hsecond.toLater,
    (KindTable.admits_append_iff hfirst.joins).mpr ⟨hfirst.admits, hsecond.admits⟩,
    hfirst.joins.append hsecond.joins⟩

/-- A tag is bound before the others, and where it cannot be bound, nothing is changed. -/
theorem run_bindTags_cons (node : Node) (name tag : String) (kind : Kind) (rest : List String)
    (reader : Reader) :
    (bindTags node name kind (tag :: rest)).run.run reader =
      match reader.kinds.register tag kind with
      | .error fault => (.error fault, reader)
      | .ok kinds => (bindTags node name kind rest).run.run
          { reader with
            kinds, events := reader.events ++ [.kindRegistered tag name node.source] } := by
  rw [bindTags, run_get_bind, run_bind, run_lift]
  cases reader.kinds.register tag kind with
  | error fault => rfl
  | ok kinds => rfl

theorem keeps_later_bindTags (node : Node) (name : String) (kind : Kind) (tags : List String) :
    Keeps reader.Later (bindTags node name kind tags) := by
  induction tags with
  | nil => exact fun _ hbefore ↦ hbefore
  | cons tag rest ih =>
    intro before hbefore
    rw [run_bindTags_cons]
    cases hregister : before.kinds.register tag kind with
    | error fault => exact hbefore
    | ok kinds =>
      refine ih _ (hbefore.trans ⟨fun other bound hbound ↦ ?_, rfl, rfl⟩)
      exact (KindTable.joins_of_register hregister other bound).mpr (.inl hbound)

theorem bound_of_returns_bindTags {node : Node} {name : String} {kind : Kind} {tags : List String}
    (hreturns : Returns (bindTags node name kind tags) reader () reader') :
    reader.Bound (tags.map fun tag ↦ (tag, kind)) reader' := by
  induction tags generalizing reader with
  | nil =>
    obtain ⟨_, rfl⟩ := returns_pure_iff.mp hreturns
    exact bound_nil reader'
  | cons tag rest ih =>
    rw [Returns, run_bindTags_cons] at hreturns
    cases hregister : reader.kinds.register tag kind with
    | error fault =>
      rw [hregister] at hreturns
      cases hreturns
    | ok kinds =>
      rw [hregister] at hreturns
      have hadmits := KindTable.exists_register_iff.mp ⟨kinds, hregister⟩
      have hjoins := KindTable.joins_of_register hregister
      have hfirst : reader.Bound [(tag, kind)] { reader with
          kinds, events := reader.events ++ [.kindRegistered tag name node.source] } :=
        ⟨⟨fun other bound hbound ↦ (hjoins other bound).mpr (.inl hbound), rfl, rfl⟩,
          hadmits, hjoins⟩
      exact hfirst.append (ih hreturns)

theorem exists_returns_bindTags {node : Node} {name : String} {kind : Kind} {tags : List String}
    (hadmits : reader.kinds.Admits (tags.map fun tag ↦ (tag, kind))) :
    ∃ reader', Returns (bindTags node name kind tags) reader () reader' := by
  induction tags generalizing reader with
  | nil => exact ⟨reader, returns_pure_iff.mpr ⟨rfl, rfl⟩⟩
  | cons tag rest ih =>
    rw [List.map_cons, ← List.singleton_append] at hadmits
    obtain ⟨kinds, hregister⟩ := KindTable.exists_register_iff.mpr hadmits.of_append_left
    have hjoins := KindTable.joins_of_register hregister
    have hrest := ((KindTable.admits_append_iff hjoins).mp hadmits).2
    obtain ⟨reader', hreturns⟩ := @ih { reader with
      kinds, events := reader.events ++ [.kindRegistered tag name node.source] } hrest
    refine ⟨reader', ?_⟩
    rw [Returns, run_bindTags_cons, hregister]
    exact hreturns

/-- A kind is found if one goes by its name. -/
theorem run_kindNamed (node : Node) (name : String) (reader : Reader) :
    (kindNamed node name).run.run reader =
      match reader.catalogue.lookup name with
      | (.ok (kind, catalogue), events) =>
        (.ok kind, { reader with catalogue, events := reader.events ++ events })
      | (.error fault, events) =>
        (.error (match fault with
          | .configuration error => .of error.cause node.source node.tag
          | fault => fault), { reader with events := reader.events ++ events }) := by
  rw [kindNamed, run_get_bind]
  rcases reader.catalogue.lookup name with ⟨fault | ⟨kind, catalogue⟩, events⟩
  · cases fault <;> rfl
  · rfl

/-- Nothing is bound while a kind is looked for. -/
theorem bound_kindNamed (node : Node) (name : String) (reader : Reader) :
    reader.Bound [] ((kindNamed node name).run.run reader).2 := by
  rw [run_kindNamed]
  rcases hlookup : reader.catalogue.lookup name with ⟨fault | ⟨kind, catalogue⟩, events⟩
  · exact ⟨⟨fun _ _ ↦ id, rfl, rfl⟩, nofun, KindTable.joins_nil reader.kinds⟩
  · have hkinds := (Catalogue.kind?_of_lookup (congrArg Prod.fst hlookup)).2
    exact ⟨⟨fun _ _ ↦ id, hkinds, rfl⟩, nofun, KindTable.joins_nil reader.kinds⟩

theorem kindNamed_eq_ok_iff {node : Node} {name : String} {kind : Kind} :
    ((kindNamed node name).run.run reader).1 = .ok kind ↔
      reader.catalogue.kind? name = some kind := by
  rw [run_kindNamed, Catalogue.kind?]
  rcases reader.catalogue.lookup name with ⟨fault | ⟨found, catalogue⟩, events⟩
  · exact ⟨nofun, nofun⟩
  · simp [Except.toOption]

/-- A kind is found if one goes by its name, and nothing is bound on the way. -/
theorem exists_returns_kindNamed_iff {node : Node} {name : String} {kind : Kind} :
    (∃ middle, Returns (kindNamed node name) reader kind middle ∧ reader.Bound [] middle) ↔
      reader.catalogue.kind? name = some kind := by
  have hbound := bound_kindNamed node name reader
  rw [← kindNamed_eq_ok_iff]
  constructor
  · rintro ⟨middle, hreturns, _⟩
    exact congrArg Prod.fst hreturns
  · intro hfound
    exact ⟨_, Prod.ext hfound rfl, hbound⟩

theorem keeps_later_readKind (node : Node) : Keeps reader.Later (readKind node) := by
  rw [readKind]
  refine keeps_bind (keeps_lift _) fun _ ↦ keeps_bind (keeps_lift _) fun name ↦ ?_
  refine keeps_bind (fun before hbefore ↦ ?_) fun kind ↦ keeps_later_bindTags node name kind _
  exact hbefore.trans (bound_kindNamed node name before).toLater

/-- What is read from a declaration are the bindings that are written in it, and the reader takes
them up. -/
theorem bound_of_returns_readKind {node : Node}
    (hreturns : Returns (readKind node) reader () reader') :
    ∃ bindings, node.Binds reader.catalogue.kind? bindings ∧ reader.Bound bindings reader' := by
  rw [readKind, returns_lift_bind_iff] at hreturns
  obtain ⟨_, hcheck, hreturns⟩ := hreturns
  obtain ⟨name, hname, hreturns⟩ := returns_lift_bind_iff.mp hreturns
  obtain ⟨kind, middle, hkind, hreturns⟩ := returns_bind_iff.mp hreturns
  have hmiddle : reader.Bound [] middle := by
    have hbound := bound_kindNamed node name reader
    rw [congrArg Prod.snd hkind] at hbound
    exact hbound
  have hfound := exists_returns_kindNamed_iff.mp ⟨middle, hkind, hmiddle⟩
  exact ⟨_, ⟨checkAttributes_eq_ok_iff.mp hcheck, name, kind, required_eq_ok_iff.mp hname, hfound,
    rfl⟩, hmiddle.append (bound_of_returns_bindTags hreturns)⟩

theorem exists_returns_readKind {node : Node} (hbinds : node.Binds reader.catalogue.kind? bindings)
    (hadmits : reader.kinds.Admits bindings) :
    ∃ reader', Returns (readKind node) reader () reader' ∧ reader.Bound bindings reader' := by
  obtain ⟨hoptions, name, kind, hname, hfound, rfl⟩ := hbinds
  obtain ⟨middle, hkind, hmiddle⟩ := exists_returns_kindNamed_iff.mpr hfound
  have hrest : middle.kinds.Admits ((node.boundTags name).map fun tag ↦ (tag, kind)) :=
    ((KindTable.admits_append_iff hmiddle.joins).mp hadmits).2
  obtain ⟨reader', hreturns⟩ := exists_returns_bindTags hrest
  refine ⟨reader', ?_, hmiddle.append (bound_of_returns_bindTags hreturns)⟩
  exact returns_lift_bind_iff.mpr ⟨(), checkAttributes_eq_ok_iff.mpr hoptions,
    returns_lift_bind_iff.mpr ⟨name, required_eq_ok_iff.mpr hname,
      returns_bind_iff.mpr ⟨kind, middle, hkind, hreturns⟩⟩⟩

theorem keeps_later_readEachKind (nodes : List Node) :
    Keeps reader.Later (readEachKind nodes) := by
  induction nodes with
  | nil => exact fun _ hbefore ↦ hbefore
  | cons node rest ih => exact keeps_bind (keeps_later_readKind node) fun _ ↦ ih

/-- Declarations of kinds are read if each of them binds tags and the reader admits all their
bindings. -/
theorem bound_of_returns_readEachKind {nodes : List Node}
    (hreturns : Returns (readEachKind nodes) reader () reader') :
    ∃ parts, List.Forall₂ (Node.Binds reader.catalogue.kind?) nodes parts ∧
      reader.Bound parts.flatten reader' := by
  induction nodes generalizing reader with
  | nil =>
    obtain ⟨_, rfl⟩ := returns_pure_iff.mp hreturns
    exact ⟨[], .nil, bound_nil reader'⟩
  | cons node rest ih =>
    obtain ⟨_, middle, hnode, hrest⟩ := returns_bind_iff.mp hreturns
    obtain ⟨bindings, hbinds, hmiddle⟩ := bound_of_returns_readKind hnode
    obtain ⟨parts, hparts, hreader⟩ := ih hrest
    rw [hmiddle.catalogue] at hparts
    exact ⟨bindings :: parts, .cons hbinds hparts, hmiddle.append hreader⟩

theorem exists_returns_readEachKind {kind? : String → Option Kind} {nodes : List Node}
    {parts : List (List (String × Kind))} (hparts : List.Forall₂ (Node.Binds kind?) nodes parts)
    (hkinds : reader.catalogue.kind? = kind?) (hadmits : reader.kinds.Admits parts.flatten) :
    ∃ reader', Returns (readEachKind nodes) reader () reader' ∧
      reader.Bound parts.flatten reader' := by
  induction hparts generalizing reader with
  | nil => exact ⟨reader, returns_pure_iff.mpr ⟨rfl, rfl⟩, bound_nil reader⟩
  | @cons node bindings rest parts hbinds _ ih =>
    rw [List.flatten_cons] at hadmits
    obtain ⟨middle, hnode, hmiddle⟩ :=
      exists_returns_readKind (hkinds ▸ hbinds) hadmits.of_append_left
    obtain ⟨reader', hrest, hreader⟩ := ih (hmiddle.catalogue.trans hkinds)
      ((KindTable.admits_append_iff hmiddle.joins).mp hadmits).2
    exact ⟨reader', returns_bind_iff.mpr ⟨(), middle, hnode, hrest⟩, hmiddle.append hreader⟩

end Binding

/-! ### The pass over the kinds -/

/-- Nothing of a reader has changed but what it knows of kinds. -/
structure Unmoved (before after : Reader) : Prop where
  identifiers : after.identifiers = before.identifiers
  document : after.document = before.document
  licenses : after.licenses = before.licenses
  approved : after.approved = before.approved

section Pass

variable {reader middle reader' : Reader} {document : Document} {fault : Fault}

theorem Unmoved.refl (reader : Reader) : reader.Unmoved reader :=
  ⟨rfl, rfl, rfl, rfl⟩

theorem Unmoved.trans (hfirst : reader.Unmoved middle) (hsecond : middle.Unmoved reader') :
    reader.Unmoved reader' :=
  ⟨hsecond.identifiers.trans hfirst.identifiers, hsecond.document.trans hfirst.document,
    hsecond.licenses.trans hfirst.licenses, hsecond.approved.trans hfirst.approved⟩

theorem Later.unmoved (hlater : reader.Later reader') : reader.Unmoved reader' := by
  rw [hlater.rest]
  exact ⟨rfl, rfl, rfl, rfl⟩

theorem keeps_unmoved_readKinds (start : Reader) : Keeps start.Unmoved readKinds := by
  intro before hbefore
  rw [readKinds, run_get_bind]
  cases before.document with
  | none => exact hbefore
  | some document =>
    refine keeps_bind (fun middle hmiddle ↦ ?_) (fun _ middle hmiddle ↦ ?_) before hbefore
    · exact hmiddle.trans (keeps_later_readEachKind _ middle (Later.refl middle)).unmoved
    · exact ⟨hmiddle.identifiers, hmiddle.document, hmiddle.licenses, hmiddle.approved⟩

/-- The kinds of a document that have been read are not read again. -/
theorem drop_kindsRead_of_returns_readKinds (hdocument : reader.document = some document)
    (hreturns : Returns readKinds reader () reader') :
    document.matchers.drop reader'.kindsRead = [] := by
  obtain ⟨later, hread, rfl⟩ := (returns_readKinds_iff hdocument).mp hreturns
  have hlater := (keeps_later_readEachKind _).of_returns (Later.refl reader) hread
  have hsame : later.kindsRead = reader.kindsRead := congrArg (·.kindsRead) hlater.rest
  rw [List.drop_eq_nil_iff, hsame, List.length_drop]
  show document.matchers.length ≤
    reader.kindsRead + (document.matchers.length - reader.kindsRead)
  omega

/-- Nothing happens if there are no kinds left to be read. -/
theorem returns_readKinds_of_drop_nil (hdocument : reader.document = some document)
    (hnone : document.matchers.drop reader.kindsRead = []) :
    Returns readKinds reader () reader := by
  rw [returns_readKinds_iff hdocument, hnone]
  exact ⟨reader, returns_pure_iff.mpr ⟨rfl, rfl⟩, rfl⟩

/-- Kinds that cannot be read cannot be read later. -/
theorem raises_readKinds_again (hdocument : reader.document = some document)
    (hraises : Raises readKinds reader fault reader') :
    ∃ cause last, Raises readKinds reader' cause last := by
  rcases returns_or_raises readKinds reader' with ⟨_, last, hreturns⟩ | hagain
  · exfalso
    have hread : Raises (readEachKind (document.matchers.drop reader.kindsRead)) reader fault
        reader' := by
      rw [readKinds, raises_get_bind_iff, hdocument] at hraises
      rcases raises_bind_iff.mp hraises with hread | ⟨_, _, _, hmodify⟩
      · exact hread
      · exact absurd hmodify not_raises_modify
    have hlater := (keeps_later_readEachKind _).of_raises (Later.refl reader) hread
    have hcount : reader'.kindsRead = reader.kindsRead := congrArg (·.kindsRead) hlater.rest
    have hsame : reader'.document = some document := hlater.unmoved.document.trans hdocument
    obtain ⟨_, hreread, _⟩ := (returns_readKinds_iff hsame).mp hreturns
    rw [hcount] at hreread
    -- What a later reader admits was admitted before.
    obtain ⟨parts, hparts, hbound⟩ := bound_of_returns_readEachKind hreread
    have hadmits := hbound.admits.anti hlater.kinds
    obtain ⟨other, hother, _⟩ := exists_returns_readEachKind hparts hlater.catalogue.symm hadmits
    cases hread.symm.trans hother
  · exact hagain

end Pass

end Reader

end LicenseHeaders
