import LicenseHeaders.Proofs.Reader.Licenses

/-!
# Steps that only declare

To read matchers is to declare what is identified among them. Whether this succeeds and what it
returns depends on the kinds that tags are bound to and on the identifiers that are taken, and on
nothing else of the reader. `Reader.Framed` says this of a step: whatever its outcome, it only adds
declarations to the reader, and where it succeeds, it does so for every reader with the same kinds
in which what it declares is `Reader.Fresh`, with the same result.

Steps that follow each other are framed if each of them is (`Reader.framed_bind`), and so reading
matchers and licenses is (`Reader.framed_readMatcher`, `Reader.framed_readLicense`). Licenses that
are read one after the other are therefore read each by itself (`Reader.ReadsAs`), and it only
remains that no identifier is declared twice (`Reader.returns_readEachLicense_of_reads` and
`Reader.reads_of_returns_readEachLicense`).
-/

set_option autoImplicit false
set_option relaxedAutoImplicit false

namespace LicenseHeaders

namespace Reader

/-! ### Free identifiers -/

/-- Declarations that a reader can take up: no identifier is taken and none is declared twice. -/
structure Fresh (reader : Reader) (added : List (String × Builder)) : Prop where
  nodup : (added.map (·.1)).Nodup
  free : ∀ id ∈ added.map (·.1), id ∉ reader.declaredIds

/-- Two readers bind the same tags to the same kinds. -/
def SameKinds (reader other : Reader) : Prop :=
  ∀ tag, other.kinds.lookup tag = reader.kinds.lookup tag

section Fresh

variable {reader other : Reader} {first second added : List (String × Builder)}

theorem fresh_nil (reader : Reader) : reader.Fresh [] :=
  ⟨List.nodup_nil, List.forall_mem_nil _⟩

/-- Where nothing has been declared, declarations are fresh if none of them is a second one. -/
theorem fresh_of_new (hnone : reader.identifiers = {}) (hnodup : (added.map (·.1)).Nodup) :
    reader.Fresh added := by
  refine ⟨hnodup, ?_⟩
  rw [declaredIds, hnone]
  exact fun _ _ ↦ List.not_mem_nil

theorem identifiers_declaring_of_new (hnone : reader.identifiers = {})
    (added : List (String × Builder)) :
    (reader.declaring added).identifiers = { builders := added } := by
  rw [declaring, hnone]
  rfl

/-- Declarations are fresh if they are so one after the other. -/
theorem fresh_append_iff :
    reader.Fresh (first ++ second) ↔
      reader.Fresh first ∧ (reader.declaring first).Fresh second := by
  have hdeclared (id : String) : id ∈ (reader.declaring first).declaredIds ↔
      id ∈ reader.declaredIds ∨ id ∈ first.map (·.1) := by
    rw [declaredIds_declaring, List.mem_append]
  constructor
  · rintro ⟨hnodup, hfree⟩
    rw [List.map_append] at hnodup hfree
    refine ⟨⟨hnodup.of_append_left, fun id hid ↦ hfree id (List.mem_append_left _ hid)⟩,
      hnodup.of_append_right, fun id hid ↦ ?_⟩
    rw [hdeclared]
    rintro (htaken | htaken)
    · exact hfree id (List.mem_append_right _ hid) htaken
    · exact List.disjoint_of_nodup_append hnodup htaken hid
  · rintro ⟨hfirst, hnodup, hfree⟩
    refine ⟨?_, fun id hid ↦ ?_⟩
    · rw [List.map_append]
      refine List.Nodup.append hfirst.nodup hnodup fun id hid htaken ↦ ?_
      exact hfree id htaken ((hdeclared id).mpr (.inr hid))
    · rw [List.map_append, List.mem_append] at hid
      rcases hid with hid | hid
      · exact hfirst.free id hid
      · exact fun htaken ↦ hfree id hid ((hdeclared id).mpr (.inl htaken))

/-- Where fewer identifiers are taken, more is fresh. -/
theorem Fresh.anti (hfresh : reader.Fresh added)
    (hfewer : ∀ id ∈ other.declaredIds, id ∈ reader.declaredIds) : other.Fresh added :=
  ⟨hfresh.nodup, fun id hid htaken ↦ hfresh.free id hid (hfewer id htaken)⟩

/-- Declarations are fresh in any order. -/
theorem Fresh.perm (hfresh : reader.Fresh first) (hperm : first.Perm second) :
    reader.Fresh second := by
  have hids := hperm.map (·.1)
  exact ⟨hids.nodup_iff.mp hfresh.nodup, fun id hid ↦ hfresh.free id (hids.mem_iff.mpr hid)⟩

theorem declaring_injective (hequal : reader.declaring first = reader.declaring second) :
    first = second := by
  have hbuilders := congrArg (·.identifiers.builders) hequal
  exact List.append_cancel_left hbuilders

end Fresh

/-! ### Framed steps -/

/-- A step only declares, and what it does besides depends on nothing but kinds. -/
structure Framed {Value : Type} (step : Reading Value) : Prop where
  /-- Also where it fails, a step only adds declarations. -/
  adds : ∀ reader, ∃ added, (step.run.run reader).2 = reader.declaring added
  /-- Where a step succeeds, it succeeds for every reader that can take up what it declares. -/
  transports : ∀ reader value added, Returns step reader value (reader.declaring added) →
    reader.Fresh added ∧ ∀ other, reader.SameKinds other → other.Fresh added →
      Returns step other value (other.declaring added)

section Framed

variable {Value Result : Type}

theorem Framed.of_returns {step : Reading Value} (hframed : Framed step) {reader reader' : Reader}
    {value : Value} (hreturns : Returns step reader value reader') :
    ∃ added, reader' = reader.declaring added ∧ reader.Fresh added ∧
      ∀ other, reader.SameKinds other → other.Fresh added →
        Returns step other value (other.declaring added) := by
  obtain ⟨added, hadded⟩ := hframed.adds reader
  have hstate : reader' = reader.declaring added := (congrArg Prod.snd hreturns).symm.trans hadded
  subst hstate
  exact ⟨added, rfl, hframed.transports reader value added hreturns⟩

theorem Framed.of_raises {step : Reading Value} (hframed : Framed step) {reader reader' : Reader}
    {fault : Fault} (hraises : Raises step reader fault reader') :
    ∃ added, reader' = reader.declaring added := by
  obtain ⟨added, hadded⟩ := hframed.adds reader
  exact ⟨added, (congrArg Prod.snd hraises).symm.trans hadded⟩

/-- A step that leaves the reader alone is framed if its result only depends on kinds. -/
theorem framed_of_unchanged {step : Reading Value}
    (hunchanged : ∀ reader, (step.run.run reader).2 = reader)
    (hkinds : ∀ reader value other, Returns step reader value reader → reader.SameKinds other →
      Returns step other value other) : Framed step := by
  refine ⟨fun reader ↦ ⟨[], ?_⟩, fun reader value added hreturns ↦ ?_⟩
  · rw [hunchanged, declaring_nil]
  · have hsame : reader.declaring added = reader.declaring [] := by
      rw [declaring_nil]
      exact (congrArg Prod.snd hreturns).symm.trans (hunchanged reader)
    obtain rfl := declaring_injective hsame
    rw [declaring_nil] at hreturns
    refine ⟨fresh_nil reader, fun other hother _ ↦ ?_⟩
    rw [declaring_nil]
    exact hkinds reader value other hreturns hother

theorem framed_pure (value : Value) : Framed (pure value) := by
  refine framed_of_unchanged (fun _ ↦ rfl) fun reader result other hreturns _ ↦ ?_
  exact returns_pure_iff.mpr ⟨(returns_pure_iff.mp hreturns).1, rfl⟩

theorem framed_throw (fault : Fault) : Framed (throw fault : Reading Value) :=
  framed_of_unchanged (fun _ ↦ rfl) fun _ _ _ hreturns _ ↦ absurd hreturns not_returns_throw

theorem framed_lift (result : Except Fault Value) : Framed (liftM result : Reading Value) := by
  cases result with
  | ok value => exact framed_pure value
  | error fault => exact framed_throw fault

theorem framed_bind {step : Reading Value} {next : Value → Reading Result} (hstep : Framed step)
    (hnext : ∀ value, Framed (next value)) : Framed (step >>= next) := by
  refine ⟨fun reader ↦ ?_, fun reader result added hreturns ↦ ?_⟩
  · rw [run_bind]
    obtain ⟨first, hfirst⟩ := hstep.adds reader
    rcases hrun : step.run.run reader with ⟨fault | value, middle⟩
    · exact ⟨first, (congrArg Prod.snd hrun).symm.trans hfirst⟩
    · obtain rfl : middle = reader.declaring first :=
        (congrArg Prod.snd hrun).symm.trans hfirst
      obtain ⟨second, hsecond⟩ := (hnext value).adds (reader.declaring first)
      exact ⟨first ++ second, hsecond.trans (declaring_declaring ..)⟩
  · obtain ⟨value, middle, hvalue, hresult⟩ := returns_bind_iff.mp hreturns
    obtain ⟨first, rfl, hfirst, hother⟩ := hstep.of_returns hvalue
    obtain ⟨second, hsplit, hsecond, hanother⟩ := (hnext value).of_returns hresult
    rw [declaring_declaring] at hsplit
    obtain rfl := declaring_injective hsplit
    refine ⟨fresh_append_iff.mpr ⟨hfirst, hsecond⟩, fun other hkinds hfresh ↦ ?_⟩
    obtain ⟨hfresh, hrest⟩ := fresh_append_iff.mp hfresh
    refine returns_bind_iff.mpr ⟨value, other.declaring first, hother other hkinds hfresh, ?_⟩
    have hreturns := hanother (other.declaring first) hkinds hrest
    rw [declaring_declaring] at hreturns
    exact hreturns

/-! ### Reading matchers and licenses -/

theorem framed_builderFor (tag source : String) :
    Framed (do (← get).kinds.builderFor tag source) := by
  refine framed_of_unchanged (fun reader ↦ ?_) fun reader builder other hreturns hkinds ↦ ?_
  · rw [run_get_bind, run_lift]
  · rw [returns_get_bind_iff, returns_lift_iff] at hreturns ⊢
    have hbuilder := hreturns.1
    refine ⟨?_, rfl⟩
    rw [KindTable.builderFor] at hbuilder ⊢
    rw [hkinds tag]
    cases hlookup : reader.kinds.lookup tag with
    | some kind =>
      rw [hlookup] at hbuilder
      exact hbuilder
    | none =>
      rw [hlookup] at hbuilder
      cases hbuilder

/-- The declaration of a builder is fresh if its identifier is not taken. -/
theorem fresh_own_iff {reader : Reader} {builder : Builder} :
    reader.Fresh (builder.id?.map fun id ↦ (id, builder)).toList ↔
      ∀ id, builder.id? = some id → id ∉ reader.declaredIds := by
  cases builder.id? with
  | none => exact ⟨fun _ ↦ nofun, fun _ ↦ fresh_nil reader⟩
  | some own =>
    constructor
    · rintro ⟨_, hfree⟩ id hid
      cases hid
      exact hfree own List.mem_cons_self
    · intro hfree
      refine ⟨List.nodup_singleton own, fun id hid ↦ ?_⟩
      exact hfree id (congrArg some (List.mem_singleton.mp hid).symm)

theorem framed_declare (source : String) (builder : Builder) : Framed (declare source builder) := by
  refine ⟨fun reader ↦ ?_, fun reader value added hreturns ↦ ?_⟩
  · rcases returns_or_raises (declare source builder) reader with
      ⟨standIn, after, hreturns⟩ | ⟨fault, after, hraises⟩
    · exact ⟨_, (congrArg Prod.snd hreturns).trans (returns_declare_iff.mp hreturns).2.2⟩
    · have hsame : after = reader := by
        rw [declare, raises_get_bind_iff, raises_bind_iff] at hraises
        rcases hraises with hrefused | ⟨_, _, _, hraises⟩
        · exact (raises_lift_iff.mp hrefused).2
        · rcases raises_bind_iff.mp hraises with hmodify | ⟨_, _, _, hpure⟩
          · exact absurd hmodify not_raises_modify
          · exact absurd hpure not_raises_pure
      refine ⟨[], ?_⟩
      rw [declaring_nil]
      exact (congrArg Prod.snd hraises).trans hsame
  · obtain ⟨hfree, rfl, hadded⟩ := returns_declare_iff.mp hreturns
    obtain rfl := declaring_injective hadded
    refine ⟨fresh_own_iff.mpr hfree, fun other _ hfresh ↦ ?_⟩
    exact returns_declare_iff.mpr ⟨fresh_own_iff.mp hfresh, rfl, rfl⟩

/-- Members that are read one after the other are framed if each of them is. -/
private theorem framed_readMatchers {nodes : List Node}
    (hnodes : ∀ node ∈ nodes, Framed (readMatcher node)) : Framed (readMatchers nodes) := by
  induction nodes with
  | nil => exact framed_pure []
  | cons node rest ih =>
    have hrest := ih fun other hother ↦ hnodes other (List.mem_cons_of_mem node hother)
    rw [readMatchers]
    exact framed_bind (hnodes node List.mem_cons_self) fun builder ↦
      framed_bind hrest fun builders ↦ framed_pure _

theorem framed_readMatcher (node : Node) : Framed (readMatcher node) := by
  induction node using Node.induction with
  | node tag attributes text children source ih =>
    have hmembers := framed_readMatchers ih
    rw [readMatcher, ← bind_assoc]
    refine framed_bind (framed_builderFor tag source) fun ofTag ↦ ?_
    refine framed_bind (framed_lift _) fun configured ↦ ?_
    split_ifs with hkind hchildren
    · refine framed_bind hmembers fun members ↦ framed_bind (framed_pure _) fun whole ↦ ?_
      exact framed_declare source _
    · exact framed_bind (framed_pure _) fun whole ↦ framed_declare source _
    · exact framed_bind (framed_throw _) fun whole ↦ framed_declare source _

theorem framed_readLicense (node : Node) : Framed (readLicense node) := by
  rw [readLicense]
  refine framed_bind (framed_lift _) fun _ ↦ ?_
  split
  · exact framed_bind (framed_readMatcher _) fun builder ↦ framed_pure _
  · exact framed_throw _

theorem framed_readEachLicense (nodes : List Node) : Framed (readEachLicense nodes) := by
  induction nodes with
  | nil => exact framed_pure []
  | cons node rest ih =>
    rw [readEachLicense]
    exact framed_bind (framed_readLicense node) fun draft ↦
      framed_bind ih fun drafts ↦ framed_pure _

end Framed

/-! ### Licenses one after the other -/

/-- What is read from the declaration of a license: a draft, and what is declared on the way. Every
reader with the same kinds reads this that can take up the declarations. -/
def ReadsAs (reader : Reader) (node : Node) (part : LicenseDraft × List (String × Builder)) :
    Prop :=
  ∀ other, reader.SameKinds other → other.Fresh part.2 →
    Returns (readLicense node) other part.1 (other.declaring part.2)

section Licenses

variable {reader other : Reader} {nodes : List Node}

/-- A draft that is read has a builder. -/
theorem root_of_returns_readLicense {reader' : Reader} {node : Node} {draft : LicenseDraft}
    (hreturns : Returns (readLicense node) reader draft reader') :
    ∃ builder, draft.root = some (.builder builder) := by
  rw [readLicense, returns_lift_bind_iff] at hreturns
  obtain ⟨_, _, hreturns⟩ := hreturns
  dsimp only at hreturns
  split at hreturns
  · obtain ⟨builder, _, _, hreturn⟩ := returns_bind_iff.mp hreturns
    obtain ⟨rfl, _⟩ := returns_pure_iff.mp hreturn
    exact ⟨builder, rfl⟩
  · exact absurd hreturns not_returns_throw

theorem roots_of_returns_readEachLicense {reader' : Reader} {drafts : List (Node × LicenseDraft)}
    (hreturns : Returns (readEachLicense nodes) reader drafts reader') :
    ∀ entry ∈ drafts, ∃ builder, entry.2.root = some (.builder builder) := by
  induction nodes generalizing reader reader' drafts with
  | nil =>
    obtain ⟨rfl, _⟩ := returns_pure_iff.mp hreturns
    exact List.forall_mem_nil _
  | cons node rest ih =>
    rw [readEachLicense] at hreturns
    obtain ⟨draft, middle, hdraft, hreturns⟩ := returns_bind_iff.mp hreturns
    obtain ⟨others, last, hrest, hreturns⟩ := returns_bind_iff.mp hreturns
    obtain ⟨rfl, _⟩ := returns_pure_iff.mp hreturns
    exact List.forall_mem_cons.mpr ⟨root_of_returns_readLicense hdraft, ih hrest⟩

/-- Licenses that are read are read each by itself. -/
theorem reads_of_returns_readEachLicense {reader' : Reader} {drafts : List (Node × LicenseDraft)}
    (hreturns : Returns (readEachLicense nodes) reader drafts reader') :
    ∃ parts, List.Forall₂ reader.ReadsAs nodes parts ∧
      drafts.map (·.2) = parts.map (·.1) ∧
      reader' = reader.declaring (parts.flatMap (·.2)) ∧ reader.Fresh (parts.flatMap (·.2)) := by
  induction nodes generalizing reader reader' drafts with
  | nil =>
    obtain ⟨rfl, rfl⟩ := returns_pure_iff.mp hreturns
    exact ⟨[], .nil, rfl, (declaring_nil reader').symm, fresh_nil reader'⟩
  | cons node rest ih =>
    rw [readEachLicense] at hreturns
    obtain ⟨draft, middle, hdraft, hreturns⟩ := returns_bind_iff.mp hreturns
    obtain ⟨others, last, hrest, hreturns⟩ := returns_bind_iff.mp hreturns
    obtain ⟨rfl, rfl⟩ := returns_pure_iff.mp hreturns
    obtain ⟨added, rfl, hadded, hreads⟩ := (framed_readLicense node).of_returns hdraft
    obtain ⟨parts, hparts, hdrafts, rfl, hfresh⟩ := ih hrest
    have hhead : reader.ReadsAs node (draft, added) := hreads
    refine ⟨(draft, added) :: parts, .cons hhead hparts, ?_, ?_, ?_⟩
    · rw [List.map_cons, List.map_cons, hdrafts]
    · rw [List.flatMap_cons, declaring_declaring]
    · exact fresh_append_iff.mpr ⟨hadded, hfresh⟩

/-- Licenses that are read each by itself are read one after the other by every reader with the same
kinds that can take up all that they declare. -/
theorem returns_readEachLicense_of_reads {parts : List (LicenseDraft × List (String × Builder))}
    (hparts : List.Forall₂ reader.ReadsAs nodes parts) (hkinds : reader.SameKinds other)
    (hfresh : other.Fresh (parts.flatMap (·.2))) :
    ∃ drafts, Returns (readEachLicense nodes) other drafts
        (other.declaring (parts.flatMap (·.2))) ∧
      drafts.map (·.2) = parts.map (·.1) := by
  induction hparts generalizing other with
  | nil =>
    rw [List.flatMap_nil, declaring_nil]
    exact ⟨[], returns_pure_iff.mpr ⟨rfl, rfl⟩, rfl⟩
  | @cons node part rest parts hhead _ ih =>
    rw [List.flatMap_cons, fresh_append_iff] at hfresh
    have hdraft := hhead other hkinds hfresh.1
    have hnext : reader.SameKinds (other.declaring part.2) := hkinds
    obtain ⟨drafts, hrest, hdrafts⟩ := ih hnext hfresh.2
    rw [declaring_declaring, ← List.flatMap_cons] at hrest
    refine ⟨(node, part.1) :: drafts, ?_, ?_⟩
    · rw [readEachLicense]
      exact returns_bind_iff.mpr ⟨part.1, _, hdraft,
        returns_bind_iff.mpr ⟨drafts, _, hrest, returns_pure_iff.mpr ⟨rfl, rfl⟩⟩⟩
    · rw [List.map_cons, List.map_cons, hdrafts]

end Licenses

end Reader

end LicenseHeaders
