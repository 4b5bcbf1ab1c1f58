import LicenseHeaders.Proofs.Reader.Kinds
import LicenseHeaders.Sample

/-!
# Names are not bound again

A catalogue knows kinds from three sources: those that are built in, those that were plugged in and
those that installed packages offer. Plugging in a kind asks the plugged-in kinds before the
built-in ones (`Catalogue.taken?`), and looking one up asks in the other order (`Catalogue.known?`)
and then the packages. The two orders agree while no built-in name is plugged in with another kind
(`Catalogue.known?_eq_taken?`).

`Catalogue.Takes` is what a successful call does, be it a registration or a look-up: the name is
taken by the kind already and nothing changes, or it is free and the kind is noted. Both keep the
catalogue consistent and no name changes hands (`Catalogue.Takes.consistent`,
`Catalogue.Takes.taken?_of_taken?`). The tags of a table are bound by the same rule
(`KindTable.joins_of_register`).

A `Registry` is a catalogue with a table of tags, and `Registry.call` is a call of either. What is
true after one call (`Registry.keeps_call`) is true after any number of them
(`Registry.keeps_afterCalls`), so a name or a tag that means a kind means it for good
(`Registry.meanings_stay`).
-/

set_option autoImplicit false
set_option relaxedAutoImplicit false

namespace LicenseHeaders

/-- A built-in kind goes by its own tag. -/
theorem Kind.builtIn?_tag : ∀ kind ∈ Kind.builtIn, Kind.builtIn? kind.tag = some kind := by
  decide

/-! ### The catalogue -/

namespace Catalogue

/-- The kind that a name is taken by, so that no other one can be plugged in under it. -/
def taken? (catalogue : Catalogue) (name : String) : Option Kind :=
  (catalogue.plugins.lookup name).or (Kind.builtIn? name)

/-- The kind that goes by a name without a package being loaded. -/
def known? (catalogue : Catalogue) (name : String) : Option Kind :=
  (Kind.builtIn? name).or (catalogue.plugins.lookup name)

/-- No built-in name is plugged in with another kind. -/
def Consistent (catalogue : Catalogue) : Prop :=
  ∀ name builtIn plugged, Kind.builtIn? name = some builtIn →
    catalogue.plugins.lookup name = some plugged → plugged = builtIn

/-- A name comes to be taken by a kind. -/
inductive Takes (catalogue : Catalogue) (name : String) (kind : Kind) : Catalogue → Prop where
  /-- The kind has the name already, and nothing changes. -/
  | already (htaken : catalogue.taken? name = some kind) : Takes catalogue name kind catalogue
  /-- The name is free, and the kind is noted under it. -/
  | newly (hfree : catalogue.taken? name = none) :
    Takes catalogue name kind { catalogue with plugins := (name, kind) :: catalogue.plugins }

variable {catalogue after : Catalogue} {name : String} {kind : Kind}

theorem taken?_cons (plugins : List (String × Kind)) (other : String) :
    ({ catalogue with plugins := (name, kind) :: plugins } : Catalogue).taken? other =
      if other = name then some kind
      else ({ catalogue with plugins } : Catalogue).taken? other := by
  rw [taken?, taken?, List.lookup_cons]
  by_cases hother : other = name
  · rw [beq_iff_eq.mpr hother, if_pos hother]
    rfl
  · rw [beq_false_of_ne hother, if_neg hother]

/-- A kind that is noted under a free name has it. -/
theorem Takes.taken?_eq (htakes : catalogue.Takes name kind after) :
    after.taken? name = some kind := by
  cases htakes with
  | already htaken => exact htaken
  | newly hfree => rw [taken?_cons, if_pos rfl]

/-- No name changes hands. -/
theorem Takes.taken?_of_taken? (htakes : catalogue.Takes name kind after) {other : String}
    {holder : Kind} (htaken : catalogue.taken? other = some holder) :
    after.taken? other = some holder := by
  cases htakes with
  | already _ => exact htaken
  | newly hfree =>
    have hother : other ≠ name := by
      rintro rfl
      cases hfree.symm.trans htaken
    rw [taken?_cons, if_neg hother]
    exact htaken

theorem Takes.consistent (htakes : catalogue.Takes name kind after)
    (hconsistent : catalogue.Consistent) : after.Consistent := by
  cases htakes with
  | already _ => exact hconsistent
  | newly hfree =>
    intro other builtIn plugged hbuiltIn hplugged
    rw [List.lookup_cons] at hplugged
    by_cases hother : other = name
    · -- A free name is not the name of a built-in kind.
      rw [hother] at hbuiltIn
      rw [taken?, hbuiltIn, Option.or_eq_none_iff] at hfree
      cases hfree.2
    · rw [beq_false_of_ne hother] at hplugged
      exact hconsistent other builtIn plugged hbuiltIn hplugged

/-! ### Plugging in -/

theorem register_fst (catalogue : Catalogue) (name : String) (kind : Kind) :
    (catalogue.register name kind).1 =
      match catalogue.taken? name with
      | some other => if other = kind then .ok catalogue else .error (.of (.pluginTaken name))
      | none => .ok { catalogue with plugins := (name, kind) :: catalogue.plugins } := by
  rw [register, Option.orElse_eq_or, ← taken?]
  cases catalogue.taken? name with
  | none => rfl
  | some other =>
    by_cases hsame : other = kind
    · simp only [if_pos hsame]
    · simp only [if_neg hsame]

theorem register_eq_ok_iff :
    (catalogue.register name kind).1 = .ok after ↔ catalogue.Takes name kind after := by
  rw [register_fst]
  cases htaken : catalogue.taken? name with
  | none =>
    constructor
    · rintro ⟨⟩
      exact .newly htaken
    · rintro (halready | _)
      · cases htaken.symm.trans halready
      · rfl
  | some other =>
    by_cases hsame : other = kind
    · simp only [if_pos hsame]
      constructor
      · rintro ⟨⟩
        exact .already (htaken.trans (congrArg some hsame))
      · rintro (_ | hfree)
        · rfl
        · cases htaken.symm.trans hfree
    · simp only [if_neg hsame]
      constructor
      · nofun
      · rintro (halready | hfree)
        · exact absurd (Option.some_inj.mp (htaken.symm.trans halready)) hsame
        · cases htaken.symm.trans hfree

/-- Under a taken name no other kind is plugged in. -/
theorem register_of_taken? {other : Kind} (htaken : catalogue.taken? name = some kind)
    (hother : other ≠ kind) :
    (catalogue.register name other).1 = .error (.of (.pluginTaken name)) := by
  rw [register_fst, htaken]
  exact if_neg (Ne.symm hother)

/-! ### Looking up -/

theorem lookup_of_known? (hknown : catalogue.known? name = some kind) :
    (catalogue.lookup name).1 = .ok (kind, catalogue) := by
  rw [lookup, Option.orElse_eq_or, ← known?, hknown]

/-- A look-up returns the kind that is known, or notes the one that it has loaded. -/
theorem lookup_cases (hlookup : (catalogue.lookup name).1 = .ok (kind, after)) :
    catalogue.known? name = some kind ∧ after = catalogue ∨
      catalogue.known? name = none ∧
        after = { catalogue with plugins := (name, kind) :: catalogue.plugins } := by
  cases hknown : catalogue.known? name with
  | some known =>
    rw [lookup_of_known? hknown] at hlookup
    cases hlookup
    exact .inl ⟨rfl, rfl⟩
  | none =>
    rw [lookup, Option.orElse_eq_or, ← known?, hknown] at hlookup
    dsimp only at hlookup
    split at hlookup
    · cases hlookup
    · split at hlookup
      · cases hlookup
      · cases hlookup
        exact .inr ⟨rfl, rfl⟩

/-- The two orders agree. -/
theorem known?_eq_taken? (hconsistent : catalogue.Consistent) (name : String) :
    catalogue.known? name = catalogue.taken? name := by
  rw [known?, taken?]
  cases hbuiltIn : Kind.builtIn? name with
  | none => rw [Option.none_or, Option.or_none]
  | some builtIn =>
    cases hplugged : catalogue.plugins.lookup name with
    | none => rfl
    | some plugged => rw [hconsistent name builtIn plugged hbuiltIn hplugged]

/-- A kind that is looked up has the name from then on, also if a package had to be loaded. -/
theorem takes_of_lookup (hconsistent : catalogue.Consistent)
    (hlookup : (catalogue.lookup name).1 = .ok (kind, after)) :
    catalogue.Takes name kind after := by
  have hsame := known?_eq_taken? hconsistent name
  rcases lookup_cases hlookup with ⟨hknown, rfl⟩ | ⟨hunknown, rfl⟩
  · exact .already (hsame.symm.trans hknown)
  · exact .newly (hsame.symm.trans hunknown)

end Catalogue

/-! ### The table of tags -/

namespace KindTable

variable {table : KindTable} {tag : String} {kind : Kind}

/-- A tag that is bound to a kind can be bound to it again, which changes nothing. -/
theorem register_of_lookup (hbound : table.lookup tag = some kind) :
    table.register tag kind = .ok table := by
  rw [register, hbound]
  exact if_pos rfl

/-- A tag that is bound to a kind is not bound to another one. -/
theorem register_of_lookup_of_ne {other : Kind} (hbound : table.lookup tag = some kind)
    (hother : other ≠ kind) : table.register tag other = .error (.of (.tagTaken tag) "" tag) := by
  rw [register, hbound]
  exact if_neg (Ne.symm hother)

end KindTable

/-! ### Calls of either -/

/-- The kinds that go by names, and the kinds that tags are bound to. -/
structure Registry where
  catalogue : Catalogue
  kinds : KindTable

namespace Registry

/-- A call of a registry. -/
inductive Call where
  /-- Plugs in a kind under a name. -/
  | plugIn (name : String) (kind : Kind)
  /-- Looks up the kind of a name. -/
  | look (name : String)
  /-- Binds a tag to a kind. -/
  | bind (tag : String) (kind : Kind)

/-- What a call returns or raises, and the registry afterwards. Only a look-up returns a kind. -/
def call (registry : Registry) : Call → Except Fault (Option Kind) × Registry
  | .plugIn name kind =>
    match (registry.catalogue.register name kind).1 with
    | .ok catalogue => (.ok none, { registry with catalogue })
    | .error fault => (.error fault, registry)
  | .look name =>
    match (registry.catalogue.lookup name).1 with
    | .ok (kind, catalogue) => (.ok (some kind), { registry with catalogue })
    | .error fault => (.error fault, registry)
  | .bind tag kind =>
    match registry.kinds.register tag kind with
    | .ok kinds => (.ok none, { registry with kinds })
    | .error fault => (.error fault, registry)

/-- A registry after calls in order. -/
def afterCalls (registry : Registry) (calls : List Call) : Registry :=
  calls.foldl (fun registry call ↦ (registry.call call).2) registry

variable {registry after : Registry} {name tag : String} {kind : Kind}

/-- What a call that raises nothing has done. -/
theorem takes_of_call_plugIn {answer : Option Kind}
    (hcall : registry.call (.plugIn name kind) = (.ok answer, after)) :
    registry.catalogue.Takes name kind after.catalogue ∧ after.kinds = registry.kinds := by
  rw [call] at hcall
  split at hcall
  · next catalogue hregister =>
    cases hcall
    exact ⟨Catalogue.register_eq_ok_iff.mp hregister, rfl⟩
  · cases hcall

@[inherit_doc takes_of_call_plugIn]
theorem takes_of_call_look {answer : Option Kind} (hconsistent : registry.catalogue.Consistent)
    (hcall : registry.call (.look name) = (.ok answer, after)) :
    ∃ kind, answer = some kind ∧ registry.catalogue.Takes name kind after.catalogue ∧
      after.kinds = registry.kinds := by
  rw [call] at hcall
  split at hcall
  · next kind catalogue hlookup =>
    cases hcall
    exact ⟨kind, rfl, Catalogue.takes_of_lookup hconsistent hlookup, rfl⟩
  · cases hcall

@[inherit_doc takes_of_call_plugIn]
theorem register_of_call_bind {answer : Option Kind}
    (hcall : registry.call (.bind tag kind) = (.ok answer, after)) :
    registry.kinds.register tag kind = .ok after.kinds ∧ after.catalogue = registry.catalogue := by
  rw [call] at hcall
  split at hcall
  · next kinds hregister =>
    cases hcall
    exact ⟨hregister, rfl⟩
  · cases hcall

/-- A call that raises leaves the registry as it was. -/
theorem call_snd_of_error {call : Call} {fault : Fault}
    (hraises : (registry.call call).1 = .error fault) : (registry.call call).2 = registry := by
  cases call with
  | plugIn name kind =>
    rw [Registry.call] at hraises ⊢
    split at hraises
    · cases hraises
    · rfl
  | look name =>
    rw [Registry.call] at hraises ⊢
    split at hraises
    · cases hraises
    · rfl
  | bind tag kind =>
    rw [Registry.call] at hraises ⊢
    split at hraises
    · cases hraises
    · rfl

/-- A consistent registry in which names are taken and tags are bound as in another one, or more of
them. -/
structure Keeps (before after : Registry) : Prop where
  consistent : after.catalogue.Consistent
  taken : ∀ name kind, before.catalogue.taken? name = some kind →
    after.catalogue.taken? name = some kind
  bound : ∀ tag kind, before.kinds.lookup tag = some kind → after.kinds.lookup tag = some kind

theorem Keeps.trans {middle : Registry} (hfirst : registry.Keeps middle)
    (hsecond : middle.Keeps after) : registry.Keeps after :=
  ⟨hsecond.consistent,
    fun name kind htaken ↦ hsecond.taken name kind (hfirst.taken name kind htaken),
    fun tag kind hbound ↦ hsecond.bound tag kind (hfirst.bound tag kind hbound)⟩

theorem keeps_of_takes (hconsistent : registry.catalogue.Consistent)
    (htakes : registry.catalogue.Takes name kind after.catalogue)
    (hkinds : after.kinds = registry.kinds) : registry.Keeps after :=
  ⟨htakes.consistent hconsistent, fun _ _ ↦ htakes.taken?_of_taken?, fun _ _ ↦ hkinds ▸ id⟩

/-- A call takes no name and no tag away. -/
theorem keeps_call (hconsistent : registry.catalogue.Consistent) (call : Call) :
    registry.Keeps (registry.call call).2 := by
  rcases hcall : registry.call call with ⟨fault | answer, after⟩
  · have hsame := call_snd_of_error (congrArg Prod.fst hcall)
    rw [hcall] at hsame
    rw [hsame]
    exact ⟨hconsistent, fun _ _ ↦ id, fun _ _ ↦ id⟩
  · cases call with
    | plugIn name kind =>
      obtain ⟨htakes, hkinds⟩ := takes_of_call_plugIn hcall
      exact keeps_of_takes hconsistent htakes hkinds
    | look name =>
      obtain ⟨kind, -, htakes, hkinds⟩ := takes_of_call_look hconsistent hcall
      exact keeps_of_takes hconsistent htakes hkinds
    | bind tag kind =>
      obtain ⟨hregister, hcatalogue⟩ := register_of_call_bind hcall
      refine ⟨hcatalogue ▸ hconsistent, fun _ _ ↦ hcatalogue ▸ id, fun other bound hbound ↦ ?_⟩
      exact (KindTable.joins_of_register hregister other bound).mpr (.inl hbound)

/-- Calls take no name and no tag away. -/
theorem keeps_afterCalls (hconsistent : registry.catalogue.Consistent) (calls : List Call) :
    registry.Keeps (registry.afterCalls calls) := by
  induction calls generalizing registry with
  | nil => exact ⟨hconsistent, fun _ _ ↦ id, fun _ _ ↦ id⟩
  | cons call rest ih =>
    have hfirst := keeps_call hconsistent call
    exact hfirst.trans (ih hfirst.consistent)

/-! ### What names and tags mean -/

/-- A name means a kind for good. Whatever is called, looking the name up returns the kind, plugging
in the kind again changes nothing, and no other kind can be plugged in under the name. -/
def NameMeans (registry : Registry) (name : String) (kind : Kind) : Prop :=
  ∀ calls, let later := registry.afterCalls calls
    later.call (.look name) = (.ok (some kind), later) ∧
    later.call (.plugIn name kind) = (.ok none, later) ∧
    ∀ other, other ≠ kind →
      later.call (.plugIn name other) = (.error (.of (.pluginTaken name)), later)

/-- A tag means a kind for good. Whatever is called, the tag is bound to the kind, binding it to the
kind again changes nothing, and it cannot be bound to another kind. -/
def TagMeans (registry : Registry) (tag : String) (kind : Kind) : Prop :=
  ∀ calls, let later := registry.afterCalls calls
    later.kinds.lookup tag = some kind ∧
    later.call (.bind tag kind) = (.ok none, later) ∧
    ∀ other, other ≠ kind →
      later.call (.bind tag other) = (.error (.of (.tagTaken tag) "" tag), later)

theorem nameMeans_of_taken? (hconsistent : registry.catalogue.Consistent)
    (htaken : registry.catalogue.taken? name = some kind) : registry.NameMeans name kind := by
  intro calls later
  have hkeeps : registry.Keeps later := keeps_afterCalls hconsistent calls
  have htakenLater := hkeeps.taken name kind htaken
  refine ⟨?_, ?_, fun other hother ↦ ?_⟩
  · have hknown := (Catalogue.known?_eq_taken? hkeeps.consistent name).trans htakenLater
    rw [call, Catalogue.lookup_of_known? hknown]
  · rw [call, Catalogue.register_eq_ok_iff.mpr (.already htakenLater)]
  · rw [call, Catalogue.register_of_taken? htakenLater hother]

theorem tagMeans_of_lookup (hconsistent : registry.catalogue.Consistent)
    (hbound : registry.kinds.lookup tag = some kind) : registry.TagMeans tag kind := by
  intro calls later
  have hkeeps : registry.Keeps later := keeps_afterCalls hconsistent calls
  have hboundLater := hkeeps.bound tag kind hbound
  refine ⟨hboundLater, ?_, fun other hother ↦ ?_⟩
  · rw [call, KindTable.register_of_lookup hboundLater]
  · rw [call, KindTable.register_of_lookup_of_ne hboundLater hother]

/-- Before anything is plugged in, the catalogue is consistent. -/
theorem consistent_new (entries : List EntryPoint) :
    ({ entryPoints := entries } : Catalogue).Consistent :=
  fun _ _ _ _ hplugged ↦ by cases hplugged

/-- A name is never bound again. Whatever was called before, a name means a kind for good once it
was looked up and the kind was returned, once the kind was plugged in under it, and always if it is
the name of a built-in kind; a tag does once it was bound to the kind, and always if the table binds
it from the start. A call that raises leaves the catalogue and the table as they were. -/
theorem meanings_stay (entries : List EntryPoint) (kinds : KindTable) (before : List Call) :
    let registry := (⟨{ entryPoints := entries }, kinds⟩ : Registry).afterCalls before
    (∀ name kind after, registry.call (.look name) = (.ok (some kind), after) →
      after.NameMeans name kind) ∧
    (∀ name kind after, registry.call (.plugIn name kind) = (.ok none, after) →
      after.NameMeans name kind) ∧
    (∀ kind ∈ Kind.builtIn, registry.NameMeans kind.tag kind) ∧
    (∀ tag kind after, registry.call (.bind tag kind) = (.ok none, after) →
      after.TagMeans tag kind) ∧
    (∀ tag kind, kinds.lookup tag = some kind → registry.TagMeans tag kind) ∧
    ∀ call fault, (registry.call call).1 = .error fault → (registry.call call).2 = registry := by
  intro registry
  have hkeeps : (⟨{ entryPoints := entries }, kinds⟩ : Registry).Keeps registry :=
    keeps_afterCalls (consistent_new entries) before
  refine ⟨fun name kind after hcall ↦ ?_, fun name kind after hcall ↦ ?_, fun kind hkind ↦ ?_,
    fun tag kind after hcall ↦ ?_, fun tag kind hbound ↦ ?_, fun call fault ↦ call_snd_of_error⟩
  · obtain ⟨_, ⟨⟩, htakes, -⟩ := takes_of_call_look hkeeps.consistent hcall
    exact nameMeans_of_taken? (htakes.consistent hkeeps.consistent) htakes.taken?_eq
  · have htakes := (takes_of_call_plugIn hcall).1
    exact nameMeans_of_taken? (htakes.consistent hkeeps.consistent) htakes.taken?_eq
  · refine nameMeans_of_taken? hkeeps.consistent (hkeeps.taken kind.tag kind ?_)
    rw [Catalogue.taken?, List.lookup_nil, Option.none_or, Kind.builtIn?_tag kind hkind]
  · obtain ⟨hregister, hcatalogue⟩ := register_of_call_bind hcall
    refine tagMeans_of_lookup (hcatalogue ▸ hkeeps.consistent) ?_
    exact (KindTable.joins_of_register hregister tag kind).mpr (.inr (List.mem_singleton_self _))
  · exact tagMeans_of_lookup hkeeps.consistent (hkeeps.bound tag kind hbound)

section Sample

open Sample

/-- A package offers a kind under a name that another one offers too, and a third cannot be loaded.
The name means the kind of the first package as soon as it was looked up. -/
theorem meanings_stay_upper :
    let entries : List EntryPoint := [⟨"broken", "", .error "no module"⟩,
      ⟨"word", "first", .ok upper⟩, ⟨"word", "second", .ok fixed⟩]
    let before : List Call := [.look "broken", .plugIn "text" upper, .bind "word" upper]
    let registry := (⟨{ entryPoints := entries }, .builtIn⟩ : Registry).afterCalls before
    let found := (registry.call (.look "word")).2
    let later := found.afterCalls [.look "broken", .plugIn "shout" upper]
    later.call (.look "word") = (.ok (some upper), later) ∧
      later.call (.plugIn "word" fixed) = (.error (.of (.pluginTaken "word")), later) ∧
      registry.call (.bind "word" fixed) = (.error (.of (.tagTaken "word") "" "word"), registry) ∧
      registry.call (.plugIn "text" upper) = (.error (.of (.pluginTaken "text")), registry) ∧
      (registry.call (.look "broken")).2 = registry := by
  intro entries before registry found later
  obtain ⟨hlooked, _, hbuiltIn, hbound, _, hraised⟩ := meanings_stay entries .builtIn before
  have hword : found.NameMeans "word" upper := hlooked "word" upper found rfl
  have htag : registry.TagMeans "word" upper := hbound "word" upper registry rfl
  obtain ⟨hlook, _, htaken⟩ := hword [.look "broken", .plugIn "shout" upper]
  exact ⟨hlook, htaken fixed (by decide), (htag []).2.2 fixed (by decide),
    (hbuiltIn .text List.mem_cons_self []).2.2 upper (by decide),
    hraised (.look "broken") (.of (.pluginNotImported "broken" "no module")) rfl⟩

end Sample

end Registry

end LicenseHeaders
