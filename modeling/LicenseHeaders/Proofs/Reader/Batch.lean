import LicenseHeaders.Proofs.Reader.Steps
import LicenseHeaders.Sample

/-!
# Kinds in one batch

A reader is given documents and kinds are plugged in, and in between it is asked to read the kinds
that are declared so far, with or without success. It makes no difference: whenever a pass returns,
the table is the one that a new reader has that is given everything first and reads the kinds once
(`Reader.readKinds_in_steps`).

Two catalogues are compared. The one of the reader has loaded kinds that the one of the batch still
has to load, so the batch `Lags` behind: the same kinds go by all names, but fewer of the names are
taken. What is plugged in while the reader is at work can therefore be plugged in before
(`Catalogue.Lags.exists_takes`, `Reader.lags_afterActions`).
-/

set_option autoImplicit false
set_option relaxedAutoImplicit false

namespace LicenseHeaders

/-! ### Catalogues that have loaded less -/

namespace Catalogue

/-- The same kinds go by all names, and what is taken in the first of two catalogues is taken in the
second. -/
structure Lags (batch catalogue : Catalogue) : Prop where
  kind? : batch.kind? = catalogue.kind?
  taken : ∀ name kind, batch.taken? name = some kind → catalogue.taken? name = some kind

variable {batch catalogue after : Catalogue} {name : String} {kind : Kind}

theorem Lags.refl (catalogue : Catalogue) : catalogue.Lags catalogue :=
  ⟨rfl, fun _ _ ↦ id⟩

/-- What is plugged in can be plugged in where less is taken. -/
theorem Lags.exists_takes (hlags : batch.Lags catalogue)
    (htakes : catalogue.Takes name kind after) :
    ∃ later, batch.Takes name kind later ∧ later.Lags after := by
  cases hbatch : batch.taken? name with
  | some holder =>
    -- The name is taken by the same kind in both catalogues, so nothing changes.
    have htaken := hlags.taken name holder hbatch
    cases htakes with
    | already hsame => exact ⟨batch, .already (hbatch.trans (htaken.symm.trans hsame)), hlags⟩
    | newly hfree => cases hfree.symm.trans htaken
  | none =>
    refine ⟨_, .newly hbatch, funext fun other ↦ ?_, fun other holder htaken ↦ ?_⟩
    · rw [kind?_noting hbatch, hlags.kind?]
      cases htakes with
      | already htaken =>
        -- The kind was loaded from a package, which the batch would do, too.
        by_cases hother : other = name
        · rw [if_pos hother, hother, kind?_of_known?]
          rw [taken?, (taken?_eq_none_iff.mp hbatch).2, Option.or_none] at htaken
          rw [known?, htaken, (taken?_eq_none_iff.mp hbatch).2, Option.none_or]
        · rw [if_neg hother]
      | newly hfree => rw [kind?_noting hfree]
    · rw [taken?_cons] at htaken
      by_cases hother : other = name
      · rw [if_pos hother] at htaken
        cases htaken
        rw [hother, htakes.taken?_eq]
      · rw [if_neg hother] at htaken
        exact htakes.taken?_of_taken? (hlags.taken other holder htaken)

end Catalogue

namespace Reader

/-! ### Plugging in before -/

/-- The kind that an action plugs in under a name, if this succeeds. -/
def pluggedBy (reader : Reader) : Action → List (String × Kind)
  | .plugIn name kind =>
    match (reader.catalogue.register name kind).1 with
    | .ok _ => [(name, kind)]
    | .error _ => []
  | .add _ | .ask _ => []

/-- What is plugged in by actions, as far as this succeeds. -/
def pluggedIn [Installation] (reader : Reader) : List Action → List (String × Kind)
  | [] => []
  | action :: rest => reader.pluggedBy action ++ (reader.afterAction action).pluggedIn rest

end Reader

/-- Kinds are plugged in under names, one after the other. -/
def Action.plugIns (kinds : List (String × Kind)) : List Action :=
  kinds.map fun (name, kind) ↦ .plugIn name kind

namespace Reader

/-- The same in one batch: all that is plugged in with success, and then all documents. -/
def inOneBatch [Installation] (reader : Reader) (actions : List Action) : List Action :=
  Action.plugIns (reader.pluggedIn actions) ++ (actions.flatMap Action.documents).map .add

section Run

variable {kinds : KindTable} {document : Document} {reader batch : Reader} {name : String}
  {kind : Kind} {actions : List Action}

theorem documents_plugIns (plugged : List (String × Kind)) :
    (Action.plugIns plugged).flatMap Action.documents = [] :=
  List.flatMap_eq_nil_iff.mpr fun _ haction ↦ by
    obtain ⟨_, _, rfl⟩ := List.mem_map.mp haction
    rfl

theorem prepares_plugIns (plugged : List (String × Kind)) :
    ∀ action ∈ Action.plugIns plugged, action.Prepares := by
  rintro _ haction
  obtain ⟨_, _, rfl⟩ := List.mem_map.mp haction
  trivial

variable [Installation]

theorem afterAction_plugIn_of_takes {catalogue : Catalogue}
    (htakes : reader.catalogue.Takes name kind catalogue) :
    reader.afterAction (.plugIn name kind) = { reader with catalogue } ∧
      reader.pluggedBy (.plugIn name kind) = [(name, kind)] := by
  have hregister := Catalogue.register_eq_ok_iff.mpr htakes
  rw [afterAction, pluggedBy, hregister]
  exact ⟨rfl, rfl⟩

/-- Plugging in a kind changes the catalogue, or fails and changes nothing. -/
theorem afterAction_plugIn_cases (reader : Reader) (name : String) (kind : Kind) :
    (∃ catalogue, reader.catalogue.Takes name kind catalogue) ∨
      reader.afterAction (.plugIn name kind) = reader ∧
        reader.pluggedBy (.plugIn name kind) = [] := by
  cases hregister : (reader.catalogue.register name kind).1 with
  | ok catalogue => exact .inl ⟨catalogue, Catalogue.register_eq_ok_iff.mp hregister⟩
  | error fault =>
    rw [afterAction, pluggedBy, hregister]
    exact .inr ⟨rfl, rfl⟩

/-- An action that asks for nothing but kinds keeps the invariant. -/
theorem InSteps.afterAction (hsteps : InSteps kinds document reader) {action : Action}
    (hprepares : action.Prepares) :
    InSteps kinds (action.documents.foldl Document.merge document) (reader.afterAction action) := by
  cases action with
  | add added => exact hsteps.add added
  | plugIn name kind =>
    rcases afterAction_plugIn_cases reader name kind with ⟨catalogue, htakes⟩ | ⟨hsame, -⟩
    · rw [(afterAction_plugIn_of_takes htakes).1]
      exact hsteps.plugIn htakes.grows
    · rw [hsame]
      exact hsteps
  | ask request =>
    cases request with
    | kinds => exact hsteps.readKinds
    | licenses => exact hprepares.elim
    | approved => exact hprepares.elim

theorem InSteps.afterActions (hsteps : InSteps kinds document reader)
    (hprepare : ∀ action ∈ actions, action.Prepares) :
    InSteps kinds ((actions.flatMap Action.documents).foldl Document.merge document)
      (reader.afterActions actions) := by
  induction actions generalizing reader document with
  | nil => exact hsteps
  | cons action rest ih =>
    rw [List.forall_mem_cons] at hprepare
    rw [List.flatMap_cons, List.foldl_append]
    exact ih (hsteps.afterAction hprepare.1) hprepare.2

/-- What one action plugs in can be plugged in where less is taken, and less is taken there
still. -/
theorem lags_afterAction (hsteps : InSteps kinds document reader)
    (hlags : batch.catalogue.Lags reader.catalogue) {action : Action}
    (hprepares : action.Prepares) :
    let plugIns := Action.plugIns (reader.pluggedBy action)
    batch.pluggedIn plugIns = reader.pluggedBy action ∧
      ∃ catalogue, batch.afterActions plugIns = { batch with catalogue } ∧
        catalogue.Lags (reader.afterAction action).catalogue := by
  cases action with
  | add added =>
    rw [afterAction_add hsteps.unread.document]
    exact ⟨rfl, batch.catalogue, rfl, hlags⟩
  | plugIn name kind =>
    rcases afterAction_plugIn_cases reader name kind with ⟨after, htakes⟩ | ⟨hsame, hplugged⟩
    · obtain ⟨hafter, hplugged⟩ := afterAction_plugIn_of_takes htakes
      obtain ⟨catalogue, hbatch, hstill⟩ := hlags.exists_takes htakes
      obtain ⟨hafterBatch, hpluggedBatch⟩ := afterAction_plugIn_of_takes hbatch
      rw [hplugged, hafter]
      exact ⟨by simp [Action.plugIns, pluggedIn, hpluggedBatch], catalogue, hafterBatch, hstill⟩
    · rw [hplugged, hsame]
      exact ⟨rfl, batch.catalogue, rfl, hlags⟩
  | ask request =>
    cases request with
    | kinds =>
      obtain ⟨later, htakes, hlater⟩ := run_readKinds_cases hsteps.unread.document
      have hcatalogue : (reader.afterAction (.ask .kinds)).catalogue = later.catalogue := by
        rw [Reader.afterAction, afterRequest]
        rcases hlater with hsame | ⟨hsame, -⟩ <;> rw [hsame]
      refine ⟨rfl, batch.catalogue, rfl, ?_⟩
      rw [hcatalogue]
      exact ⟨hlags.kind?.trans htakes.catalogue.symm,
        fun name kind htaken ↦ htakes.grows.taken name kind (hlags.taken name kind htaken)⟩
    | licenses => exact hprepares.elim
    | approved => exact hprepares.elim

theorem afterActions_append (reader : Reader) (first second : List Action) :
    reader.afterActions (first ++ second) = (reader.afterActions first).afterActions second :=
  List.foldl_append

theorem pluggedIn_append (reader : Reader) (first second : List Action) :
    reader.pluggedIn (first ++ second) =
      reader.pluggedIn first ++ (reader.afterActions first).pluggedIn second := by
  induction first generalizing reader with
  | nil => rfl
  | cons action rest ih =>
    rw [List.cons_append, pluggedIn, pluggedIn, ih, List.append_assoc]
    rfl

/-- What actions plug in can be plugged in where less is taken, and less is taken there still. -/
theorem lags_afterActions (hsteps : InSteps kinds document reader)
    (hlags : batch.catalogue.Lags reader.catalogue)
    (hprepare : ∀ action ∈ actions, action.Prepares) :
    let plugIns := Action.plugIns (reader.pluggedIn actions)
    batch.pluggedIn plugIns = reader.pluggedIn actions ∧
      ∃ catalogue, batch.afterActions plugIns = { batch with catalogue } ∧
        catalogue.Lags (reader.afterActions actions).catalogue := by
  induction actions generalizing reader batch document with
  | nil => exact ⟨rfl, batch.catalogue, rfl, hlags⟩
  | cons action rest ih =>
    rw [List.forall_mem_cons] at hprepare
    obtain ⟨hfirst, middle, hmiddle, hlagsMiddle⟩ := lags_afterAction hsteps hlags hprepare.1
    obtain ⟨hrest, catalogue, hcatalogue, hstill⟩ :=
      @ih _ _ { batch with catalogue := middle } (hsteps.afterAction hprepare.1) hlagsMiddle
        hprepare.2
    have happend : Action.plugIns (reader.pluggedIn (action :: rest)) =
        Action.plugIns (reader.pluggedBy action) ++
          Action.plugIns ((reader.afterAction action).pluggedIn rest) := List.map_append
    intro plugIns
    refine ⟨?_, catalogue, ?_, hstill⟩
    · rw [show plugIns = _ from happend, pluggedIn_append, hfirst, hmiddle, hrest]
      rfl
    · rw [show plugIns = _ from happend, afterActions_append, hmiddle, hcatalogue]

/-- Documents are added to a reader that has read no kinds, and no kinds are read. -/
theorem afterActions_add (hdocument : reader.document = some document) (added : List Document) :
    reader.afterActions (added.map .add) =
      { reader with document := some (added.foldl Document.merge document) } := by
  induction added generalizing reader document with
  | nil =>
    rw [List.foldl_nil, ← hdocument]
    rfl
  | cons head rest ih =>
    rw [List.map_cons, afterActions, List.foldl_cons, afterAction_add hdocument]
    exact ih rfl

theorem pluggedIn_add (reader : Reader) (added : List Document) :
    reader.pluggedIn (added.map .add) = [] := by
  induction added generalizing reader with
  | nil => rfl
  | cons head rest ih => exact ih _

theorem kindsRead_afterActions_plugIns (reader : Reader) (plugged : List (String × Kind)) :
    (reader.afterActions (Action.plugIns plugged)).kindsRead = reader.kindsRead := by
  induction plugged generalizing reader with
  | nil => rfl
  | cons entry rest ih =>
    obtain ⟨name, kind⟩ := entry
    refine (ih (reader.afterAction (.plugIn name kind))).trans ?_
    rcases afterAction_plugIn_cases reader name kind with ⟨catalogue, htakes⟩ | ⟨hsame, -⟩
    · rw [(afterAction_plugIn_of_takes htakes).1]
    · rw [hsame]

end Run

/-! ### Passes and batches -/

section Batch

variable {document : Document} {reader reader' : Reader}

/-- A pass returns if the declarations that are left bind tags and the table admits all of it. -/
theorem exists_returns_readKinds (hdocument : reader.document = some document)
    {parts : List (List (String × Kind))}
    (hparts : List.Forall₂ (Node.Binds reader.catalogue.kind?)
      (document.matchers.drop reader.kindsRead) parts)
    (hadmits : reader.kinds.Admits parts.flatten) :
    ∃ reader', Returns readKinds reader () reader' ∧
      reader.kinds.Joins parts.flatten reader'.kinds := by
  obtain ⟨later, hreturns, hbound⟩ := exists_returns_readEachKind hparts rfl hadmits
  exact ⟨_, (returns_readKinds_iff hdocument).mpr ⟨later, hreturns, rfl⟩, hbound.joins⟩

theorem exists_parts_of_returns_readKinds (hdocument : reader.document = some document)
    (hreturns : Returns readKinds reader () reader') :
    ∃ parts, List.Forall₂ (Node.Binds reader.catalogue.kind?)
        (document.matchers.drop reader.kindsRead) parts ∧ reader.kinds.Admits parts.flatten := by
  obtain ⟨later, hread, -⟩ := (returns_readKinds_iff hdocument).mp hreturns
  obtain ⟨parts, hparts, hbound⟩ := bound_of_returns_readEachKind hread
  exact ⟨parts, hparts, hbound.admits⟩

theorem sameKinds_of_joins {table : KindTable} {bindings : List (String × Kind)}
    (hfirst : table.Joins bindings reader.kinds) (hsecond : table.Joins bindings reader'.kinds) :
    reader.SameKinds reader' :=
  fun tag ↦ Option.ext fun kind ↦ (hsecond tag kind).trans (hfirst tag kind).symm

variable (catalogue : Catalogue) (kinds : KindTable) {actions : List Action}
  (hprepare : ∀ action ∈ actions, action.Prepares)

include hprepare

variable [Installation]

/-- What a new reader is after a batch: the same is plugged in, the documents are the same, and no
kinds have been read. -/
theorem exists_afterActions_inOneBatch :
    let start : Reader := { catalogue, kinds }
    start.pluggedIn (start.inOneBatch actions) = start.pluggedIn actions ∧
      ∃ plugged, plugged.Lags (start.afterActions actions).catalogue ∧
        start.afterActions (start.inOneBatch actions) = { start with
          catalogue := plugged
          document := some (.mergeAll (actions.flatMap Action.documents)) } := by
  intro start
  obtain ⟨hsame, plugged, hplugged, hlags⟩ :=
    @lags_afterActions kinds {} start start actions _ (inSteps_new catalogue kinds)
      (.refl catalogue) hprepare
  refine ⟨?_, plugged, hlags, ?_⟩
  · rw [inOneBatch, pluggedIn_append, hsame, pluggedIn_add, List.append_nil]
  · rw [inOneBatch, afterActions_append, hplugged]
    exact afterActions_add rfl _

/-- When every declaration has been read, a batch reads the kinds to the same effect. -/
theorem exists_returns_inOneBatch {document : Document} {reader : Reader}
    (hdocument : Document.mergeAll (actions.flatMap Action.documents) = document)
    (hreader : ({ catalogue, kinds } : Reader).afterActions actions = reader)
    (hall : document.matchers.length ≤ reader.kindsRead) :
    let start : Reader := { catalogue, kinds }
    ∃ bound parts, Returns readKinds (start.afterActions (start.inOneBatch actions)) () bound ∧
      reader.SameKinds bound ∧
      List.Forall₂ (Node.Binds reader.catalogue.kind?) document.matchers parts ∧
      kinds.Joins parts.flatten reader.kinds := by
  intro start
  have hsteps : InSteps kinds document reader := by
    rw [← hdocument, ← hreader]
    exact (inSteps_new catalogue kinds).afterActions hprepare
  obtain ⟨parts, hknown, hadmits, hjoins⟩ := hsteps.exists_parts hall
  have hparts : List.Forall₂ (Node.Binds reader.catalogue.kind?) document.matchers parts :=
    hknown.imp fun _ _ hbinds ↦ hbinds.mono fun _ _ ↦ Catalogue.kind?_of_known?
  obtain ⟨-, plugged, hlags, hbatch⟩ := exists_afterActions_inOneBatch catalogue kinds hprepare
  rw [hreader] at hlags
  rw [hdocument] at hbatch
  rw [hbatch]
  obtain ⟨bound, hreturns, hbound⟩ :=
    @exists_returns_readKinds document { start with
      catalogue := plugged, document := some document } rfl parts (hlags.kind? ▸ hparts) hadmits
  exact ⟨bound, parts, hreturns, sameKinds_of_joins hjoins hbound, hparts, hjoins⟩

/-- After a pass that returns, and whatever is plugged in after it, a batch reads the kinds to the
same effect. -/
theorem exists_returns_inOneBatch_of_returns {after : Reader}
    (hreturns : Returns readKinds (({ catalogue, kinds } : Reader).afterActions actions) () after)
    (plugged : List (String × Kind)) :
    let start : Reader := { catalogue, kinds }
    let document := Document.mergeAll (actions.flatMap Action.documents)
    let whole := actions ++ .ask .kinds :: Action.plugIns plugged
    let last := after.afterActions (Action.plugIns plugged)
    start.pluggedIn (start.inOneBatch whole) = start.pluggedIn whole ∧
      ∃ bound parts, Returns readKinds (start.afterActions (start.inOneBatch whole)) () bound ∧
        last.SameKinds bound ∧
        List.Forall₂ (Node.Binds last.catalogue.kind?) document.matchers parts ∧
        kinds.Joins parts.flatten last.kinds := by
  intro start document whole last
  have hprepareWhole : ∀ action ∈ whole, action.Prepares :=
    List.forall_mem_append.mpr
      ⟨hprepare, List.forall_mem_cons.mpr ⟨trivial, prepares_plugIns plugged⟩⟩
  have hlast : start.afterActions whole = last := by
    have hafter : (start.afterActions actions).afterAction (.ask .kinds) = after :=
      congrArg Prod.snd hreturns
    rw [show whole = actions ++ ([.ask .kinds] ++ Action.plugIns plugged) from rfl,
      afterActions_append, afterActions_append]
    exact congrArg (afterActions · (Action.plugIns plugged)) hafter
  have hdocument : Document.mergeAll (whole.flatMap Action.documents) = document := by
    rw [List.flatMap_append, List.flatMap_cons, documents_plugIns]
    exact congrArg Document.mergeAll (List.append_nil _)
  have hall : document.matchers.length ≤ last.kindsRead := by
    have hunread : (start.afterActions actions).Unread document :=
      (unread_new catalogue kinds).afterActions hprepare
    rw [kindsRead_afterActions_plugIns, ← List.drop_eq_nil_iff]
    exact drop_kindsRead_of_returns_readKinds hunread.document hreturns
  exact ⟨(exists_afterActions_inOneBatch catalogue kinds hprepareWhole).1,
    exists_returns_inOneBatch catalogue kinds hprepareWhole hdocument hlast hall⟩

/-- Kinds that are read in steps are read as in one batch. A new reader is given documents, kinds
are plugged in, and it is asked for kinds, in any order and with any faults, but not yet for
licenses. Then the next pass over the kinds returns if and only if it returns for a batch, where all
that was plugged in with success is plugged in first, all documents are added next and nothing was
asked for: what failed passes have bound is not in the way. If it returns, and whatever is plugged
in after it, the batch can be plugged in with success and binds the same tags to the same kinds, and
no declaration is skipped: the table binds what it bound at the start and what the declarations
bind, and nothing else. -/
theorem readKinds_in_steps :
    let start : Reader := { catalogue, kinds }
    let reader := start.afterActions actions
    let document := Document.mergeAll (actions.flatMap Action.documents)
    ((∃ after, Returns readKinds reader () after) ↔
      ∃ after, Returns readKinds (start.afterActions (start.inOneBatch actions)) () after) ∧
    ∀ after, Returns readKinds reader () after → ∀ plugged : List (String × Kind),
      let whole := actions ++ .ask .kinds :: Action.plugIns plugged
      let last := after.afterActions (Action.plugIns plugged)
      start.pluggedIn (start.inOneBatch whole) = start.pluggedIn whole ∧
        ∃ bound parts, Returns readKinds (start.afterActions (start.inOneBatch whole)) () bound ∧
          last.SameKinds bound ∧
          List.Forall₂ (Node.Binds last.catalogue.kind?) document.matchers parts ∧
          kinds.Joins parts.flatten last.kinds := by
  intro start reader document
  refine ⟨⟨fun ⟨after, hreturns⟩ ↦ ?_, fun ⟨after, hreturns⟩ ↦ ?_⟩, fun after hreturns plugged ↦
    exists_returns_inOneBatch_of_returns catalogue kinds hprepare hreturns plugged⟩
  · obtain ⟨-, bound, -, hbound, -⟩ :=
      exists_returns_inOneBatch_of_returns catalogue kinds hprepare hreturns []
    have hsame : start.inOneBatch (actions ++ [.ask .kinds]) = start.inOneBatch actions := by
      rw [inOneBatch, inOneBatch, pluggedIn_append, List.flatMap_append]
      simp [pluggedIn, pluggedBy, Action.documents]
    rw [← hsame]
    exact ⟨bound, hbound⟩
  · have hsteps : InSteps kinds document reader :=
      (inSteps_new catalogue kinds).afterActions hprepare
    obtain ⟨-, plugged, hlags, hbatch⟩ := exists_afterActions_inOneBatch catalogue kinds hprepare
    rw [hbatch] at hreturns
    obtain ⟨parts, hparts, hadmits⟩ := exists_parts_of_returns_readKinds rfl hreturns
    change List.Forall₂ (Node.Binds plugged.kind?) document.matchers parts at hparts
    rw [hlags.kind?] at hparts
    obtain ⟨later, hlater, -⟩ := exists_returns_readKinds hsteps.unread.document
      (List.forall₂_drop reader.kindsRead hparts) (hsteps.admits hparts hadmits reader.kindsRead)
    exact ⟨later, hlater⟩

end Batch

section Sample

open Sample

/-- Two declarations of kinds, of which the second one needs a kind that is plugged in. -/
def shoutingDocument : Document :=
  let declaration (factory name : String) : Node :=
    { tag := "matcher", attributes := [("factory", factory), ("name", name)] }
  { matchers := [declaration "text" "word", declaration "shout" "loud"] }

/-- A new reader is asked for the kinds before the one that is needed is plugged in. -/
def shoutingActions : List Action :=
  [.plugIn "text" upper, .add shoutingDocument, .ask .kinds, .plugIn "shout" upper]

/-- The first pass fails at the second declaration when it has bound the tag of the first one. The
next pass returns as it does for the batch. -/
theorem readKinds_in_steps_shouting :
    let reader := ({} : Reader).afterActions shoutingActions
    let after := (readKinds.run.run reader).2
    let batch := ({} : Reader).afterActions [.plugIn "shout" upper, .add shoutingDocument]
    (readKinds.run.run (({} : Reader).afterActions [.add shoutingDocument])).1 =
        .error (.of (.pluginUnknown "shout") "" "matcher") ∧
      reader.kinds.lookup "word" = some .text ∧
      Returns readKinds reader () after ∧
      after.kinds.lookup "loud" = some upper ∧
      ∃ bound, Returns readKinds batch () bound ∧ after.SameKinds bound := by
  have hcomputed : (readKinds.run.run (({} : Reader).afterActions [.add shoutingDocument])).1 =
        .error (.of (.pluginUnknown "shout") "" "matcher") ∧
      (({} : Reader).afterActions shoutingActions).kinds.lookup "word" = some .text ∧
      (readKinds.run.run (({} : Reader).afterActions shoutingActions)).1 = .ok () ∧
      (readKinds.run.run (({} : Reader).afterActions shoutingActions)).2.kinds.lookup "loud" =
        some upper ∧
      ({} : Reader).inOneBatch (shoutingActions ++ [.ask .kinds]) =
        [.plugIn "shout" upper, .add shoutingDocument] := by
    refine ⟨?_, ?_, ?_, ?_, ?_⟩ <;> cbv
  obtain ⟨hfailed, hword, hresult, hloud, hactions⟩ := hcomputed
  intro reader after batch
  have hreturns : Returns readKinds reader () after := Prod.ext hresult rfl
  have hprepare : ∀ action ∈ shoutingActions, action.Prepares := by
    simp [shoutingActions, Action.Prepares]
  obtain ⟨-, bound, -, hbatch, hsame, -, -⟩ :=
    (readKinds_in_steps {} .builtIn hprepare).2 after hreturns []
  refine ⟨hfailed, hword, hreturns, hloud, bound, ?_, hsame⟩
  rw [show batch = _ from congrArg ({} : Reader).afterActions hactions.symm]
  exact hbatch

end Sample

end Reader

end LicenseHeaders
