import LicenseHeaders.Engine
import LicenseHeaders.Proofs.Reader.Retry
import LicenseHeaders.Sample

/-!
# Licenses are built once

A reader that has read its licenses keeps three things apart: the licenses, what is approved, and
that there is no document to read from any more. Each of the calls that a reader answers consults
another one of them. `Reader.Frozen` says that all three are in order, and what a call does to a
frozen reader is told by `Reader.Ignores`: documents that come too late are noted, kinds that are
plugged in are known, and nothing else changes. One call does no more than that, also where it fails
halfway through a list of sources (`Reader.Frozen.call`), and so no more is done by any number of
calls (`Reader.Frozen.calls`).

A reader on which no call has failed is frozen as soon as it has returned licenses
(`Reader.frozen_of_answers`), since reading licenses and what is approved are one step then.
`Reader.licenses_are_built_once` puts both together.
-/

set_option autoImplicit false
set_option relaxedAutoImplicit false

namespace LicenseHeaders

namespace Reader

/-! ### Calls and their answers -/

/-- What may be asked of a reader and of the catalogue that it looks up kinds in. -/
inductive Call where
  | add (document : Document)
  | read (tree : FileTree) (sources : List Source)
  | plugIn (name : String) (kind : Kind)
  | kinds
  | licenses
  | approved

/-- What a call returns. -/
inductive Answer where
  | done
  | licenses (given : List License)
  | categories (given : List String)

/-- The documents at sources that are read one after the other, up to the first that fails. -/
def loadable (tree : FileTree) : List Source → List Document
  | [] => []
  | source :: rest =>
    match Document.load tree source with
    | .error _ => []
    | .ok (document, _) => document :: loadable tree rest

namespace Call

/-- What a call does. -/
def step [Installation] : Call → Reading Answer
  | .add document => do
    Reader.add document
    return .done
  | .read tree sources => do
    loadAll tree sources
    return .done
  | .plugIn name kind => do
    let catalogue ← liftM ((← get).catalogue.register name kind).1
    modify fun reader ↦ { reader with catalogue }
    return .done
  | .kinds => do
    readKinds
    return .done
  | .licenses => do
    return .licenses (← readLicenses)
  | .approved => do
    return .categories (← approvedCategories)

/-- The documents that a call passes on to be added. -/
def documents : Call → List Document
  | .add document => [document]
  | .read tree sources => loadable tree sources
  | .plugIn _ _ | .kinds | .licenses | .approved => []

/-- A call is answered as it must be once licenses have been read: with those licenses and with what
was approved with them. A source may fail to be read, and a kind may be refused. -/
def Answered (licenses : List License) (approved : List String) :
    Call → Except Fault Answer → Prop
  | .add _, answer | .kinds, answer => answer = .ok .done
  | .read _ _, answer | .plugIn _ _, answer => ∀ value, answer = .ok value → value = .done
  | .licenses, answer => answer = .ok (.licenses licenses)
  | .approved, answer => answer = .ok (.categories approved)

/-- Licenses are only returned where they are asked for. -/
theorem Answered.licenses_eq {call : Call} {licenses given : List License} {approved : List String}
    (hanswered : call.Answered licenses approved (.ok (.licenses given))) : given = licenses := by
  cases call with
  | add | kinds | approved => cases hanswered
  | read | plugIn => cases hanswered _ rfl
  | licenses =>
    cases hanswered
    rfl

end Call

/-- What a reader answers to a call: what the call returns, or the fault that it raises. -/
def answer [Installation] (reader : Reader) (call : Call) : Except Fault Answer :=
  (call.step.run.run reader).1

/-- A reader after a call, whether something was returned or a fault was raised. -/
def afterCall [Installation] (reader : Reader) (call : Call) : Reader :=
  (call.step.run.run reader).2

/-- A reader after calls, one after the other. -/
def afterCalls [Installation] (reader : Reader) (calls : List Call) : Reader :=
  calls.foldl afterCall reader

/-- What a reader answers to calls, one after the other. -/
def answers [Installation] (reader : Reader) : List Call → List (Except Fault Answer)
  | [] => []
  | call :: rest => reader.answer call :: (reader.afterCall call).answers rest

section Calls

variable {reader : Reader}

/-- A call that only does something is answered once that is done. -/
theorem run_then_done (step : Reading Unit) (reader : Reader) :
    (do step; return Answer.done : Reading Answer).run.run reader =
      ((step.run.run reader).1.map fun _ ↦ .done, (step.run.run reader).2) := by
  rw [run_bind]
  rcases step.run.run reader with ⟨fault | value, after⟩
  · rfl
  · rfl

/-- A call that asks for something is answered with what is returned. -/
theorem run_then_return {Value : Type} (step : Reading Value) (result : Value → Answer)
    (reader : Reader) :
    (do return result (← step) : Reading Answer).run.run reader =
      ((step.run.run reader).1.map result, (step.run.run reader).2) := by
  rw [run_bind]
  rcases step.run.run reader with ⟨fault | value, after⟩
  · rfl
  · rfl

/-- A source is read before its document is added, and where it cannot be read, nothing happens. -/
theorem run_load (tree : FileTree) (source : Source) (reader : Reader) :
    (load tree source).run.run reader =
      match Document.load tree source with
      | .error fault => (.error fault, reader)
      | .ok (document, event) =>
        (add document).run.run { reader with events := reader.events ++ [event] } := by
  rw [load, run_bind, run_lift]
  rcases Document.load tree source with fault | ⟨document, event⟩
  · rfl
  · rfl

end Calls

/-! ### Readers that have read everything -/

/-- A reader that has read its licenses and what is approved, and has nothing left to read. -/
structure Frozen (reader : Reader) (licenses : List License) (approved : List String) : Prop where
  licenses : reader.licenses = some licenses
  approved : reader.approved = some approved
  document : reader.document = none

/-- Of a reader nothing has changed but which kinds are known by name and what has been told, and
among the latter each of several documents is ignored once, in order. -/
def Ignores (before : Reader) (documents : List Document) (after : Reader) : Prop :=
  ∃ catalogue added, after = { before with catalogue, events := before.events ++ added } ∧
    added.filter (·.name = "rule_document_ignored") =
      documents.map fun document ↦ .documentIgnored document.sources

/-- What is told about a document that has been read is not that it is ignored. -/
theorem name_of_load {tree : FileTree} {source : Source} {document : Document} {event : Event}
    (hload : Document.load tree source = .ok (document, event)) :
    event.name = "rule_document_loaded" := by
  rw [Document.load] at hload
  rcases hformat : Document.Format.ofName source.text with fault | format
  · rw [hformat] at hload
    cases hload
  rw [hformat, ok_bind] at hload
  rcases hread : source.read? tree with fault | _ | bytes
  · rw [hread] at hload
    cases hload
  · rw [hread] at hload
    cases hload
  rw [hread, ok_bind] at hload
  rcases hparse : Document.parse format source.text (.bytes bytes) with fault | parsed
  · simp only [hparse] at hload
    cases hload
  · simp only [hparse, ok_bind] at hload
    cases hload
    rfl

section Ignores

variable {reader middle reader' : Reader} {first second : List Document}

theorem Ignores.refl (reader : Reader) : reader.Ignores [] reader :=
  ⟨reader.catalogue, [], by rw [List.append_nil], rfl⟩

theorem Ignores.trans (hfirst : reader.Ignores first middle)
    (hsecond : middle.Ignores second reader') : reader.Ignores (first ++ second) reader' := by
  obtain ⟨_, added, rfl, hadded⟩ := hfirst
  obtain ⟨catalogue, more, rfl, hmore⟩ := hsecond
  refine ⟨catalogue, added ++ more, ?_, ?_⟩
  · simp only [List.append_assoc]
  · rw [List.filter_append, hadded, hmore, List.map_append]

end Ignores

namespace Frozen

variable {reader reader' : Reader} {licenses : List License} {approved : List String}

theorem of_ignores {documents : List Document} (hfrozen : reader.Frozen licenses approved)
    (hignores : reader.Ignores documents reader') : reader'.Frozen licenses approved := by
  obtain ⟨_, _, rfl, _⟩ := hignores
  exact ⟨hfrozen.licenses, hfrozen.approved, hfrozen.document⟩

/-- A document that comes too late is ignored. -/
theorem run_add (hfrozen : reader.Frozen licenses approved) (document : Document) :
    (add document).run.run reader =
      (.ok (), { reader with events := reader.events ++ [.documentIgnored document.sources] }) := by
  rw [Reader.add, run_get_bind, hfrozen.document, tell]
  simp only [← hfrozen.document]
  rfl

theorem ignores_add (hfrozen : reader.Frozen licenses approved) (document : Document) :
    reader.Ignores [document] ((add document).run.run reader).2 := by
  rw [hfrozen.run_add]
  exact ⟨reader.catalogue, [.documentIgnored document.sources], rfl, rfl⟩

/-- Of sources that are read too late, the documents up to the first that fails are ignored. -/
theorem ignores_loadAll (hfrozen : reader.Frozen licenses approved) (tree : FileTree)
    (sources : List Source) :
    reader.Ignores (loadable tree sources) ((loadAll tree sources).run.run reader).2 := by
  induction sources generalizing reader with
  | nil => exact Ignores.refl reader
  | cons source rest ih =>
    rw [loadAll, run_bind, run_load, loadable]
    rcases hload : Document.load tree source with fault | ⟨document, event⟩
    · exact Ignores.refl reader
    have htold : reader.Ignores [] { reader with events := reader.events ++ [event] } := by
      refine ⟨reader.catalogue, [event], rfl, ?_⟩
      simp [name_of_load hload]
    have hfrozenTold := hfrozen.of_ignores htold
    have hadded := hfrozenTold.ignores_add document
    have hrest := ih (hfrozenTold.of_ignores hadded)
    have hall := htold.trans (hadded.trans hrest)
    simp only [hfrozenTold.run_add] at hall ⊢
    exact hall

/-- There are no kinds left to be read. -/
theorem run_readKinds (hfrozen : reader.Frozen licenses approved) :
    readKinds.run.run reader = (.ok (), reader) := by
  rw [readKinds, run_get_bind, hfrozen.document]
  rfl

variable [Installation]

/-- A call to a frozen reader is answered as it must be, and does nothing but ignore documents. -/
theorem call (hfrozen : reader.Frozen licenses approved) (call : Call) :
    reader.Ignores call.documents (reader.afterCall call) ∧
      call.Answered licenses approved (reader.answer call) := by
  rw [afterCall, answer]
  cases call with
  | add document =>
    rw [Call.step, run_then_done]
    refine ⟨hfrozen.ignores_add document, ?_⟩
    rw [hfrozen.run_add]
    rfl
  | read tree sources =>
    rw [Call.step, run_then_done]
    refine ⟨hfrozen.ignores_loadAll tree sources, ?_⟩
    rcases ((loadAll tree sources).run.run reader).1 with fault | _
    · exact nofun
    · rintro value ⟨⟩
      rfl
  | plugIn name kind =>
    rw [Call.step, run_get_bind, run_bind, run_lift]
    rcases (reader.catalogue.register name kind).1 with fault | catalogue
    · exact ⟨Ignores.refl reader, nofun⟩
    · refine ⟨⟨catalogue, [], ?_, rfl⟩, fun value hvalue ↦ ?_⟩
      · rw [List.append_nil]
        rfl
      · cases hvalue
        rfl
  | kinds =>
    rw [Call.step, run_then_done, hfrozen.run_readKinds]
    exact ⟨Ignores.refl reader, rfl⟩
  | licenses =>
    have hreturns := returns_readLicenses_of_some hfrozen.licenses
    unfold Returns at hreturns
    rw [Call.step, run_then_return, hreturns]
    exact ⟨Ignores.refl reader, rfl⟩
  | approved =>
    rw [Call.step, run_then_return, run_approvedCategories_of_some hfrozen.approved]
    exact ⟨Ignores.refl reader, rfl⟩

/-- Calls to a frozen reader, in any number and order. -/
theorem calls (hfrozen : reader.Frozen licenses approved) (calls : List Call) :
    reader.Ignores (calls.flatMap Call.documents) (reader.afterCalls calls) ∧
      List.Forall₂ (Call.Answered licenses approved) calls (reader.answers calls) := by
  induction calls generalizing reader with
  | nil => exact ⟨Ignores.refl reader, .nil⟩
  | cons call rest ih =>
    obtain ⟨hignores, hanswered⟩ := hfrozen.call call
    obtain ⟨hrest, hothers⟩ := ih (hfrozen.of_ignores hignores)
    exact ⟨hignores.trans hrest, .cons hanswered hothers⟩

end Frozen

/-! ### How a reader comes to be frozen -/

/-- A reader that has read neither licenses nor what is approved. -/
structure Unasked (reader : Reader) : Prop where
  licenses : reader.licenses = none
  approved : reader.approved = none

section Unasked

variable {reader reader' : Reader} {licenses : List License}

/-- To return licenses for the first time is to read everything. -/
theorem Unasked.exists_frozen [Installation] (hunasked : reader.Unasked)
    (hreturns : Returns readLicenses reader licenses reader') :
    ∃ approved, reader'.Frozen licenses approved := by
  obtain ⟨_, _, _, _, _, _, built, _, approved, _, rfl, rfl⟩ :=
    (returns_readLicenses_iff hunasked.licenses).mp hreturns
  exact ⟨approved, rfl, rfl, rfl⟩

/-- Adding documents reads nothing. -/
theorem keeps_unasked_add (document : Document) : Keeps Unasked (add document) := by
  intro before hbefore
  rw [add, run_get_bind]
  cases before.document with
  | none => exact ⟨hbefore.licenses, hbefore.approved⟩
  | some held => exact ⟨hbefore.licenses, hbefore.approved⟩

theorem keeps_unasked_loadAll (tree : FileTree) (sources : List Source) :
    Keeps Unasked (loadAll tree sources) := by
  induction sources with
  | nil => exact keeps_pure ()
  | cons source rest ih =>
    refine keeps_bind (fun before hbefore ↦ ?_) fun _ ↦ ih
    rw [run_load]
    rcases Document.load tree source with fault | ⟨document, event⟩
    · exact hbefore
    · exact keeps_unasked_add document _ ⟨hbefore.licenses, hbefore.approved⟩

theorem keeps_unasked_readKinds : Keeps Unasked readKinds := by
  intro before hbefore
  have hunmoved := keeps_unmoved_readKinds before before (Unmoved.refl before)
  exact ⟨hunmoved.licenses.trans hbefore.licenses, hunmoved.approved.trans hbefore.approved⟩

variable [Installation]

/-- After a call that has not failed, nothing has been read and no licenses were returned, or
everything has been read, and if licenses were returned, it was those. -/
theorem Unasked.returns (hunasked : reader.Unasked) {call : Call} {value : Answer}
    (hreturns : Returns call.step reader value reader') :
    (reader'.Unasked ∧ ∀ licenses, value ≠ .licenses licenses) ∨
      ∃ licenses approved, reader'.Frozen licenses approved ∧
        ∀ given, value = .licenses given → given = licenses := by
  have hdone : ∀ licenses, Answer.done ≠ .licenses licenses := by
    rintro licenses ⟨⟩
  cases call with
  | add document =>
    obtain ⟨_, middle, hadd, hlast⟩ := returns_bind_iff.mp hreturns
    obtain ⟨rfl, rfl⟩ := returns_pure_iff.mp hlast
    exact .inl ⟨(keeps_unasked_add document).of_returns hunasked hadd, hdone⟩
  | read tree sources =>
    obtain ⟨_, middle, hread, hlast⟩ := returns_bind_iff.mp hreturns
    obtain ⟨rfl, rfl⟩ := returns_pure_iff.mp hlast
    exact .inl ⟨(keeps_unasked_loadAll tree sources).of_returns hunasked hread, hdone⟩
  | plugIn name kind =>
    obtain ⟨catalogue, _, hlast⟩ := returns_lift_bind_iff.mp (returns_get_bind_iff.mp hreturns)
    obtain ⟨rfl, rfl⟩ := returns_pure_iff.mp hlast
    exact .inl ⟨⟨hunasked.licenses, hunasked.approved⟩, hdone⟩
  | kinds =>
    obtain ⟨_, middle, hread, hlast⟩ := returns_bind_iff.mp hreturns
    obtain ⟨rfl, rfl⟩ := returns_pure_iff.mp hlast
    exact .inl ⟨keeps_unasked_readKinds.of_returns hunasked hread, hdone⟩
  | licenses =>
    obtain ⟨licenses, middle, hread, hlast⟩ := returns_bind_iff.mp hreturns
    obtain ⟨rfl, rfl⟩ := returns_pure_iff.mp hlast
    obtain ⟨approved, hfrozen⟩ := hunasked.exists_frozen hread
    exact .inr ⟨licenses, approved, hfrozen, fun given hgiven ↦ (Answer.licenses.inj hgiven).symm⟩
  | approved =>
    obtain ⟨categories, middle, hask, hlast⟩ := returns_bind_iff.mp hreturns
    obtain ⟨rfl, rfl⟩ := returns_pure_iff.mp hlast
    rw [Returns, run_approvedCategories_of_none hunasked.approved] at hask
    rcases hread : readLicenses.run.run reader with ⟨fault | licenses, after⟩
    · rw [hread] at hask
      cases hask
    · rw [hread] at hask
      cases hask
      obtain ⟨approved, hfrozen⟩ := hunasked.exists_frozen hread
      exact .inr ⟨licenses, approved, hfrozen, by rintro given ⟨⟩⟩

/-- A reader that has returned licenses is frozen with them. Assumes: a reader that has read nothing
at first, and on which no call has failed. -/
theorem Unasked.frozen_of_answers (hunasked : reader.Unasked) {calls : List Call}
    (hsucceed : ∀ answer ∈ reader.answers calls, ∃ value, answer = .ok value)
    (hgiven : .ok (.licenses licenses) ∈ reader.answers calls) :
    ∃ approved, (reader.afterCalls calls).Frozen licenses approved := by
  induction calls generalizing reader with
  | nil => cases hgiven
  | cons call rest ih =>
    rw [answers, List.forall_mem_cons] at hsucceed
    obtain ⟨⟨value, hvalue⟩, hsucceed⟩ := hsucceed
    have hreturns : Returns call.step reader value (reader.afterCall call) := Prod.ext hvalue rfl
    rw [answers, List.mem_cons] at hgiven
    rcases hunasked.returns hreturns with ⟨hstill, hnone⟩ | ⟨others, approved, hfrozen, hsame⟩
    · refine ih hstill hsucceed (hgiven.resolve_left fun hfirst ↦ ?_)
      rw [hvalue] at hfirst
      exact hnone licenses (Except.ok.inj hfirst).symm
    · obtain ⟨hignores, hanswered⟩ := hfrozen.calls rest
      have hlicenses : licenses = others := by
        rcases hgiven with hfirst | hlater
        · rw [hvalue] at hfirst
          exact hsame licenses (Except.ok.inj hfirst).symm
        · obtain ⟨_, _, hlicenses⟩ := exists_of_mem_of_forall₂ hanswered.flip hlater
          exact Call.Answered.licenses_eq hlicenses
      subst hlicenses
      exact ⟨approved, hfrozen.of_ignores hignores⟩

end Unasked

/-- Licenses are built once. After a reader has returned licenses, every later call for licenses
returns these, and every call for what is approved returns what is approved now, whatever documents
are added, sources read or fail to be read, kinds asked for or plugged in on the way. The tags stay
bound as they are and the identifiers declared and built as they are: nothing about the reader
changes but the kinds that are known by name and what has been told, where every document that is
added is ignored once. Assumes: a new reader, and calls of which none has failed and one has
returned the licenses. -/
theorem licenses_are_built_once [Installation] (catalogue : Catalogue) (kinds : KindTable)
    (earlier : List Call) {licenses : List License}
    (hsucceed : ∀ answer ∈ ({ catalogue, kinds } : Reader).answers earlier,
      ∃ value, answer = .ok value)
    (hgiven : .ok (.licenses licenses) ∈ ({ catalogue, kinds } : Reader).answers earlier) :
    let reader := ({ catalogue, kinds } : Reader).afterCalls earlier
    ∃ approved, Returns readLicenses reader licenses reader ∧
      Returns approvedCategories reader approved reader ∧
      ∀ later,
        List.Forall₂ (Call.Answered licenses approved) later (reader.answers later) ∧
        (reader.afterCalls later).kinds = reader.kinds ∧
        (reader.afterCalls later).identifiers = reader.identifiers ∧
        ∃ known told,
          reader.afterCalls later =
            { reader with catalogue := known, events := reader.events ++ told } ∧
          told.filter (·.name = "rule_document_ignored") =
            (later.flatMap Call.documents).map fun document ↦
              .documentIgnored document.sources := by
  intro reader
  have hunasked : ({ catalogue, kinds } : Reader).Unasked := ⟨rfl, rfl⟩
  obtain ⟨approved, hfrozen⟩ := hunasked.frozen_of_answers hsucceed hgiven
  refine ⟨approved, returns_readLicenses_of_some hfrozen.licenses,
    run_approvedCategories_of_some hfrozen.approved, fun later ↦ ?_⟩
  obtain ⟨hignores, hanswered⟩ := hfrozen.calls later
  obtain ⟨known, told, hafter, htold⟩ := hignores
  exact ⟨hanswered, by rw [hafter], by rw [hafter], known, told, hafter, htold⟩

/-- A reader that is given a license and an approved family, and that is asked for what it has. -/
def earlyCalls : List Call :=
  let root : Node := { tag := "text", attributes := [("id", "t")], text := "Foo" }
  let license : Node :=
    { tag := "license", attributes := [("id", "A"), ("name", "Alpha")], children := [root] }
  let family : Node := { tag := "family", attributes := [("license_ref", "A")] }
  [.kinds, .add { licenses := [license], families := [family], sources := ["early"] }, .licenses]

/-- A directory with one empty document, and sources of which the second is not there. -/
def lateSources : FileTree × List Source :=
  ({ root := .directory [("late.toml", .file [])] },
    [.name "late.toml", .name "gone.toml", .name "late.toml"])

/-- What comes later: a document that could not be read, and the sources. -/
def lateCalls : List Call :=
  let refused : Node := { tag := "license" }
  [.approved, .add { licenses := [refused], sources := ["refused"] },
    .read lateSources.1 lateSources.2, .kinds, .licenses]

section Sample

open Sample

/-- What could not be read is never looked at: the license and its approval are returned again, and
the documents have been ignored. -/
theorem licenses_are_built_once_refused :
    let license : License :=
      ⟨⟨"A", "Alpha"⟩, .registered "t" (.leaf (some "t") (.literal "Foo") .unknown), none, none⟩
    let reader := ({} : Reader).afterCalls earlyCalls
    ((∀ answer ∈ ({} : Reader).answers earlyCalls, ∃ value, answer = .ok value) ∧
      .ok (.licenses [license]) ∈ ({} : Reader).answers earlyCalls) ∧
      List.Forall₂ (Call.Answered [license] ["A"]) lateCalls (reader.answers lateCalls) ∧
      (reader.afterCalls lateCalls).identifiers = reader.identifiers ∧
      ∃ known told,
        reader.afterCalls lateCalls =
          { reader with catalogue := known, events := reader.events ++ told } ∧
        told.filter (·.name = "rule_document_ignored") =
          .documentIgnored ["refused"] :: (loadable lateSources.1 lateSources.2).map
            fun document ↦ .documentIgnored document.sources := by
  intro license reader
  have hanswers : ({} : Reader).answers earlyCalls =
      [.ok .done, .ok .done, .ok (.licenses [license])] := by
    cbv
  have hkept : (approvedCategories.run.run (({} : Reader).afterCalls earlyCalls)).1 =
      .ok ["A"] := by
    cbv
  have hsucceed : ∀ answer ∈ ({} : Reader).answers earlyCalls, ∃ value, answer = .ok value := by
    simp [hanswers]
  have hgiven : .ok (.licenses [license]) ∈ ({} : Reader).answers earlyCalls := by
    simp [hanswers]
  obtain ⟨approved, _, happroved, hlater⟩ :=
    licenses_are_built_once {} .builtIn earlyCalls hsucceed hgiven
  have hsame : approved = ["A"] := Except.ok.inj ((congrArg Prod.fst happroved).symm.trans hkept)
  subst hsame
  obtain ⟨hanswered, _, hidentifiers, known, told, hafter, htold⟩ := hlater lateCalls
  refine ⟨⟨hsucceed, hgiven⟩, hanswered, hidentifiers, known, told, hafter, ?_⟩
  rw [htold]
  simp [lateCalls, Call.documents]

end Sample

end Reader

end LicenseHeaders
