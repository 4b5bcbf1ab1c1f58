import LicenseHeaders.Proofs.Command.Arguments
import LicenseHeaders.Proofs.Command.Settings
import LicenseHeaders.Proofs.Document.Refusing
import LicenseHeaders.Sample

/-!
# What becomes of bad rules

A name among the rules of a command that leads to no document is meant to end the command with the
code for what is wrong. The first such name decides: it stops the reading of documents with its
fault (`Reader.exists_raises_loadAll`), so there is no engine, and the command ends with that code
exactly if the fault is a configuration error (`Command.run_of_raises_engine`). `Command.bad_rules`
puts this together with the faults that a document can have (`Document.Evades`): every source that
is not among those listed there is a document or a configuration error that names it, and every one
that is ends the command with its own fault. An address with one bracket is such a source
(`Command.unbalanced_address_escapes`).
-/

set_option autoImplicit false
set_option relaxedAutoImplicit false

namespace LicenseHeaders

namespace Reader

variable {tree : FileTree} {fault : Fault}

/-- A document is always added or ignored. -/
theorem exists_returns_add (document : Document) (before : Reader) :
    ∃ after, Returns (add document) before () after := by
  unfold add
  simp only [returns_get_bind_iff]
  cases before.document <;> exact ⟨_, rfl⟩

/-- A document that cannot be read stops the reading of documents. -/
theorem exists_raises_loadAll {earlier later : List Source} {source : Source}
    (hearlier : ∀ other ∈ earlier, ∃ loaded, Document.load tree other = .ok loaded)
    (hload : Document.load tree source = .error fault) (before : Reader) :
    ∃ after, Raises (loadAll tree (earlier ++ source :: later)) before fault after := by
  induction earlier generalizing before with
  | nil =>
    rw [List.nil_append, loadAll]
    exact ⟨before, raises_bind_iff.mpr (.inl (raises_lift_bind_iff.mpr (.inl ⟨hload, rfl⟩)))⟩
  | cons other rest ih =>
    rw [List.forall_mem_cons] at hearlier
    obtain ⟨⟨⟨document, event⟩, hother⟩, hrest⟩ := hearlier
    obtain ⟨middle, hadd⟩ := exists_returns_add document
      { before with events := before.events ++ [event] }
    obtain ⟨after, hraises⟩ := ih hrest middle
    refine ⟨after, raises_bind_iff.mpr (.inr ⟨(), middle, ?_, hraises⟩)⟩
    exact returns_lift_bind_iff.mpr ⟨_, hother, hadd⟩

end Reader

/-- Settings whose rules cannot be read have no engine. -/
theorem Engine.build_of_unloadable [Installation] {tree : FileTree} {catalogue : Catalogue}
    {settings : Settings} {earlier later : List String} {name : String} {fault : Fault}
    (hrules : settings.rules = earlier ++ name :: later)
    (hearlier : ∀ other ∈ earlier, ∃ loaded, Document.load tree (.name other) = .ok loaded)
    (hload : Document.load tree (.name name) = .error fault) :
    (Engine.build tree catalogue settings).1 = .error fault := by
  have hloadAll (before : Reader) :
      ∃ after, Raises (Reader.loadAll tree (settings.rules.map .name)) before fault after := by
    rw [hrules, List.map_append, List.map_cons]
    exact Reader.exists_raises_loadAll (by simpa using hearlier) hload before
  have hassemble : ∃ after, Raises (Engine.assemble tree settings) { catalogue } fault after := by
    simp only [Engine.assemble]
    -- The default rules are always added, so it makes no difference whether they come first.
    split
    · obtain ⟨middle, hadd⟩ := Reader.exists_returns_add defaultRules { catalogue }
      obtain ⟨after, hraises⟩ := hloadAll middle
      exact ⟨after, raises_bind_iff.mpr
        (.inr ⟨(), middle, hadd, raises_bind_iff.mpr (.inl hraises)⟩)⟩
    · obtain ⟨after, hraises⟩ := hloadAll { catalogue }
      exact ⟨after, raises_bind_iff.mpr (.inl hraises)⟩
  obtain ⟨after, hraises⟩ := hassemble
  exact congrArg Prod.fst hraises

namespace Command

variable {tree : FileTree} {catalogue : Catalogue} {words : List String} {arguments : Arguments}
  {fault : Fault}

/-- What a command comes to where there is no engine for it: a configuration error ends it with the
code for what is wrong, and every other fault is its own. -/
def withoutEngine : Fault → Except Fault Outcome
  | .configuration _ => .ok .wrong
  | fault => .error fault

theorem exists_raises_engine [Installation] {settings : Settings}
    (hsettings : arguments.choices.settings tree = .ok settings)
    (hbuild : (Engine.build tree catalogue settings).1 = .error fault) :
    ∃ events, Raises (engine tree catalogue arguments.choices) [] fault events := by
  refine ⟨(Engine.build tree catalogue settings).2, ?_⟩
  unfold engine
  rw [raises_lift_bind_iff]
  refine .inr ⟨settings, hsettings, ?_⟩
  rcases hpair : Engine.build tree catalogue settings with ⟨result, events⟩
  rw [hpair] at hbuild
  refine raises_modify_bind_iff.mpr (raises_lift_iff.mpr ⟨hbuild, rfl⟩)

theorem run_of_raises_engine [Installation] (hparse : Arguments.parse words = .ok arguments)
    {events : List Event}
    (hengine : Raises (engine tree catalogue arguments.choices) [] fault events) :
    (run tree catalogue words).1 = withoutEngine fault := by
  have hexecute : ((execute tree catalogue arguments).run.run []).1 = withoutEngine fault := by
    rw [execute, run_bind, (hengine.map some).run_tryCatch]
    cases fault <;> rfl
  simp only [run, hparse, ← hexecute]
  rfl

/-- The first name among the rules that leads to no document decides what a command comes to. -/
theorem run_of_unloadable [Installation] (hparse : Arguments.parse words = .ok arguments)
    {settings : Settings} (hsettings : arguments.choices.settings tree = .ok settings)
    {earlier later : List String} {name : String}
    (hrules : settings.rules = earlier ++ name :: later)
    (hearlier : ∀ other ∈ earlier, ∃ loaded, Document.load tree (.name other) = .ok loaded)
    (hload : Document.load tree (.name name) = .error fault) :
    (run tree catalogue words).1 = withoutEngine fault := by
  have hbuild : (Engine.build tree catalogue settings).1 = .error fault :=
    Engine.build_of_unloadable hrules hearlier hload
  obtain ⟨events, hengine⟩ := exists_raises_engine hsettings hbuild
  exact run_of_raises_engine hparse hengine

/-- What becomes of bad rules. A source is a document or a configuration error that names it,
exactly if it is not listed, and what is listed is raised. One of the faults listed needs an integer
with more digits than are written. If the rules of a command line whose settings load are documents
up to a name, the command ends with a fault of that name if it is listed, and if it is not, the name
is a document as well or the command ends with the code for what is wrong. -/
theorem bad_rules [Installation] (tree : FileTree) :
    (∀ source : Source, IsProper source.text (Document.load tree source) ↔
      ∀ fault, ¬Document.Evades tree source fault) ∧
    (∀ source fault, Document.Evades tree source fault →
      Document.load tree source = .error fault) ∧
    (∀ source entries, Document.ofTable source entries = .error (.value .numberTooLongToWrite) →
      (Toml.Value.table entries).HasLongInteger) ∧
    ∀ catalogue words arguments settings earlier name later,
      Arguments.parse words = .ok arguments → arguments.choices.settings tree = .ok settings →
      settings.rules = earlier ++ name :: later →
      (∀ other ∈ earlier, ∃ loaded, Document.load tree (.name other) = .ok loaded) →
        (∀ fault, Document.Evades tree (.name name) fault →
          (run tree catalogue words).1 = .error fault) ∧
        ((∀ fault, ¬Document.Evades tree (.name name) fault) →
          (∃ loaded, Document.load tree (.name name) = .ok loaded) ∨
            (run tree catalogue words).1 = .ok .wrong) := by
  refine ⟨fun source ↦ Document.isProper_load_iff, fun source fault ↦ Document.load_of_evades,
    fun source entries hrefused ↦ ?_, ?_⟩
  · rcases Document.raisesOnly_ofTable entries _ hrefused with hnames | ⟨_, hlong⟩
    · exact absurd hnames (Fault.not_names_value _ source)
    · exact hlong
  intro catalogue words arguments settings earlier name later hparse hsettings hrules hearlier
  constructor
  · intro fault hevades
    rw [run_of_unloadable hparse hsettings hrules hearlier (Document.load_of_evades hevades)]
    cases hevades <;> rfl
  · intro hnone
    refine (Document.isProper_load_iff.mpr hnone).imp_right ?_
    rintro ⟨fault, hload, cause, node, rfl⟩
    exact run_of_unloadable hparse hsettings hrules hearlier hload

/-! ### A command with one rule document -/

/-- The words of a command that lists the licenses of a rule document. -/
def listingWords (rules : String) : List String :=
  ["--no-defaults", "--rules", rules, "licenses"]

theorem parse_listingWords (rules : String) (hrules : rules.toList.head? ≠ some '-') :
    Arguments.parse (listingWords rules) =
      .ok ⟨{ noDefaults := true, rules := [rules] }, .licenses false⟩ := by
  have hdivider : rules ≠ "--" := by
    rintro rfl
    exact hrules rfl
  have hplain := Word.classify_of_head?_ne hrules mainSwitches
  have hwords : Word.classifyAll mainSwitches (listingWords rules) =
      some [("--no-defaults", .flags [.noDefaults]), ("--rules", .awaiting [] .rules),
        (rules, .plain), ("licenses", .plain)] := by
    iterate 2
      refine (Word.classifyAll_cons_eq_some_iff (by decide)).mpr ⟨_, _, rfl, ?_, rfl⟩
    exact (Word.classifyAll_cons_eq_some_iff hdivider).mpr ⟨_, _, hplain, rfl, rfl⟩
  simp only [Arguments.parse, hwords, readWords]
  rfl

section Sample

open Sample

/-- A rule document that is not there ends the command with the code for what is wrong. -/
theorem bad_rules_missing :
    (run {} {} (listingWords "r.xml")).1 = .ok { exitCode := 2 } := by
  have hload : Document.load {} (.name "r.xml") = .error (.of .unreadableDocument "r.xml") := rfl
  have hproper : IsProper "r.xml" (Document.load {} (.name "r.xml")) :=
    .inr ⟨_, hload, Fault.names_of _ _ _⟩
  have hnone := ((bad_rules {}).1 (.name "r.xml")).mp hproper
  have hparse := parse_listingWords "r.xml" (by decide)
  have hrun := ((bad_rules {}).2.2.2 {} (listingWords "r.xml") _ _ [] "r.xml" [] hparse rfl rfl
    nofun).2 hnone
  exact hrun.resolve_left fun ⟨_, hloaded⟩ ↦ nomatch hload.symm.trans hloaded

/-- An address with one bracket of a pair ends the command with a fault that is no configuration
error. -/
theorem unbalanced_address_escapes :
    Document.load {} (.name "http://[x/r.xml") = .error (.value .unbalancedAddress) ∧
      ¬IsProper "http://[x/r.xml" (Document.load {} (.name "http://[x/r.xml")) ∧
      (run {} {} (listingWords "http://[x/r.xml")).1 = .error (.value .unbalancedAddress) := by
  have hload : Document.load {} (.name "http://[x/r.xml") = .error (.value .unbalancedAddress) := by
    cbv
  have hparse := parse_listingWords "http://[x/r.xml" (by decide)
  have hrules : ["http://[x/r.xml"] = [] ++ "http://[x/r.xml" :: [] := rfl
  refine ⟨hload, ?_, run_of_unloadable hparse rfl hrules (List.forall_mem_nil _) hload⟩
  rintro (⟨loaded, hloaded⟩ | ⟨fault, hfault, cause, node, rfl⟩)
  · cases hload.symm.trans hloaded
  · cases hload.symm.trans hfault

end Sample

end Command

end LicenseHeaders
