import LicenseHeaders.Proofs.Analysis.Reuse
import LicenseHeaders.Proofs.Command.Arguments
import LicenseHeaders.Proofs.Command.Settings
import LicenseHeaders.Proofs.FileTree
import LicenseHeaders.Sample

/-!
# Files are checked by themselves

A command checks files with one analyser. What it reports on a file depends on the path and on what
the path leads to, and on nothing that another file has left in the analyser: `reportOn` is that
report. A check of files reports on each of them in order (`returns_checkFiles`), also where the
analyser keeps its licenses as the files before have left them (`checkInTurn_eq_checkFiles`). One
thing is not confined to its file. A path that is too long for the file tree ends the whole command
(`raises_checkFiles`), where any other path that leads to no file is reported as not approved.

`check_reports_each_alone` puts this together for command lines, and `check_lost_to_long_name` shows
a file whose report is lost to the name of another one.
-/

set_option autoImplicit false
set_option relaxedAutoImplicit false

namespace LicenseHeaders.Command

open Text

/-! ### Reports on files -/

/-- What a check reports on a path that leads to something: what the analyser says about the bytes
of a file, and that nothing is approved where there is no file that can be opened. -/
def reportOn (analyser : Analyser) (path : Path) : Except Obstacle FileNode → Report
  | .ok (.file bytes) =>
    let families := analyser.families (fileLines (decodeUtf8Lossy bytes))
    { source := path.text, families
      approved := analyser.policy.approvesSome (families.head?.map (·.category)) }
  | _ => unreadable path

theorem source_reportOn (analyser : Analyser) (path : Path) (found : Except Obstacle FileNode) :
    (reportOn analyser path found).source = path.text := by
  unfold reportOn
  split <;> rfl

/-- Where there are no bytes, nothing is recognized or approved. -/
theorem reportOn_of_read?_eq_none (analyser : Analyser) {tree : FileTree} {path : Path}
    (hnone : tree.read? path = none) :
    reportOn analyser path (tree.find path) = unreadable path := by
  unfold reportOn
  split
  · rename_i bytes hfound
    rw [FileTree.read?, hfound] at hnone
    cases hnone
  · rfl

variable {tree : FileTree} {analyser another : Analyser} {files : List Path}

theorem returns_checkFile (before : List Event) (hcountable : analyser.window ≤ maxWindow)
    {path : Path} (hfits : tree.find path ≠ .error .tooLong) :
    ∃ after, Returns (checkFile tree analyser path) before
      (reportOn analyser path (tree.find path)) after := by
  have hreport : ∀ bytes, analyser.analyseBytes bytes path.text =
      .ok (reportOn analyser path (.ok (.file bytes))) :=
    fun bytes ↦ Analyser.analyse_eq hcountable _ _
  unfold checkFile
  generalize tree.find path = found at hfits ⊢
  match found with
  | .ok (.file bytes) =>
    dsimp only
    rw [hreport]
    exact ⟨_, rfl⟩
  | .error .tooLong => exact absurd rfl hfits
  | .ok (.locked _) | .ok (.directory _) => exact ⟨_, rfl⟩
  | .error .missing | .error .notADirectory | .error .nul => exact ⟨_, rfl⟩

theorem raises_checkFile (before : List Event) {path : Path}
    (hlong : tree.find path = .error .tooLong) :
    Raises (checkFile tree analyser path) before (.crash .pathTooLong) before := by
  rw [checkFile, hlong]
  rfl

/-- A check of files reports on each of them in order. Assumes: no path that is too long. -/
theorem returns_checkFiles (before : List Event) (hcountable : analyser.window ≤ maxWindow)
    (hfits : ∀ file ∈ files, tree.find file ≠ .error .tooLong) :
    ∃ after, Returns (checkFiles tree analyser files) before
      (files.map fun file ↦ reportOn analyser file (tree.find file)) after := by
  induction files generalizing before with
  | nil => exact ⟨before, rfl⟩
  | cons file rest ih =>
    obtain ⟨hfile, hrest⟩ := List.forall_mem_cons.mp hfits
    obtain ⟨middle, hfirst⟩ := returns_checkFile before hcountable hfile
    obtain ⟨after, hothers⟩ := ih middle hrest
    exact ⟨after, returns_bind_iff.mpr ⟨_, middle, hfirst,
      returns_bind_iff.mpr ⟨_, after, hothers, rfl⟩⟩⟩

/-- A path that is too long ends a check of files wherever it stands among them. -/
theorem raises_checkFiles (before : List Event) (hcountable : analyser.window ≤ maxWindow)
    (hlong : ∃ file ∈ files, tree.find file = .error .tooLong) :
    ∃ after, Raises (checkFiles tree analyser files) before (.crash .pathTooLong) after := by
  induction files generalizing before with
  | nil =>
    obtain ⟨_, hmem, _⟩ := hlong
    cases hmem
  | cons file rest ih =>
    by_cases hfile : tree.find file = .error .tooLong
    · exact ⟨before, raises_bind_iff.mpr (.inl (raises_checkFile before hfile))⟩
    · obtain ⟨middle, hfirst⟩ := returns_checkFile before hcountable hfile
      have hlater : ∃ file ∈ rest, tree.find file = .error .tooLong :=
        ((List.exists_mem_cons_iff _ _ _).mp hlong).resolve_left hfile
      obtain ⟨after, hothers⟩ := ih middle hlater
      exact ⟨after, raises_bind_iff.mpr (.inr ⟨_, middle, hfirst,
        raises_bind_iff.mpr (.inl hothers)⟩)⟩

/-! ### One analyser for all files -/

/-- An analyser as a check of a file leaves it: a file that can be opened has been read. -/
def afterFile (tree : FileTree) (analyser : Analyser) (path : Path) : Analyser :=
  match tree.read? path with
  | some bytes => analyser.afterReport (.bytes bytes)
  | none => analyser

/-- Checks files in order with an analyser whose licenses stay as the files before have left
them. -/
def checkInTurn (tree : FileTree) (analyser : Analyser) : List Path → Running (List Report)
  | [] => pure []
  | path :: rest => do
    let report ← checkFile tree analyser path
    return report :: (← checkInTurn tree (afterFile tree analyser path) rest)

/-- Analysers that are alike check a file alike. -/
theorem checkFile_eq_of_alike (halike : Analyser.Alike analyser another) (path : Path) :
    checkFile tree analyser path = checkFile tree another path := by
  have hbytes : ∀ bytes, analyser.analyseBytes bytes path.text =
      another.analyseBytes bytes path.text :=
    fun bytes ↦ halike.report_eq (.bytes bytes) path.text
  simp only [checkFile, hbytes]

/-- A check of a file leaves an analyser behind that is like the one before. Assumes: trees of the
built-in kinds. -/
theorem alike_afterFile (tree : FileTree) (hbuiltIn : analyser.IsBuiltIn) (path : Path) :
    Analyser.Alike (afterFile tree analyser path) analyser := by
  unfold afterFile
  split
  · exact Analyser.alike_afterReport hbuiltIn _
  · exact ⟨rfl, rfl, rfl⟩

/-- What files leave in an analyser makes no difference to those that are checked after them.
Assumes: trees of the built-in kinds. -/
theorem checkInTurn_eq_checkFiles (hbuiltIn : analyser.IsBuiltIn)
    (halike : Analyser.Alike analyser another) :
    checkInTurn tree analyser files = checkFiles tree another files := by
  induction files generalizing analyser with
  | nil => rfl
  | cons path rest ih =>
    have hafter := alike_afterFile tree hbuiltIn path
    rw [checkInTurn, checkFiles, checkFile_eq_of_alike halike,
      ih (hafter.isBuiltIn hbuiltIn) (hafter.trans halike)]

/-! ### The whole command -/

variable {catalogue : Catalogue} {words : List String} {choices : Choices} {engine : Engine}
  {events : List Event}

/-- Where settings and rules load, a command comes to what is done with the engine. -/
theorem run_eq_perform [Installation] {task : Task}
    (hparse : Arguments.parse words = .ok ⟨choices, task⟩)
    (hengine : Returns (Command.engine tree catalogue choices) [] engine events) :
    (run tree catalogue words).1 = ((perform tree engine task).run.run events).1 := by
  have hexecute : (execute tree catalogue ⟨choices, task⟩).run.run [] =
      (perform tree engine task).run.run events :=
    run_bind_of_returns ((hengine.map some).tryCatch _)
  simp only [run, hparse, hexecute]
  rfl

theorem perform_check (hanalyser :
    Analyser.ofLicenses engine.licenses engine.policy engine.window = .ok analyser) (json : Bool) :
    perform tree engine (.check files json) =
      Outcome.ofReports json <$> checkFiles tree analyser files := by
  rw [perform, hanalyser, map_eq_pure_bind]
  rfl

/-- An engine that lets at least one line be read has an analyser. -/
theorem exists_analyser (hpositive : 1 ≤ engine.window) :
    ∃ analyser, Analyser.ofLicenses engine.licenses engine.policy engine.window = .ok analyser ∧
      (analyser.window : Int) = engine.window := by
  have hnot : ¬engine.window < 1 := Int.not_lt.mpr hpositive
  refine ⟨_, if_neg hnot, ?_⟩
  exact Int.toNat_of_nonneg (by omega)

/-- A report on a file is the one that is printed where the command is given this file alone. So it
is also in every other file tree in which settings and rules load to the same engine and the path
leads to the same. -/
def PrintedAlone [Installation] (tree : FileTree) (catalogue : Catalogue) (choices : Choices)
    (engine : Engine) (file : Path) (report : Report) : Prop :=
  ∀ (other : FileTree) (alone : List String) (events : List Event),
    other.find file = tree.find file →
    Returns (Command.engine other catalogue choices) [] engine events →
    Arguments.parse alone = .ok ⟨choices, .check [file] true⟩ →
    (run other catalogue alone).1 = .ok (.ofReports true [report])

section

variable [Installation] (hanalyser :
    Analyser.ofLicenses engine.licenses engine.policy engine.window = .ok analyser)
  (hcountable : analyser.window ≤ maxWindow)
  (hengine : Returns (Command.engine tree catalogue choices) [] engine events)

include hanalyser hcountable hengine

theorem run_of_fits {json : Bool}
    (hparse : Arguments.parse words = .ok ⟨choices, .check files json⟩)
    (hfits : ∀ file ∈ files, tree.find file ≠ .error .tooLong) :
    (run tree catalogue words).1 = .ok
      (.ofReports json (files.map fun file ↦ reportOn analyser file (tree.find file))) := by
  obtain ⟨after, hreturns⟩ := returns_checkFiles events hcountable hfits
  rw [run_eq_perform hparse hengine, perform_check hanalyser]
  exact congrArg Prod.fst (hreturns.map (Outcome.ofReports json))

theorem run_of_tooLong {json : Bool}
    (hparse : Arguments.parse words = .ok ⟨choices, .check files json⟩)
    (hlong : ∃ file ∈ files, tree.find file = .error .tooLong) :
    (run tree catalogue words).1 = .error (.crash .pathTooLong) := by
  obtain ⟨after, hraises⟩ := raises_checkFiles events hcountable hlong
  rw [run_eq_perform hparse hengine, perform_check hanalyser, map_eq_pure_bind]
  exact congrArg Prod.fst (raises_bind_iff.mpr (.inl hraises))

end

/-- What a check reports on a file is printed where the file is given alone. -/
theorem printedAlone_reportOn [Installation]
    (hanalyser :
      Analyser.ofLicenses engine.licenses engine.policy engine.window = .ok analyser)
    (hcountable : analyser.window ≤ maxWindow) {file : Path}
    (hfits : tree.find file ≠ .error .tooLong) :
    PrintedAlone tree catalogue choices engine file
      (reportOn analyser file (tree.find file)) := by
  intro other alone noted hfound hother halone
  have hfitsAlone : ∀ path ∈ [file], other.find path ≠ .error .tooLong := by
    rw [List.forall_mem_singleton, hfound]
    exact hfits
  rw [run_of_fits hanalyser hcountable hother halone hfitsAlone, List.map_singleton, hfound]

/-- Files are checked by themselves, as long as no path is too long. A command line that checks
files, and whose settings and rules load, prints one record for each of them in order. The record of
a file is the one that is printed where the file is given alone, whatever the files beside it are
and whatever they contain, though one analyser has read all of them and keeps what they leave in its
licenses; a path that leads to no file that can be opened has a record without a family that is not
approved; and the exit code is zero if every record is approved and one otherwise. If a path is too
long, the command ends without any record. For every file there is a command line with the same
words in front of the task that gives it alone. Assumes: licenses with trees of the built-in kinds,
and a window that can be counted. -/
theorem check_reports_each_alone [Installation]
    (hparse : Arguments.parse words = .ok ⟨choices, .check files true⟩)
    (hengine : Returns (Command.engine tree catalogue choices) [] engine events)
    (hbuiltIn : ∀ license ∈ engine.licenses, license.matcher.isBuiltIn = true)
    (hcountable : engine.window ≤ maxWindow) :
    ((∀ file ∈ files, tree.find file ≠ .error .tooLong) →
      ∃ reports : List Report,
        (run tree catalogue words).1 = .ok
          { exitCode := if reports.all (·.approved) then 0 else 1
            output := Report.records (some 2) reports ++ "\n" } ∧
        List.Forall₂ (fun file report ↦
          report.source = file.text ∧
          PrintedAlone tree catalogue choices engine file report ∧
          (tree.read? file = none → report.families = [] ∧ report.approved = false))
          files reports ∧
        ∃ analyser after,
          Analyser.ofLicenses engine.licenses engine.policy engine.window = .ok analyser ∧
          Returns (checkInTurn tree analyser files) events reports after) ∧
    ((∃ file ∈ files, tree.find file = .error .tooLong) →
      (run tree catalogue words).1 = .error (.crash .pathTooLong)) ∧
    ∀ file ∈ files, ∃ front behind name,
      words = front ++ "check" :: behind ∧ file = Path.ofText name ∧
        Arguments.parse (front ++ ["check", "--json", "--", name]) =
          .ok ⟨choices, .check [file] true⟩ := by
  obtain ⟨analyser, hanalyser, hwindow⟩ := exists_analyser (one_le_window_of_engine hengine)
  have hlines : analyser.window ≤ maxWindow := by omega
  refine ⟨fun hfits ↦ ?_, run_of_tooLong hanalyser hlines hengine hparse,
    fun file hfile ↦ exists_parse_alone hparse hfile⟩
  refine ⟨files.map fun file ↦ reportOn analyser file (tree.find file),
    run_of_fits hanalyser hlines hengine hparse hfits, ?_, ?_⟩
  · rw [List.forall₂_map_right_iff, List.forall₂_same]
    refine fun file hfile ↦ ⟨source_reportOn _ _ _,
      printedAlone_reportOn hanalyser hlines (hfits file hfile), fun hnone ↦ ?_⟩
    rw [reportOn_of_read?_eq_none analyser hnone]
    exact ⟨rfl, rfl⟩
  · obtain ⟨after, hreturns⟩ := returns_checkFiles events hlines hfits
    refine ⟨analyser, after, hanalyser, ?_⟩
    rw [checkInTurn_eq_checkFiles (Analyser.isBuiltIn_of_ofLicenses hbuiltIn hanalyser)
      ⟨rfl, rfl, rfl⟩]
    exact hreturns

/-! ### A command in a small file tree -/

/-- A rule document with one license. -/
def sampleRules : Bytes :=
  encodeUtf8 "<rules><license id='A' name='Alpha'><text>Foo</text></license></rules>".toList

/-- What the rule document declares. -/
def sampleDocument : Document :=
  let matcher : Node := { tag := "text", text := "Foo", source := "r.xml" }
  { licenses := [⟨"license", [("id", "A"), ("name", "Alpha")], "", [matcher], "r.xml"⟩]
    sources := ["r.xml"] }

/-- A file tree with the rule document, a file that is recognized and one that is locked. -/
def sampleTree : FileTree :=
  { root := .directory
      [("r.xml", .file sampleRules), ("ok.py", .file (encodeUtf8 "# Foo".toList)),
        ("locked.py", .locked "Permission denied")] }

/-- The words of a check of two files with the rule document. -/
def sampleWords (name : String) : List String :=
  ["--no-defaults", "--rules", "r.xml", "check", "--json", "ok.py", name]

def sampleChoices : Choices := { noDefaults := true, rules := ["r.xml"] }

def sampleEngine : Engine :=
  { licenses := [⟨⟨"A", "Alpha"⟩, .leaf none (.literal "Foo") .unknown, none, none⟩]
    policy := ⟨["A"]⟩
    window := 50 }

theorem load_sampleDocument :
    Document.load sampleTree (.name "r.xml") =
      .ok (sampleDocument, sampleDocument.loaded "r.xml" .xml) := by
  have hformat : Document.Format.ofName "r.xml" = .ok .xml := rfl
  have hbytes : (Source.name "r.xml").read? sampleTree = .ok (some sampleRules) := rfl
  have hparse : Document.parse .xml "r.xml" (.bytes sampleRules) = .ok sampleDocument := by cbv
  simp only [Document.load, Source.text, hformat, hbytes, hparse, ok_bind]
  rfl

theorem returns_sampleEngine [Installation] :
    ∃ events, Returns (Command.engine sampleTree {} sampleChoices) [] sampleEngine events := by
  have hsettings : sampleChoices.settings sampleTree =
      .ok { useDefaults := false, rules := ["r.xml"] } :=
    rfl
  have hbuild : (Engine.build sampleTree {} { useDefaults := false, rules := ["r.xml"] }).1 =
      .ok sampleEngine := by
    simp only [Engine.build, Engine.assemble, Reader.loadAll, Reader.load, load_sampleDocument,
      List.map]
    cbv
  exact ⟨_, returns_engine_iff.mpr ⟨_, hsettings, hbuild, rfl⟩⟩

theorem parse_sampleWords (name : String) (hname : name.toList.head? ≠ some '-') :
    Arguments.parse (sampleWords name) =
      .ok ⟨sampleChoices, .check [.ofText "ok.py", .ofText name] true⟩ := by
  have hdivider : name ≠ "--" := by
    rintro rfl
    exact hname rfl
  have hlast : ∀ switches, Word.classifyAll switches [name] = some [(name, .plain)] :=
    fun switches ↦ (Word.classifyAll_cons_eq_some_iff hdivider).mpr
      ⟨.plain, [], Word.classify_of_head?_ne hname switches, rfl, rfl⟩
  have hmain : Word.classifyAll mainSwitches (sampleWords name) =
      some [("--no-defaults", .flags [.noDefaults]), ("--rules", .awaiting [] .rules),
        ("r.xml", .plain), ("check", .plain), ("--json", .flags [.jsonLog]), ("ok.py", .plain),
        (name, .plain)] := by
    iterate 6
      refine (Word.classifyAll_cons_eq_some_iff (by decide)).mpr ⟨_, _, rfl, ?_, rfl⟩
    exact hlast _
  have htask : Word.classifyAll taskSwitches ["--json", "ok.py", name] =
      some [("--json", .flags [.json]), ("ok.py", .plain), (name, .plain)] := by
    iterate 2
      refine (Word.classifyAll_cons_eq_some_iff (by decide)).mpr ⟨_, _, rfl, ?_, rfl⟩
    exact hlast _
  have hof : Task.ofWords "check" ["--json", "ok.py", name] =
      .ok (.check [.ofText "ok.py", .ofText name] true, false) := by
    simp only [Task.ofWords, readTask, htask]
    rfl
  simp only [Arguments.parse, hmain, readWords, List.map, hof]
  rfl

section Sample

open Sample

/-- A file that is recognized beside one that is not there. -/
theorem check_reports_each_alone_missing :
    Arguments.parse (sampleWords "missing.py") =
        .ok ⟨sampleChoices, .check [.ofText "ok.py", .ofText "missing.py"] true⟩ ∧
      (∀ license ∈ sampleEngine.licenses, license.matcher.isBuiltIn = true) ∧
      sampleEngine.window ≤ maxWindow ∧
      ∃ events, Returns (Command.engine sampleTree {} sampleChoices) [] sampleEngine events ∧
        ∃ first second : Report,
          (run sampleTree {} (sampleWords "missing.py")).1 = .ok
            { exitCode := 1, output := Report.records (some 2) [first, second] ++ "\n" } ∧
          PrintedAlone sampleTree {} sampleChoices sampleEngine (.ofText "ok.py") first ∧
          PrintedAlone sampleTree {} sampleChoices sampleEngine (.ofText "missing.py") second ∧
          second.families = [] := by
  have hparse := parse_sampleWords "missing.py" (by decide)
  have hbuiltIn : ∀ license ∈ sampleEngine.licenses, license.matcher.isBuiltIn = true := by
    decide
  have hcountable : sampleEngine.window ≤ maxWindow := by
    decide
  obtain ⟨events, hengine⟩ := returns_sampleEngine
  have hfound : sampleTree.find (.ofText "ok.py") = .ok (.file (encodeUtf8 "# Foo".toList)) := rfl
  have hmissing : sampleTree.find (.ofText "missing.py") = .error .missing := rfl
  have hfits : ∀ file ∈ [Path.ofText "ok.py", .ofText "missing.py"],
      sampleTree.find file ≠ .error .tooLong := by
    rw [List.forall_mem_cons, List.forall_mem_singleton, hfound, hmissing]
    exact ⟨nofun, nofun⟩
  obtain ⟨reports, hrun, heach, -⟩ :=
    (check_reports_each_alone hparse hengine hbuiltIn hcountable).1 hfits
  obtain ⟨first, _, ⟨-, hfirst, -⟩, hrest, rfl⟩ := List.forall₂_cons_left_iff.mp heach
  obtain ⟨second, _, ⟨-, hsecond, hnone⟩, hend, rfl⟩ := List.forall₂_cons_left_iff.mp hrest
  obtain rfl := List.forall₂_nil_left_iff.mp hend
  obtain ⟨hfamilies, hrefused⟩ := hnone (by rw [FileTree.read?, hmissing])
  refine ⟨hparse, hbuiltIn, hcountable, events, hengine, first, second, ?_, hfirst, hsecond,
    hfamilies⟩
  simpa [hrefused] using hrun

/-- A name of so many letters. -/
def nameOfLength (length : Nat) : String :=
  String.ofList (List.replicate length 'a')

theorem toList_nameOfLength (length : Nat) :
    (nameOfLength length).toList = List.replicate length 'a' :=
  String.toList_ofList

/-- A name of too many letters leads nowhere. -/
theorem find_nameOfLength (length : Nat) (hlong : FileNode.maxNameSize < length) :
    sampleTree.find (.ofText (nameOfLength length)) = .error .tooLong := by
  have hletters := toList_nameOfLength length
  have hmany : 255 < length := hlong
  have hsize : (encodeUtf8 (nameOfLength length).toList).length = length := by
    have hbyte : encodeUtf8Char 'a' = [97] := rfl
    simp [hletters, encodeUtf8, hbyte]
  have hpath : Path.ofText (nameOfLength length) = { names := [nameOfLength length] } := by
    refine Path.ofText_of_not_mem ?_ ?_ ?_
    · simp [hletters]
    · rw [hletters, ne_eq, List.replicate_eq_nil_iff]
      omega
    · rw [hletters]
      exact fun h ↦ absurd (congrArg List.length h) (by simp; omega)
  rw [hpath]
  refine FileTree.find_of_long_name rfl rfl ?_ (hlong.trans_eq hsize.symm)
  rw [hletters]
  exact fun hmem ↦ absurd (List.eq_of_mem_replicate hmem) (by decide)

/-- A file that is not there, and whose name has a letter too many, ends the command, and the report
on the file beside it is lost. -/
theorem check_lost_to_long_name :
    Arguments.parse (sampleWords (nameOfLength 256)) =
        .ok ⟨sampleChoices, .check [.ofText "ok.py", .ofText (nameOfLength 256)] true⟩ ∧
      (∃ events, Returns (Command.engine sampleTree {} sampleChoices) [] sampleEngine events) ∧
      (∀ license ∈ sampleEngine.licenses, license.matcher.isBuiltIn = true) ∧
      sampleEngine.window ≤ maxWindow ∧
      sampleTree.read? (.ofText (nameOfLength 256)) = none ∧
      ¬∃ outcome, (run sampleTree {} (sampleWords (nameOfLength 256))).1 = .ok outcome := by
  have hlong := find_nameOfLength 256 (by decide)
  have hparse := parse_sampleWords (nameOfLength 256) (by
    rw [toList_nameOfLength, List.head?_replicate]
    decide)
  obtain ⟨events, hengine⟩ := returns_sampleEngine
  obtain ⟨analyser, hanalyser, hwindow⟩ := exists_analyser (one_le_window_of_engine hengine)
  have hcountable : sampleEngine.window ≤ maxWindow := by
    decide
  have hlines : analyser.window ≤ maxWindow := by omega
  have hlost := run_of_tooLong hanalyser hlines hengine hparse
    ⟨_, List.mem_cons_of_mem _ List.mem_cons_self, hlong⟩
  refine ⟨hparse, ⟨events, hengine⟩, by decide, hcountable, ?_, ?_⟩
  · rw [FileTree.read?, hlong]
  · rw [hlost]
    exact nofun

end Sample

end LicenseHeaders.Command
