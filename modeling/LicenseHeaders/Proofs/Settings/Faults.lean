import LicenseHeaders.Proofs.Settings.Finding
import LicenseHeaders.Proofs.Text.Utf8

/-!
# What becomes of bad settings

Bad settings are meant to become configuration errors that name their file, and a search for
settings is meant to pass over project files without an entry for this program.
`Settings.bad_settings` says for which file trees that is so. Reading a file breaks the rule exactly
if the file is among those of `Settings.Evades`. A search breaks it exactly if it is halted, for the
first time, in a directory that stops or misleads it. A project file in which tools are no table
breaks it in both ways (`Settings.tools_without_table`).
-/

set_option autoImplicit false
set_option relaxedAutoImplicit false

namespace LicenseHeaders.Settings

open Text

/-! ### How settings are meant to be found -/

section

variable (tree : FileTree)

/-- A search has an answer, and if that is a project file, it has an entry for this program. -/
def FindsProperly (start : Path) : Prop :=
  ∃ answer, find tree start = .ok answer ∧
    ∀ path, answer = some path → path.name = projectFileName → HasEntry tree path

end

variable {tree : FileTree} {directory : Path.Directory}

/-! ### Reading -/

theorem isProper_load_iff {path : Path} :
    IsProper path.text (load tree path) ↔ ∀ fault, ¬Evades tree path fault :=
  isProper_iff (fun _ ↦ load_of_evades) (fun _ hevades ↦ not_names_of_evades hevades _)
    fun _ ↦ names_or_evades_of_load

/-! ### Finding -/

/-- A directory with settings misleads no search. -/
theorem Qualifies.not_misleads (hqualifies : Qualifies tree directory)
    (answer : Except Fault Bool) : ¬Misleads tree directory answer := by
  rintro ⟨hnone, tools, ⟨entries, hparse, hget⟩, hother, _⟩
  rcases hqualifies with hown | ⟨table, ⟨others, hparse', hget'⟩, _⟩
  · cases hnone.symm.trans hown
  · cases hparse.symm.trans hparse'
    cases hget.symm.trans hget'
    cases hother

/-- What is found in a directory is as it is meant to be if the directory has settings and does not
stop the search. -/
theorem exists_findIn_iff (hhalts : Halts tree directory) :
    (∃ path, findIn tree directory = .ok (some path) ∧
      (path.name = projectFileName → HasEntry tree path)) ↔
      Qualifies tree directory ∧ ∀ fault, ¬Stops tree directory fault := by
  constructor
  · rintro ⟨path, hfound, hentry⟩
    have hstops (fault : Fault) : ¬Stops tree directory fault := by
      intro hstops
      cases hfound.symm.trans (findIn_eq_error_iff.mpr (.inl hstops))
    refine ⟨?_, hstops⟩
    rcases findIn_eq_some_iff.mp hfound with ⟨hown, _⟩ | ⟨_, rfl, _⟩
    · exact .inl hown
    · exact .inr (hentry (name_projectFile directory))
  · rintro ⟨hqualifies, hstops⟩
    rcases hfound : findIn tree directory with fault | _ | path
    · rcases findIn_eq_error_iff.mp hfound with hstop | hmisleads
      · exact absurd hstop (hstops fault)
      · exact absurd hmisleads (hqualifies.not_misleads _)
    · exact absurd hfound (findIn_ne_none_iff.mpr hhalts)
    · refine ⟨path, rfl, fun hname ↦ ?_⟩
      rcases findIn_eq_some_iff.mp hfound with ⟨_, rfl⟩ | ⟨_, rfl, hentry | hmisleads⟩
      · rw [name_ownFile] at hname
        exact absurd hname (by decide)
      · exact hentry
      · exact absurd hmisleads (hqualifies.not_misleads _)

/-- The nearest directory that ends a search decides what is found. -/
theorem find_eq_findIn {start : Path} (hnul : start.hasNul = false)
    (hnearest : IsNearest (Halts tree) (start.resolvedNames tree.working) directory) :
    find tree start = findIn tree directory := by
  have hfound : findIn tree directory ≠ .ok none := findIn_ne_none_iff.mpr hnearest.holds
  exact (find_eq_iff _ hfound).mpr (.inr ⟨hnul, directory, isNearest_findIn_iff.mpr hnearest, rfl⟩)

theorem findsProperly_iff {start : Path} :
    FindsProperly tree start ↔ start.hasNul = false ∧
      ∀ directory, IsNearest (Halts tree) (start.resolvedNames tree.working) directory →
        Qualifies tree directory ∧ ∀ fault, ¬Stops tree directory fault := by
  constructor
  · rintro ⟨answer, hfind, hentry⟩
    have hnul : start.hasNul = false := by
      by_contra hnul
      rw [find, if_pos (Bool.eq_true_of_not_eq_false hnul)] at hfind
      cases hfind
    refine ⟨hnul, fun directory hnearest ↦ ?_⟩
    rw [find_eq_findIn hnul hnearest] at hfind
    cases answer with
    | none => exact absurd hfind (findIn_ne_none_iff.mpr hnearest.holds)
    | some path => exact (exists_findIn_iff hnearest.holds).mp ⟨path, hfind, hentry path rfl⟩
  · rintro ⟨hnul, hqualifies⟩
    by_cases hnone : find tree start = .ok none
    · exact ⟨none, hnone, nofun⟩
    · -- Something ended the search, and by assumption it was a directory with settings.
      rcases (find_eq_iff _ hnone).mp rfl with ⟨hother, _⟩ | ⟨_, directory, hnearest, hfound⟩
      · cases hnul.symm.trans hother
      · have hhalts := isNearest_findIn_iff.mp hnearest
        obtain ⟨path, hpath, hentry⟩ :=
          (exists_findIn_iff hhalts.holds).mpr (hqualifies directory hhalts)
        refine ⟨some path, hfound.symm.trans hpath, fun other hother hname ↦ ?_⟩
        cases hother
        exact hentry hname

/-- What becomes of bad settings. A file is read as it is meant to be exactly if it is not listed,
and what is listed is raised. A search is as it is meant to be exactly if its path has no character
that no path contains and the nearest directory that ends it, if any does, has settings and does not
stop it. It ends with a fault exactly for such a character or where that directory stops or misleads
it. -/
theorem bad_settings (tree : FileTree) :
    (∀ path, IsProper path.text (load tree path) ↔ ∀ fault, ¬Evades tree path fault) ∧
    (∀ path fault, Evades tree path fault → load tree path = .error fault) ∧
    (∀ start, FindsProperly tree start ↔ start.hasNul = false ∧
      ∀ directory, IsNearest (Halts tree) (start.resolvedNames tree.working) directory →
        Qualifies tree directory ∧ ∀ fault, ¬Stops tree directory fault) ∧
    ∀ start fault, find tree start = .error fault ↔
      start.hasNul = true ∧ fault = .value .nulInPath ∨ start.hasNul = false ∧
        ∃ directory, IsNearest (Halts tree) (start.resolvedNames tree.working) directory ∧
          (Stops tree directory fault ∨ Misleads tree directory (.error fault)) := by
  refine ⟨fun path ↦ isProper_load_iff, fun path fault ↦ load_of_evades,
    fun start ↦ findsProperly_iff, fun start fault ↦ ?_⟩
  rw [find_eq_iff (.error fault) nofun]
  simp only [isNearest_findIn_iff, findIn_eq_error_iff, Except.error.injEq]

/-! ### Tools that are no table -/

/-- A file tree with a project file in its root. -/
def projectTree (content : String) : FileTree :=
  { root := .directory [(projectFileName, .file (encodeUtf8 content.toList))] }

theorem toml?_projectTree (content : String) :
    (projectTree content).toml? (projectFile []) = some (Toml.parse content.toList) :=
  FileTree.toml?_eq_some_iff.mpr ⟨_, _, rfl, decodeUtf8?_encodeUtf8 _, rfl⟩

theorem parse_toolNumber : Toml.parse "tool = 1".toList = .ok [(toolKey, .integer 1)] := by
  cbv

/-- A project file in which tools are a number can be neither searched nor read: both end with a
fault that is no configuration error. -/
theorem tools_without_table :
    let tree := projectTree "tool = 1"
    find tree { start := .root } = .error (.crash .toolNotSearchable) ∧
      load tree (projectFile []) = .error (.crash .toolWithoutEntries) ∧
      ¬FindsProperly tree { start := .root } ∧
      ¬IsProper (projectFile []).text (load tree (projectFile [])) := by
  intro tree
  have hparse : tree.toml? (projectFile []) = some (.ok [(toolKey, .integer 1)]) := by
    rw [toml?_projectTree, parse_toolNumber]
  have hmisleads : Misleads tree [] (.error (.crash .toolNotSearchable)) :=
    ⟨rfl, .integer 1, ⟨_, hparse, rfl⟩, rfl, rfl⟩
  have hevades : Evades tree (projectFile []) (.crash .toolWithoutEntries) :=
    .tools rfl hparse rfl rfl
  have hnearest : IsNearest (Halts tree) [] [] :=
    isNearest_self (.inr (.inr ⟨.error _, nofun, hmisleads⟩))
  have hfind : find tree { start := .root } = .error (.crash .toolNotSearchable) :=
    (find_eq_findIn rfl hnearest).trans (findIn_eq_error_iff.mpr (.inr hmisleads))
  refine ⟨hfind, load_of_evades hevades, ?_, fun hproper ↦ isProper_load_iff.mp hproper _ hevades⟩
  rintro ⟨answer, hanswer, _⟩
  cases hfind.symm.trans hanswer

end LicenseHeaders.Settings
