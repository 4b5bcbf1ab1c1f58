import LicenseHeaders.Proofs.Settings.Finding
import LicenseHeaders.Proofs.Text.Utf8
import LicenseHeaders.Proofs.Toml.Numbers

/-!
# The nearest settings

Where tools are tables, a search is decided by the nearest directory that has settings, and it
answers with the file in which they stand (`Settings.find_eq_nearest`). Nothing without settings
ends it: not a project file that is malformed or no text, and not a directory with the name of a
file of settings. Two things do, by a fault: a path that is too long, and a number that is too long
to be read. So such a number in a project file hides the settings above it
(`Settings.long_number_hides_settings`). The project file that a search answers with has an entry
for this program, and reading settings from it reads that entry and does not fall back on the
settings that hold without a file.
-/

set_option autoImplicit false
set_option relaxedAutoImplicit false

namespace LicenseHeaders.Settings

open Text

/-- What every project file that is a TOML document holds under the key of tools, if it has the key,
is a table. -/
def ToolsAreTables (tree : FileTree) : Prop :=
  ∀ (path : Path) (entries : Toml.Table) (tools : Toml.Value), path.name = projectFileName →
    tree.toml? path = some (.ok entries) → Toml.Table.get? entries toolKey = some tools →
      ∃ table, tools = .table table

/-- A search goes no further than a directory: it has settings, or it stops the search. -/
def EndsSearch (tree : FileTree) (directory : Path.Directory) : Prop :=
  Qualifies tree directory ∨ ∃ fault, Stops tree directory fault

variable {tree : FileTree} {directory : Path.Directory}

theorem exists_get?_of_contains {table : Toml.Table} {key : String}
    (hcontains : Toml.Table.contains table key = true) :
    ∃ value, Toml.Table.get? table key = some value := by
  have hfound : (table.find? fun entry ↦ entry.1 == key).isSome = true := by
    rwa [List.find?_isSome, ← List.any_eq_true]
  obtain ⟨entry, hentry⟩ := Option.isSome_iff_exists.mp hfound
  exact ⟨entry.2, by rw [Toml.Table.get?, hentry]; rfl⟩

/-- Where tools are tables, nothing misleads a search. -/
theorem ToolsAreTables.not_misleads (htables : ToolsAreTables tree) (answer : Except Fault Bool) :
    ¬Misleads tree directory answer := by
  rintro ⟨_, tools, ⟨entries, hparse, hget⟩, hother, _⟩
  obtain ⟨table, rfl⟩ := htables _ entries tools (name_projectFile directory) hparse hget
  cases hother

theorem ToolsAreTables.findIn_ne_none_iff (htables : ToolsAreTables tree) :
    findIn tree directory ≠ .ok none ↔ EndsSearch tree directory := by
  simp [Settings.findIn_ne_none_iff, Halts, htables.not_misleads, EndsSearch]

theorem ToolsAreTables.isNearest_iff (htables : ToolsAreTables tree) {place : Path.Directory} :
    IsNearest (findIn tree · ≠ .ok none) place directory ↔
      IsNearest (EndsSearch tree) place directory := by
  simp only [htables.findIn_ne_none_iff]

/-- A directory without settings that can be read does not end a search. -/
theorem not_endsSearch_of_malformed (hnone : tree.isFile? (ownFile directory) = some false)
    (hproject : tree.toml? (projectFile directory) = none ∨
      tree.toml? (projectFile directory) = some (.error .malformed)) :
    ¬EndsSearch tree directory := by
  rintro ((hown | ⟨tools, ⟨entries, hparse, _⟩, _⟩) | ⟨fault, hlong | ⟨_, hparse⟩⟩)
  · cases hnone.symm.trans hown
  · rcases hproject with hproject | hproject <;> cases hproject.symm.trans hparse
  · cases hnone.symm.trans hlong
  · rcases hproject with hproject | hproject <;> cases hproject.symm.trans hparse

/-- What is found in a directory that does not stop the search. -/
theorem findIn_eq_some_iff_of_not_stops (htables : ToolsAreTables tree)
    (hstops : ∀ fault, ¬Stops tree directory fault) {path : Path} :
    findIn tree directory = .ok (some path) ↔ Qualifies tree directory ∧
      (HasOwnFile tree directory → path = ownFile directory) ∧
      (¬HasOwnFile tree directory → path = projectFile directory) := by
  rw [findIn_eq_some_iff]
  rcases hown : tree.isFile? (ownFile directory) with _ | _ | _
  · exact absurd (.path hown) (hstops _)
  · simp [Qualifies, HasOwnFile, hown, htables.not_misleads, and_comm]
  · simp [Qualifies, HasOwnFile, hown]

/-- Settings that a search has found in a project file are those of its entry for this program. -/
theorem load_of_find (htables : ToolsAreTables tree) {start path : Path}
    (hfind : find tree start = .ok (some path)) (hname : path.name = projectFileName) :
    ∃ entries tools value, tree.toml? path = some (.ok entries) ∧
      Toml.Table.get? entries toolKey = some (.table tools) ∧
      Toml.Table.get? tools tableKey = some value ∧
      load tree path =
        match value with
        | .table table => ofTable table path
        | _ => .error (.of .settingsNotTable path.text) := by
  rcases (find_eq_iff (.ok (some path)) nofun).mp hfind with ⟨_, hnul⟩ | ⟨_, directory, _, hfound⟩
  · cases hnul
  rcases findIn_eq_some_iff.mp hfound with ⟨_, rfl⟩ | ⟨_, rfl, hentry⟩
  · rw [name_ownFile] at hname
    exact absurd hname (by decide)
  · obtain ⟨tools, ⟨entries, hparse, hget⟩, hcontains⟩ :=
      hentry.resolve_right (htables.not_misleads _)
    obtain ⟨value, hvalue⟩ := exists_get?_of_contains hcontains
    refine ⟨entries, tools, value, hparse, hget, hvalue, ?_⟩
    rw [load_of_toml hparse, if_pos hname, ofProject, hget]
    dsimp only
    rw [hvalue]
    cases value <;> rfl

/-- The nearest settings. A search from a path finds nothing exactly if no directory at or above it
has settings or stops the search. Otherwise the nearest directory that does either decides: if it
does not stop the search, the answer is its file of settings, or its project file if it has no such
file. A directory whose file of settings is none and whose project file is none, no text or
malformed is passed over. And reading settings from a project file that was found reads its entry
for this program. -/
theorem find_eq_nearest (htables : ToolsAreTables tree) (start : Path) :
    (find tree start = .ok none ↔ start.hasNul = false ∧
      ∀ directory, directory <+: start.resolvedNames tree.working →
        ¬EndsSearch tree directory) ∧
    (∀ path, find tree start = .ok (some path) ↔ start.hasNul = false ∧
      ∃ directory, IsNearest (EndsSearch tree) (start.resolvedNames tree.working) directory ∧
        (∀ fault, ¬Stops tree directory fault) ∧ Qualifies tree directory ∧
        (HasOwnFile tree directory → path = ownFile directory) ∧
        (¬HasOwnFile tree directory → path = projectFile directory)) ∧
    (∀ fault, find tree start = .error fault ↔
      start.hasNul = true ∧ fault = .value .nulInPath ∨ start.hasNul = false ∧
        ∃ directory, IsNearest (EndsSearch tree) (start.resolvedNames tree.working) directory ∧
          Stops tree directory fault) ∧
    (∀ directory, tree.isFile? (ownFile directory) = some false →
      (tree.toml? (projectFile directory) = none ∨
        tree.toml? (projectFile directory) = some (.error .malformed)) →
      ¬EndsSearch tree directory) ∧
    ∀ path, find tree start = .ok (some path) → path.name = projectFileName →
      ∃ entries tools value, tree.toml? path = some (.ok entries) ∧
        Toml.Table.get? entries toolKey = some (.table tools) ∧
        Toml.Table.get? tools tableKey = some value ∧
        load tree path =
          match value with
          | .table table => ofTable table path
          | _ => .error (.of .settingsNotTable path.text) := by
  refine ⟨?_, fun path ↦ ?_, fun fault ↦ ?_, fun directory ↦ not_endsSearch_of_malformed,
    fun path ↦ load_of_find htables⟩
  · simp only [find_eq_none_iff, ← htables.findIn_ne_none_iff, not_not]
  · rw [find_eq_iff (.ok (some path)) nofun]
    simp only [htables.isNearest_iff]
    constructor
    · rintro (⟨_, hnul⟩ | ⟨hnul, directory, hnearest, hfound⟩)
      · cases hnul
      · have hstops : ∀ fault, ¬Stops tree directory fault := by
          intro fault hstops
          cases hfound.symm.trans (findIn_eq_error_iff.mpr (.inl hstops))
        exact ⟨hnul, directory, hnearest, hstops,
          (findIn_eq_some_iff_of_not_stops htables hstops).mp hfound⟩
    · rintro ⟨hnul, directory, hnearest, hstops, hqualifies⟩
      exact .inr ⟨hnul, directory, hnearest,
        (findIn_eq_some_iff_of_not_stops htables hstops).mpr hqualifies⟩
  · rw [find_eq_iff (.error fault) nofun]
    simp only [htables.isNearest_iff, findIn_eq_error_iff, htables.not_misleads, or_false,
      Except.error.injEq]

/-! ### A search that goes up -/

/-- Tools are tables in a tree if they are in each of its files, all of which are in a list that has
the root and what is below its members. -/
theorem toolsAreTables_of_nodes {nodes : List FileNode} (hroot : tree.root ∈ nodes)
    (hentries : ∀ entries, .directory entries ∈ nodes → ∀ entry ∈ entries, entry.2 ∈ nodes)
    (hfiles : ∀ bytes characters entries tools, .file bytes ∈ nodes →
      decodeUtf8? bytes = some characters → Toml.parse characters = .ok entries →
      Toml.Table.get? entries toolKey = some tools → ∃ table, tools = .table table) :
    ToolsAreTables tree := by
  intro path entries tools _ hparse hget
  obtain ⟨bytes, characters, hread, hdecode, hentriesOf⟩ := FileTree.toml?_eq_some_iff.mp hparse
  have hfile : FileNode.file bytes ∈ nodes := by
    have hfind := FileTree.read?_eq_some_iff.mp hread
    rw [FileTree.find] at hfind
    split at hfind
    · cases hfind
    · split at hfind
      · cases hfind
      · exact FileNode.of_walk hentries (List.forall_mem_nil _) hroot hfind
  exact hfiles bytes characters entries tools hfile hdecode hentriesOf hget

/-- A project file with an entry for this program. -/
def sampleProject : Bytes :=
  encodeUtf8 "[tool.licensekit]".toList

theorem decode_sampleProject : decodeUtf8? sampleProject = some "[tool.licensekit]".toList := by
  cbv

theorem parse_sampleProject :
    Toml.parse "[tool.licensekit]".toList = .ok [(toolKey, .table [(tableKey, .table [])])] := by
  cbv

/-- A directory with a project file that is no text, and with a directory that has the name of a
file of settings. -/
def hidingDirectory : FileNode :=
  .directory [(fileName, .directory []), (projectFileName, .file [0xFF])]

/-- A project file with an entry above such a directory. -/
def nestedTree : FileTree :=
  { root := .directory [(projectFileName, .file sampleProject), ("a", hidingDirectory)] }

theorem toolsAreTables_nestedTree : ToolsAreTables nestedTree := by
  have hroot : nestedTree.root ∈ [nestedTree.root, .file sampleProject, hidingDirectory,
      .directory [], .file [0xFF]] := List.mem_cons_self
  refine toolsAreTables_of_nodes hroot ?_ ?_
  · simp only [List.mem_cons, List.not_mem_nil, or_false, nestedTree, hidingDirectory]
    rintro entries (⟨⟨⟩⟩ | ⟨⟨⟩⟩ | ⟨⟨⟩⟩ | ⟨⟨⟩⟩ | ⟨⟨⟩⟩) <;> simp
  · simp only [List.mem_cons, List.not_mem_nil, or_false, nestedTree, hidingDirectory]
    rintro bytes characters entries tools (⟨⟨⟩⟩ | ⟨⟨⟩⟩ | ⟨⟨⟩⟩ | ⟨⟨⟩⟩ | ⟨⟨⟩⟩) hdecode hparse hget
    · cases decode_sampleProject.symm.trans hdecode
      cases parse_sampleProject.symm.trans hparse
      cases hget
      exact ⟨_, rfl⟩
    · cases hdecode

/-- The nearest settings of a directory are above it. -/
theorem find_eq_nearest_above :
    let start : Path := { start := .root, names := ["a"] }
    ToolsAreTables nestedTree ∧
      find nestedTree start = .ok (some { start := .root, names := [projectFileName] }) := by
  intro start
  have hproject : nestedTree.toml? (projectFile []) =
      some (.ok [(toolKey, .table [(tableKey, .table [])])]) :=
    FileTree.toml?_eq_some_iff.mpr
      ⟨sampleProject, _, rfl, decode_sampleProject, parse_sampleProject⟩
  have hpasses : ¬EndsSearch nestedTree ["a"] :=
    not_endsSearch_of_malformed rfl (.inl rfl)
  have hqualifies : Qualifies nestedTree [] :=
    .inr ⟨_, ⟨_, hproject, rfl⟩, rfl⟩
  have hnone : nestedTree.isFile? (ownFile []) = some false := rfl
  have hstops (fault : Fault) : ¬Stops nestedTree [] fault := by
    rintro (hlong | ⟨_, hparse⟩)
    · cases hnone.symm.trans hlong
    · cases hproject.symm.trans hparse
  refine ⟨toolsAreTables_nestedTree,
    ((find_eq_nearest toolsAreTables_nestedTree start).2.1 _).mpr ⟨rfl, [], ?_, hstops, hqualifies,
      fun hown ↦ ?_, fun _ ↦ rfl⟩⟩
  · refine ⟨List.nil_prefix, .inl hqualifies, fun other hother hlength ↦ ?_⟩
    have hinner : other = ["a"] := hother.eq_of_length_le hlength
    rw [hinner]
    exact hpasses
  · cases hnone.symm.trans hown

/-! ### A search that is stopped -/

/-- A project file with a number of the given digits, below a file of settings. -/
def numberTree (digits : List Char) : FileTree :=
  { root := .directory [(fileName, .file []),
      ("a", .directory [(projectFileName, .file (encodeUtf8 ('x' :: '=' :: digits)))])] }

theorem toolsAreTables_numberTree {digits : List Char} {refusal : Toml.Refusal}
    (hrefused : Toml.parse ('x' :: '=' :: digits) = .error refusal) :
    ToolsAreTables (numberTree digits) := by
  have hroot : (numberTree digits).root ∈ [(numberTree digits).root, .file [],
      .directory [(projectFileName, .file (encodeUtf8 ('x' :: '=' :: digits)))],
      .file (encodeUtf8 ('x' :: '=' :: digits))] := List.mem_cons_self
  refine toolsAreTables_of_nodes hroot ?_ ?_
  · simp only [List.mem_cons, List.not_mem_nil, or_false, numberTree]
    rintro entries (⟨⟨⟩⟩ | ⟨⟨⟩⟩ | ⟨⟨⟩⟩ | ⟨⟨⟩⟩) <;> simp
  · simp only [List.mem_cons, List.not_mem_nil, or_false, numberTree]
    rintro bytes characters entries tools (⟨⟨⟩⟩ | hempty | ⟨⟨⟩⟩ | hnumber) hdecode hparse hget
    · cases hempty
      cases hdecode
      cases hparse
      cases hget
    · cases hnumber
      cases (decodeUtf8?_encodeUtf8 _).symm.trans hdecode
      cases hrefused.symm.trans hparse

/-- A number that is too long hides the settings above it: the search ends with a fault, although a
directory that it asks later has a file of settings. -/
theorem long_number_hides_settings :
    let tree := numberTree (List.replicate (maxDigits + 1) '1')
    let start : Path := { start := .root, names := ["a"] }
    ToolsAreTables tree ∧ start.resolvedNames tree.working = ["a"] ∧ Qualifies tree [] ∧
      find tree start = .error (.value (.numberTooLong (maxDigits + 1))) := by
  intro tree start
  have hlong : maxDigits < ('1' :: List.replicate maxDigits '1').length := by
    rw [List.length_cons, List.length_replicate]
    exact Nat.lt_succ_self maxDigits
  have hrefused : Toml.parse ('x' :: '=' :: List.replicate (maxDigits + 1) '1') =
      .error (.numberTooLong (maxDigits + 1)) := by
    have hdigits := Toml.areDigits_replicate (by decide : Toml.isDigit '1' = true) (maxDigits + 1)
    have hparse := Toml.parse_tooManyDigits hdigits (by decide) hlong
    rwa [← List.replicate_succ, List.length_replicate] at hparse
  have hparse : tree.toml? (projectFile ["a"]) = some (.error (.numberTooLong (maxDigits + 1))) :=
    FileTree.toml?_eq_some_iff.mpr ⟨_, _, rfl, decodeUtf8?_encodeUtf8 _, hrefused⟩
  have hnone : tree.isFile? (ownFile ["a"]) = some false := rfl
  have hfound : findIn tree ["a"] = .error (.value (.numberTooLong (maxDigits + 1))) :=
    findIn_eq_error_iff.mpr (.inl (.number hnone hparse))
  refine ⟨toolsAreTables_numberTree hrefused, rfl, .inl rfl, ?_⟩
  have hnearest : IsNearest (findIn tree · ≠ .ok none) ["a"] ["a"] :=
    isNearest_self (ne_of_eq_of_ne hfound nofun)
  exact (find_eq_iff (.error _) nofun).mpr (.inr ⟨rfl, ["a"], hnearest, hfound⟩)

end LicenseHeaders.Settings
