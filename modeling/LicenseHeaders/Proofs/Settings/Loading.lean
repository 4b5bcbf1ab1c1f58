import LicenseHeaders.Proofs.Refusal
import LicenseHeaders.Settings.Basic

/-!
# Faults of settings

Settings that cannot be read are a configuration error that names their file. That is so for every
table of settings, whatever its keys hold (`Settings.raisesOnly_ofTable`). It is not so for every
file. `Settings.Evades` lists what becomes another fault: a path with a character that no path
contains, a number that is too long to be read, and a project file in which tools are no table. All
that remains is refused by name (`Settings.names_or_evades_of_load`), and nothing that is listed is
(`Settings.load_of_evades`).
-/

set_option autoImplicit false
set_option relaxedAutoImplicit false

namespace LicenseHeaders

open Text

namespace FileTree

/-- What the content of a file is as a TOML document. There is no answer if a path leads to no file
that can be opened, or if the content is no text. -/
def toml? (tree : FileTree) (path : Path) : Option (Except Toml.Refusal Toml.Table) :=
  (tree.read? path).bind fun bytes ↦ (decodeUtf8? bytes).map Toml.parse

variable {tree : FileTree} {path : Path}

theorem toml?_eq_some_iff {result : Except Toml.Refusal Toml.Table} :
    tree.toml? path = some result ↔ ∃ bytes characters, tree.read? path = some bytes ∧
      decodeUtf8? bytes = some characters ∧ Toml.parse characters = result := by
  simp only [toml?, Option.bind_eq_some_iff, Option.map_eq_some_iff, exists_and_left]

theorem read?_eq_some_iff {bytes : Bytes} :
    tree.read? path = some bytes ↔ tree.find path = .ok (.file bytes) := by
  unfold read?
  split
  · next found hfound => rw [hfound, Option.some.injEq, Except.ok.injEq, FileNode.file.injEq]
  · next hnone => exact ⟨nofun, fun hfile ↦ absurd hfile (hnone bytes)⟩

/-- A path with a character that no path contains leads nowhere. -/
theorem hasNul_of_read? {bytes : Bytes} (hread : tree.read? path = some bytes) :
    path.hasNul = false := by
  rw [read?_eq_some_iff, find] at hread
  split at hread
  · cases hread
  · exact Bool.eq_false_of_not_eq_true ‹_›

end FileTree

namespace Settings

/-- What reading settings from a path becomes where it becomes neither settings nor a configuration
error that names the path. -/
inductive Evades (tree : FileTree) (path : Path) : Fault → Prop
  | nul (hnul : path.hasNul = true) : Evades tree path (.value .nulInFile)
  | number {digits : Nat} (hparse : tree.toml? path = some (.error (.numberTooLong digits))) :
    Evades tree path (.value (.numberTooLong digits))
  | tools {entries : Toml.Table} {tools : Toml.Value} (hname : path.name = projectFileName)
    (hparse : tree.toml? path = some (.ok entries))
    (htools : Toml.Table.get? entries toolKey = some tools) (hother : tools.table? = none) :
    Evades tree path (.crash .toolWithoutEntries)

theorem raisesOnly_setting {Value : Type} {allowed : Fault → Prop} {table : Toml.Table}
    {key : String} {default : Value} {read : Toml.Value → Option Value} {refusal : Fault}
    (hrefusal : allowed refusal) : RaisesOnly allowed (setting table key default read refusal) := by
  unfold setting
  split
  · exact raisesOnly_ok _
  · split
    · exact raisesOnly_ok _
    · exact raisesOnly_error hrefusal

/-- A table of settings is refused by the name of its file, whatever its keys hold. -/
theorem raisesOnly_ofTable (table : Toml.Table) (path : Path) :
    RaisesOnly (·.Names path.text) (ofTable table path) := by
  have hrefused (cause : Cause) : (Fault.of cause path.text).Names path.text :=
    Fault.names_of cause path.text ""
  simp only [ofTable]
  split
  · exact raisesOnly_error (hrefused _)
  · refine (raisesOnly_setting (hrefused _)).bind fun useDefaults _ ↦ ?_
    refine (raisesOnly_setting (hrefused _)).bind fun window _ ↦ ?_
    refine (raisesOnly_setting (hrefused _)).bind fun rules _ ↦ ?_
    exact (raisesOnly_setting (hrefused _)).bind fun approve _ ↦ raisesOnly_ok _

variable {tree : FileTree} {path : Path}

/-- A project file is refused by its name, unless tools are no table in it. -/
theorem names_or_of_ofProject {entries : Toml.Table} {fault : Fault}
    (hread : ofProject entries path = .error fault) :
    fault.Names path.text ∨ fault = .crash .toolWithoutEntries ∧
      ∃ tools, Toml.Table.get? entries toolKey = some tools ∧ tools.table? = none := by
  unfold ofProject at hread
  split at hread
  · cases hread
  · split at hread
    · cases hread
    · exact .inl (raisesOnly_ofTable _ _ fault hread)
    · cases hread
      exact .inl (Fault.names_of _ _ _)
  · next tools hother htools =>
    cases hread
    refine .inr ⟨rfl, tools, htools, ?_⟩
    cases tools with
    | table entries => exact absurd rfl (hother entries)
    | _ => rfl

/-- How settings are read from a file that is a TOML document. -/
theorem load_of_toml {entries : Toml.Table} (hparse : tree.toml? path = some (.ok entries)) :
    load tree path =
      if path.name = projectFileName then ofProject entries path else ofTable entries path := by
  obtain ⟨bytes, characters, hread, hdecode, hentries⟩ := FileTree.toml?_eq_some_iff.mp hparse
  simp only [load, FileTree.hasNul_of_read? hread, hread, hdecode, Document.tomlTable, hentries]
  rfl

/-- Settings that are not read are refused by the name of their file, unless they are among what is
listed. -/
theorem names_or_evades_of_load {fault : Fault} (hload : load tree path = .error fault) :
    fault.Names path.text ∨ Evades tree path fault := by
  rcases hparse : tree.toml? path with _ | refusal | entries
  · -- Without a document there is no file or no text, unless the path leads nowhere at all.
    simp only [load] at hload
    split at hload
    · next hnul =>
      cases hload
      exact .inr (.nul hnul)
    · split at hload
      · cases hload
        exact .inl (Fault.names_of _ _ _)
      · next bytes hread =>
        split at hload
        · cases hload
          exact .inl (Fault.names_of _ _ _)
        · next characters hdecode =>
          cases hparse.symm.trans (FileTree.toml?_eq_some_iff.mpr
            ⟨bytes, characters, hread, hdecode, rfl⟩)
  · obtain ⟨bytes, characters, hread, hdecode, hrefused⟩ := FileTree.toml?_eq_some_iff.mp hparse
    simp only [load, FileTree.hasNul_of_read? hread, hread, hdecode, Document.tomlTable,
      hrefused] at hload
    cases refusal with
    | malformed =>
      cases hload
      exact .inl (Fault.names_of _ _ _)
    | numberTooLong digits =>
      cases hload
      exact .inr (.number hparse)
  · rw [load_of_toml hparse] at hload
    split at hload
    · next hname =>
      rcases names_or_of_ofProject hload with hnames | ⟨rfl, tools, htools, hother⟩
      · exact .inl hnames
      · exact .inr (.tools hname hparse htools hother)
    · exact .inl (raisesOnly_ofTable _ _ fault hload)

/-- What is listed is raised as it is listed. -/
theorem load_of_evades {fault : Fault} (hevades : Evades tree path fault) :
    load tree path = .error fault := by
  cases hevades with
  | nul hnul =>
    simp only [load, hnul]
    rfl
  | number hparse =>
    obtain ⟨bytes, characters, hread, hdecode, hrefused⟩ := FileTree.toml?_eq_some_iff.mp hparse
    simp only [load, FileTree.hasNul_of_read? hread, hread, hdecode, Document.tomlTable, hrefused]
    rfl
  | tools hname hparse htools hother =>
    rw [load_of_toml hparse, if_pos hname, ofProject]
    split
    · next hnone => cases hnone.symm.trans htools
    · next hsome =>
      cases hsome.symm.trans htools
      cases hother
    · rfl

theorem not_names_of_evades {fault : Fault} (hevades : Evades tree path fault) (source : String) :
    ¬fault.Names source := by
  cases hevades with
  | nul => exact Fault.not_names_value _ source
  | number => exact Fault.not_names_value _ source
  | tools => exact Fault.not_names_crash _ source

end Settings

end LicenseHeaders
