import LicenseHeaders.Proofs.FileTree
import LicenseHeaders.Proofs.Settings.Loading
import LicenseHeaders.Settings.Find

/-!
# What is found in a directory

A directory has settings if it has a file of settings or a project file with a table for this
program (`Settings.Qualifies`). A search asks the directories from the inside to the outside, and
two things can happen in a directory beside that. The search is stopped by a fault if a path is
too long or if the project file has a number that is too long to be read (`Settings.Stops`). And it
is misled if tools are no table in the project file, into another fault or to a project file that
has no table for this program (`Settings.Misleads`). `Settings.findIn_eq_error_iff`,
`Settings.findIn_eq_some_iff` and `Settings.findIn_ne_none_iff` say that nothing else happens, and
`Settings.find_eq_iff` that the nearest directory in which something happens decides.
-/

set_option autoImplicit false
set_option relaxedAutoImplicit false

namespace LicenseHeaders

open Text

namespace FileTree

variable {tree : FileTree} {path : Path}

theorem isFile?_eq_none_iff : tree.isFile? path = none ↔ tree.find path = .error .tooLong := by
  unfold isFile?
  split <;> simp_all

theorem isFile?_of_read? {bytes : Bytes} (hread : tree.read? path = some bytes) :
    tree.isFile? path = some true := by
  rw [isFile?, read?_eq_some_iff.mp hread]

end FileTree

namespace Settings

/-! ### One directory -/

/-- The path of the file of settings in a directory. -/
def ownFile (directory : Path.Directory) : Path :=
  (Path.ofDirectory directory).child fileName

/-- The path of the project file in a directory. -/
def projectFile (directory : Path.Directory) : Path :=
  (Path.ofDirectory directory).child projectFileName

theorem name_ownFile (directory : Path.Directory) : (ownFile directory).name = fileName := by
  simp [ownFile, Path.child, Path.name]

theorem name_projectFile (directory : Path.Directory) :
    (projectFile directory).name = projectFileName := by
  simp [projectFile, Path.child, Path.name]

/-- A file is a TOML document that holds a value under the key of tools. -/
def HoldsTools (tree : FileTree) (path : Path) (tools : Toml.Value) : Prop :=
  ∃ entries, tree.toml? path = some (.ok entries) ∧
    Toml.Table.get? entries toolKey = some tools

/-- A file has an entry for this program in the table of tools. -/
def HasEntry (tree : FileTree) (path : Path) : Prop :=
  ∃ tools, HoldsTools tree path (.table tools) ∧ Toml.Table.contains tools tableKey = true

section

variable (tree : FileTree) (directory : Path.Directory)

/-- A directory has a file of settings. -/
def HasOwnFile : Prop :=
  tree.isFile? (ownFile directory) = some true

/-- A directory has settings: a file of its own for them, or an entry in its project file. -/
def Qualifies : Prop :=
  HasOwnFile tree directory ∨ HasEntry tree (projectFile directory)

/-- What stops a search in a directory: a path that is too long, or a number in the project file
that is too long to be read. -/
inductive Stops : Fault → Prop
  | path (hlong : tree.isFile? (ownFile directory) = none) : Stops (.crash .pathTooLong)
  | number {digits : Nat} (hnone : tree.isFile? (ownFile directory) = some false)
    (hparse : tree.toml? (projectFile directory) = some (.error (.numberTooLong digits))) :
    Stops (.value (.numberTooLong digits))

/-- What a search is told in a directory without a file of settings whose project file holds
something else than a table under the key of tools. -/
def Misleads (answer : Except Fault Bool) : Prop :=
  tree.isFile? (ownFile directory) = some false ∧
    ∃ tools, HoldsTools tree (projectFile directory) tools ∧ tools.table? = none ∧
      mentionsProgram tools = answer

/-- A search ends in a directory, in whatever way. -/
def Halts : Prop :=
  Qualifies tree directory ∨ (∃ fault, Stops tree directory fault) ∨
    ∃ answer, answer ≠ .ok false ∧ Misleads tree directory answer

end

variable {tree : FileTree} {directory : Path.Directory}

/-- What is found in a directory, by what the paths of the two files lead to. -/
theorem findIn_eq (tree : FileTree) (directory : Path.Directory) :
    findIn tree directory =
      match tree.isFile? (ownFile directory) with
      | none => .error (.crash .pathTooLong)
      | some true => .ok (some (ownFile directory))
      | some false =>
        match tree.isFile? (projectFile directory) with
        | none => .error (.crash .pathTooLong)
        | some false => .ok none
        | some true =>
          match tree.read? (projectFile directory) with
          | none => .ok none
          | some bytes => (isOurProject bytes).map fun ours ↦
              if ours then some (projectFile directory) else none := by
  have hown : ({ start := .root, names := directory } : Path).child fileName =
      ownFile directory := rfl
  have hproject : ({ start := .root, names := directory } : Path).child projectFileName =
      projectFile directory := rfl
  simp only [findIn, isFile, hown, hproject]
  rcases tree.isFile? (ownFile directory) with _ | _ | _
  · rfl
  · rcases tree.isFile? (projectFile directory) with _ | _ | _
    · rfl
    · rfl
    · cases tree.read? (projectFile directory) with
      | none => rfl
      | some bytes => cases isOurProject bytes <;> rfl
  · rfl

/-- A path to the project file is not too long if that to the file of settings is not. -/
theorem isFile?_projectFile_ne_none (hown : tree.isFile? (ownFile directory) ≠ none) :
    tree.isFile? (projectFile directory) ≠ none := by
  rw [ne_eq, FileTree.isFile?_eq_none_iff] at hown ⊢
  exact fun hlong ↦ hown (FileTree.find_child_tooLong_mono ⟨by decide, by decide, by decide⟩
    ⟨by decide, by decide, by decide⟩ (by decide) hlong)

/-- What the project file in a directory says about this program. Where there is no such file, or
none that can be read, the answer is no. -/
def projectAnswer (tree : FileTree) (directory : Path.Directory) : Except Fault Bool :=
  match tree.toml? (projectFile directory) with
  | none | some (.error .malformed) => .ok false
  | some (.error (.numberTooLong digits)) => .error (.value (.numberTooLong digits))
  | some (.ok entries) =>
    match Toml.Table.get? entries toolKey with
    | none => .ok false
    | some tools => mentionsProgram tools

theorem isOurProject_eq_projectAnswer {bytes : Bytes}
    (hread : tree.read? (projectFile directory) = some bytes) :
    isOurProject bytes = projectAnswer tree directory := by
  rw [isOurProject, projectAnswer, FileTree.toml?, hread, Option.bind_some]
  cases decodeUtf8? bytes with
  | none => rfl
  | some characters =>
    simp only [Option.map_some]
    rcases Toml.parse characters with (_ | digits) | entries <;> rfl

/-- In a directory without a file of settings, the project file decides. -/
theorem findIn_eq_projectAnswer (hnone : tree.isFile? (ownFile directory) = some false) :
    findIn tree directory = (projectAnswer tree directory).map fun ours ↦
      if ours then some (projectFile directory) else none := by
  have hproject : tree.isFile? (projectFile directory) ≠ none :=
    isFile?_projectFile_ne_none (by simp [hnone])
  rw [findIn_eq, hnone]
  cases hread : tree.read? (projectFile directory) with
  | none =>
    rw [projectAnswer, FileTree.toml?, hread]
    rcases hfile : tree.isFile? (projectFile directory) with _ | _ | _
    · exact absurd hfile hproject
    · rfl
    · rfl
  | some bytes =>
    simp only [FileTree.isFile?_of_read? hread, isOurProject_eq_projectAnswer hread]

/-- A project file has an answer other than no because of a number that is too long to be read or
because of what it holds under the key of tools. -/
theorem projectAnswer_eq_iff (answer : Except Fault Bool) (hanswer : answer ≠ .ok false) :
    projectAnswer tree directory = answer ↔
      (∃ digits, tree.toml? (projectFile directory) = some (.error (.numberTooLong digits)) ∧
        answer = .error (.value (.numberTooLong digits))) ∨
      ∃ tools, HoldsTools tree (projectFile directory) tools ∧ mentionsProgram tools = answer := by
  unfold projectAnswer HoldsTools
  rcases tree.toml? (projectFile directory) with _ | (_ | digits) | entries
  · simp [hanswer.symm]
  · simp [hanswer.symm]
  · simp [eq_comm]
  · rcases hget : Toml.Table.get? entries toolKey with _ | tools
    · simp [hget, hanswer.symm]
    · simp [hget]

/-- What a project file says about tools is a matter of the table that they are, or misleading. -/
theorem exists_mentions_iff (hnone : tree.isFile? (ownFile directory) = some false)
    {answer : Except Fault Bool} :
    (∃ tools, HoldsTools tree (projectFile directory) tools ∧ mentionsProgram tools = answer) ↔
      (∃ tools, HoldsTools tree (projectFile directory) (.table tools) ∧
        .ok (Toml.Table.contains tools tableKey) = answer) ∨
      Misleads tree directory answer := by
  constructor
  · rintro ⟨tools, htools, hmentions⟩
    cases htable : tools.table? with
    | none => exact .inr ⟨hnone, tools, htools, htable, hmentions⟩
    | some table =>
      cases tools <;> cases htable
      exact .inl ⟨table, htools, hmentions⟩
  · rintro (⟨tools, htools, hmentions⟩ | ⟨_, tools, htools, _, hmentions⟩)
    · exact ⟨.table tools, htools, hmentions⟩
    · exact ⟨tools, htools, hmentions⟩

/-! ### What can happen in a directory -/

theorem findIn_of_hasOwnFile (hown : HasOwnFile tree directory) :
    findIn tree directory = .ok (some (ownFile directory)) := by
  rw [findIn_eq, hown]

theorem findIn_of_tooLong (hlong : tree.isFile? (ownFile directory) = none) :
    findIn tree directory = .error (.crash .pathTooLong) := by
  rw [findIn_eq, hlong]

/-- A search ends with a fault in a directory if it is stopped there or misled into that fault. -/
theorem findIn_eq_error_iff {fault : Fault} : findIn tree directory = .error fault ↔
    Stops tree directory fault ∨ Misleads tree directory (.error fault) := by
  constructor
  · intro hfault
    rcases hown : tree.isFile? (ownFile directory) with _ | _ | _
    · rw [findIn_of_tooLong hown] at hfault
      cases hfault
      exact .inl (.path hown)
    · rw [findIn_eq_projectAnswer hown, map_eq_error_iff, projectAnswer_eq_iff (.error _) nofun,
        exists_mentions_iff hown] at hfault
      rcases hfault with ⟨digits, hparse, hdigits⟩ | ⟨_, _, hcontains⟩ | hmisleads
      · cases hdigits
        exact .inl (.number hown hparse)
      · cases hcontains
      · exact .inr hmisleads
    · rw [findIn_of_hasOwnFile hown] at hfault
      cases hfault
  · rintro ((hlong | ⟨hnone, hparse⟩) | hmisleads)
    · exact findIn_of_tooLong hlong
    · rw [findIn_eq_projectAnswer hnone, map_eq_error_iff, projectAnswer_eq_iff (.error _) nofun]
      exact .inl ⟨_, hparse, rfl⟩
    · rw [findIn_eq_projectAnswer hmisleads.1, map_eq_error_iff,
        projectAnswer_eq_iff (.error _) nofun, exists_mentions_iff hmisleads.1]
      exact .inr (.inr hmisleads)

/-- A search ends in a directory if it has settings or if it is misled to a project file without a
table for this program. -/
theorem findIn_eq_some_iff {path : Path} : findIn tree directory = .ok (some path) ↔
    HasOwnFile tree directory ∧ path = ownFile directory ∨
      tree.isFile? (ownFile directory) = some false ∧ path = projectFile directory ∧
        (HasEntry tree (projectFile directory) ∨ Misleads tree directory (.ok true)) := by
  rcases hown : tree.isFile? (ownFile directory) with _ | _ | _
  · rw [findIn_of_tooLong hown]
    simp [HasOwnFile, hown]
  · have hanswer : projectAnswer tree directory = .ok true ↔
        HasEntry tree (projectFile directory) ∨ Misleads tree directory (.ok true) := by
      rw [projectAnswer_eq_iff (.ok true) nofun, exists_mentions_iff hown]
      simp [HasEntry]
    rw [findIn_eq_projectAnswer hown, map_eq_ok_iff, ← hanswer]
    simp [HasOwnFile, hown, and_comm, eq_comm]
  · rw [findIn_of_hasOwnFile hown]
    simp [HasOwnFile, hown, eq_comm]

theorem findIn_ne_none_iff : findIn tree directory ≠ .ok none ↔ Halts tree directory := by
  constructor
  · intro hne
    rcases hfound : findIn tree directory with fault | _ | path
    · exact .inr ((findIn_eq_error_iff.mp hfound).imp (⟨fault, ·⟩) (⟨.error fault, nofun, ·⟩))
    · exact absurd hfound hne
    · rcases findIn_eq_some_iff.mp hfound with ⟨hown, _⟩ | ⟨_, _, hentry | hmisleads⟩
      · exact .inl (.inl hown)
      · exact .inl (.inr hentry)
      · exact .inr (.inr ⟨.ok true, nofun, hmisleads⟩)
  · rintro ((hown | hentry) | ⟨fault, hstops⟩ | ⟨answer, hanswer, hmisleads⟩) hnone
    · cases hnone.symm.trans (findIn_of_hasOwnFile hown)
    · -- The entry counts only if no file of settings comes before it and its path is not too long.
      rcases hown : tree.isFile? (ownFile directory) with _ | _ | _
      · cases hnone.symm.trans (findIn_of_tooLong hown)
      · cases hnone.symm.trans (findIn_eq_some_iff.mpr (.inr ⟨hown, rfl, .inl hentry⟩))
      · cases hnone.symm.trans (findIn_of_hasOwnFile hown)
    · cases hnone.symm.trans (findIn_eq_error_iff.mpr (.inl hstops))
    · rcases answer with fault | _ | _
      · cases hnone.symm.trans (findIn_eq_error_iff.mpr (.inr hmisleads))
      · exact hanswer rfl
      · cases hnone.symm.trans (findIn_eq_some_iff.mpr (.inr ⟨hmisleads.1, rfl, .inr hmisleads⟩))

/-! ### From directory to directory -/

/-- A member of a list is the first one with a property. -/
def IsFirst {Value : Type} (Holds : Value → Prop) (values : List Value) (value : Value) : Prop :=
  ∃ nearer farther, values = nearer ++ value :: farther ∧ (∀ other ∈ nearer, ¬Holds other) ∧
    Holds value

theorem isFirst_cons_iff {Value : Type} {Holds : Value → Prop} {first value : Value}
    {rest : List Value} :
    IsFirst Holds (first :: rest) value ↔
      (Holds first ∧ value = first) ∨ (¬Holds first ∧ IsFirst Holds rest value) := by
  constructor
  · rintro ⟨_ | ⟨other, nearer⟩, farther, hsplit, hnearer, hvalue⟩
    · cases hsplit
      exact .inl ⟨hvalue, rfl⟩
    · cases hsplit
      rw [List.forall_mem_cons] at hnearer
      exact .inr ⟨hnearer.1, nearer, farther, rfl, hnearer.2, hvalue⟩
  · rintro (⟨hfirst, rfl⟩ | ⟨hfirst, nearer, farther, rfl, hnearer, hvalue⟩)
    · exact ⟨[], rest, rfl, nofun, hfirst⟩
    · exact ⟨first :: nearer, farther, rfl, List.forall_mem_cons.mpr ⟨hfirst, hnearer⟩, hvalue⟩

theorem findInFirst_cons (tree : FileTree) (directory : Path.Directory)
    (rest : List Path.Directory) :
    findInFirst tree (directory :: rest) =
      if findIn tree directory = .ok none then findInFirst tree rest
      else findIn tree directory := by
  rw [findInFirst]
  rcases findIn tree directory with fault | _ | path <;> rfl

/-- Nothing is found in directories if nothing is found in any of them. -/
theorem findInFirst_eq_none_iff {directories : List Path.Directory} :
    findInFirst tree directories = .ok none ↔
      ∀ directory ∈ directories, findIn tree directory = .ok none := by
  induction directories with
  | nil => exact ⟨fun _ ↦ nofun, fun _ ↦ rfl⟩
  | cons directory rest ih =>
    rw [findInFirst_cons, List.forall_mem_cons]
    split
    · next hnone => rw [ih, and_iff_right hnone]
    · next hne => exact ⟨fun hnone ↦ absurd hnone hne, fun hnone ↦ absurd hnone.1 hne⟩

/-- What is found in directories is what is found in the first of them in which something is. -/
theorem findInFirst_eq_iff {directories : List Path.Directory}
    {result : Except Fault (Option Path)} (hresult : result ≠ .ok none) :
    findInFirst tree directories = result ↔
      ∃ directory, IsFirst (findIn tree · ≠ .ok none) directories directory ∧
        findIn tree directory = result := by
  induction directories with
  | nil =>
    refine ⟨fun hnone ↦ absurd hnone.symm hresult, ?_⟩
    rintro ⟨directory, ⟨nearer, farther, hsplit, _⟩, _⟩
    simp at hsplit
  | cons directory rest ih =>
    rw [findInFirst_cons]
    simp only [isFirst_cons_iff]
    split
    · next hnone => simp [ih, hnone]
    · next hne => simp [hne]

/-! ### From the inside to the outside -/

/-- The nearest directory with a property, at a place or above it. -/
structure IsNearest (Holds : Path.Directory → Prop) (place directory : Path.Directory) : Prop where
  above : directory <+: place
  holds : Holds directory
  nearer : ∀ other, other <+: place → directory.length < other.length → ¬Holds other

theorem upwards_concat (place : Path.Directory) (name : String) :
    Path.upwards (place ++ [name]) = (place ++ [name]) :: Path.upwards place := by
  have htake {depth : Nat} (hdepth : depth ∈ (List.range (place.length + 1)).reverse) :
      (place ++ [name]).take depth = place.take depth := by
    rw [List.mem_reverse, List.mem_range] at hdepth
    exact List.take_append_of_le_length (by omega)
  rw [Path.upwards, List.length_append, List.length_singleton, List.range_succ, List.reverse_append,
    List.reverse_singleton, List.singleton_append, List.map_cons, List.map_congr_left fun _ ↦ htake,
    List.take_of_length_le (by simp)]
  rfl

theorem mem_upwards_iff {place directory : Path.Directory} :
    directory ∈ Path.upwards place ↔ directory <+: place := by
  induction place using List.reverseRecOn with
  | nil => exact List.mem_singleton.trans List.prefix_nil.symm
  | append_singleton place name ih =>
    rw [upwards_concat, List.mem_cons, ih, List.prefix_concat_iff]

theorem isNearest_self {Holds : Path.Directory → Prop} {place : Path.Directory}
    (hholds : Holds place) : IsNearest Holds place place where
  above := List.prefix_rfl
  holds := hholds
  nearer := fun _ hother hlength ↦ absurd hother.length_le (Nat.not_le.mpr hlength)

/-- The first of the directories upwards from a place with a property is the nearest one. -/
theorem isFirst_upwards_iff {Holds : Path.Directory → Prop} {place directory : Path.Directory} :
    IsFirst Holds (Path.upwards place) directory ↔ IsNearest Holds place directory := by
  -- A place comes before all that is above it, so the induction takes the last name off.
  induction place using List.reverseRecOn with
  | nil =>
    have hupwards : Path.upwards [] = [[]] := rfl
    rw [hupwards, isFirst_cons_iff]
    constructor
    · rintro (⟨hholds, rfl⟩ | ⟨_, nearer, farther, hsplit, _⟩)
      · exact isNearest_self hholds
      · simp at hsplit
    · intro hnearest
      obtain rfl := List.prefix_nil.mp hnearest.above
      exact .inl ⟨hnearest.holds, rfl⟩
  | append_singleton place name ih =>
    rw [upwards_concat, isFirst_cons_iff, ih]
    constructor
    · rintro (⟨hholds, rfl⟩ | ⟨hwhole, habove, hholds, hnearer⟩)
      · exact isNearest_self hholds
      · refine ⟨habove.trans (List.prefix_append _ _), hholds, fun other hother hlength ↦ ?_⟩
        rcases List.prefix_concat_iff.mp hother with rfl | hother
        · exact hwhole
        · exact hnearer other hother hlength
    · rintro ⟨habove, hholds, hnearer⟩
      rcases List.prefix_concat_iff.mp habove with rfl | habove
      · exact .inl ⟨hholds, rfl⟩
      · have hlength : directory.length < (place ++ [name]).length := by
          rw [List.length_append, List.length_singleton]
          exact Nat.lt_succ_of_le habove.length_le
        refine .inr ⟨hnearer _ List.prefix_rfl hlength, habove, hholds, fun other hother ↦ ?_⟩
        exact hnearer other (hother.trans (List.prefix_append _ _))

theorem find_eq_none_iff {start : Path} : find tree start = .ok none ↔
    start.hasNul = false ∧ ∀ directory, directory <+: start.resolvedNames tree.working →
      findIn tree directory = .ok none := by
  unfold find
  split
  · next hnul => simp [hnul]
  · next hnul => simp [hnul, findInFirst_eq_none_iff, mem_upwards_iff]

theorem find_eq_iff {start : Path} (result : Except Fault (Option Path))
    (hresult : result ≠ .ok none) : find tree start = result ↔
      start.hasNul = true ∧ result = .error (.value .nulInPath) ∨ start.hasNul = false ∧
        ∃ directory, IsNearest (findIn tree · ≠ .ok none) (start.resolvedNames tree.working)
          directory ∧ findIn tree directory = result := by
  unfold find
  split
  · next hnul => simp [hnul, eq_comm]
  · next hnul => simp [hnul, findInFirst_eq_iff hresult, isFirst_upwards_iff]

theorem isNearest_findIn_iff {place : Path.Directory} :
    IsNearest (findIn tree · ≠ .ok none) place directory ↔
      IsNearest (Halts tree) place directory := by
  simp only [findIn_ne_none_iff]

end Settings

end LicenseHeaders
