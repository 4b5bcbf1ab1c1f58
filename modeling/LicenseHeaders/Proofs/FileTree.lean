import LicenseHeaders.FileTree

/-!
# Names in a file tree

A text without slashes is the path of a single name (`Path.ofText_of_not_mem`), and a name that is
longer than a file tree allows leads nowhere (`FileTree.find_of_long_name`). A name that is short
enough (`FileNode.Fits`) makes a path to it too long only by the bytes that it adds, so of two such
names in one directory the longer one is refused first (`FileTree.find_child_tooLong_mono`).
-/

set_option autoImplicit false
set_option relaxedAutoImplicit false

namespace LicenseHeaders

namespace Text

/-- A text without the separator is a single piece. -/
theorem pieces_of_not_mem {separator : Char} {text : List Char} (hnot : separator ∉ text) :
    pieces separator text = [text] := by
  induction text with
  | nil => rfl
  | cons c rest ih =>
    have hfirst : c ≠ separator := fun h ↦ hnot (h ▸ List.mem_cons_self)
    have hrest : separator ∉ rest := fun h ↦ hnot (List.mem_cons_of_mem c h)
    rw [pieces, if_neg hfirst, ih hrest]

end Text

/-- A text without slashes that is neither empty nor a single dot is a single name. -/
theorem Path.ofText_of_not_mem {text : String} (hslash : '/' ∉ text.toList)
    (hempty : text.toList ≠ []) (hdot : text.toList ≠ ['.']) :
    Path.ofText text = { names := [text] } := by
  have hstart : text.toList.takeWhile (· == '/') = [] := by
    cases htext : text.toList with
    | nil => rfl
    | cons c rest =>
      have hfirst : c ≠ '/' := by
        rintro rfl
        exact hslash (htext ▸ List.mem_cons_self)
      exact List.takeWhile_cons_of_neg (by simpa using hfirst)
  simp [ofText, Text.pieces_of_not_mem hslash, hstart, startOfSlashes, hempty, hdot]

/-- A name that is longer than a file tree allows leads nowhere. -/
theorem FileTree.find_of_long_name {tree : FileTree} {entries : List (String × FileNode)}
    (hroot : tree.root = .directory entries) (hworking : tree.working = []) {name : String}
    (hnul : Path.nul ∉ name.toList)
    (hlong : FileNode.maxNameSize < (Text.encodeUtf8 name.toList).length) :
    tree.find { names := [name] } = .error .tooLong := by
  have hname : name ≠ ".." := by
    rintro rfl
    exact absurd hlong (by decide)
  have hentry : FileNode.entry entries name = .error .tooLong := if_pos hlong
  unfold find
  split
  · simp_all [Path.hasNul]
  · split
    · rfl
    · simp [hroot, hworking, Path.isAbsolute, FileNode.walk, hentry]

/-! ### Files of one directory -/

/-- The path of a directory. -/
def Path.ofDirectory (directory : Path.Directory) : Path :=
  { start := .root, names := directory }

/-- The size of a path in a directory is that of the directory and of the name. -/
theorem Path.exists_size_child (directory : Path.Directory) :
    ∃ base, ∀ name : String,
      ((ofDirectory directory).child name).size = base + (Text.encodeUtf8 name.toList).length := by
  have happend (first second : String) : (Text.encodeUtf8 (first ++ second).toList).length =
      (Text.encodeUtf8 first.toList).length + (Text.encodeUtf8 second.toList).length := by
    rw [String.toList_append, Text.encodeUtf8, List.flatMap_append, List.length_append]
    rfl
  have htext (name : String) : ((ofDirectory directory).child name).text =
      "/" ++ String.intercalate "/" (directory ++ [name]) := rfl
  cases directory with
  | nil =>
    refine ⟨(Text.encodeUtf8 "/".toList).length, fun name ↦ ?_⟩
    rw [size, htext, happend, List.nil_append, String.intercalate_singleton]
  | cons first rest =>
    let outer := String.intercalate "/" (first :: rest) ++ "/"
    refine ⟨(Text.encodeUtf8 ("/" ++ outer).toList).length, fun name ↦ ?_⟩
    rw [size, htext, String.intercalate_append_of_ne_nil (List.cons_ne_nil _ _)
      (List.cons_ne_nil _ _), String.intercalate_singleton, ← String.append_assoc, happend]

namespace FileNode

/-- A name that a directory can have in it. -/
structure Fits (name : String) : Prop where
  notUp : name ≠ ".."
  noNul : Path.nul ∉ name.toList
  short : (Text.encodeUtf8 name.toList).length ≤ maxNameSize

/-- A way that ends with a name that fits is too long if it is too long up to there. -/
theorem walk_concat_eq_tooLong_iff {name : String} (hfits : Fits name) (above : List FileNode)
    (node : FileNode) (names : List String) :
    walk above node (names ++ [name]) = .error .tooLong ↔
      walk above node names = .error .tooLong := by
  fun_induction walk above node names with
  | case1 above node =>
    refine ⟨fun hlong ↦ ?_, nofun⟩
    cases node with
    | directory entries =>
      rw [List.nil_append, walk.eq_4 _ _ _ _ hfits.notUp, entry,
        if_neg (Nat.not_lt.mpr hfits.short)] at hlong
      split at hlong
      · cases hlong
      · next hmissing =>
        split at hmissing <;> cases hmissing
        cases hlong
    | file | locked => simp [walk] at hlong
  | case2 entries rest ih => exact ih
  | case3 entries rest parent above ih => exact ih
  | case4 above entries first rest hup node hentry ih =>
    rwa [List.cons_append, walk.eq_4 _ _ _ _ hup, hentry]
  | case5 above entries first rest hup obstacle hentry =>
    rw [List.cons_append, walk.eq_4 _ _ _ _ hup, hentry]
  | case6 above node first rest hup hdirectory =>
    rw [List.cons_append, walk.eq_5 _ _ _ _ hup hdirectory]

/-- What a way leads to has a property that every entry of a directory has if the directory has
it. -/
theorem of_walk {Good : FileNode → Prop}
    (hentries : ∀ entries, Good (.directory entries) → ∀ entry ∈ entries, Good entry.2)
    {above : List FileNode} {node found : FileNode} {names : List String}
    (habove : ∀ outer ∈ above, Good outer) (hnode : Good node)
    (hwalk : walk above node names = .ok found) : Good found := by
  fun_induction walk above node names with
  | case1 above node =>
    cases hwalk
    exact hnode
  | case2 entries rest ih => exact ih habove hnode hwalk
  | case3 entries rest parent above ih =>
    rw [List.forall_mem_cons] at habove
    exact ih habove.2 habove.1 hwalk
  | case4 above entries first rest hup node hentry ih =>
    refine ih (List.forall_mem_cons.mpr ⟨hnode, habove⟩) ?_ hwalk
    rw [entry] at hentry
    split at hentry
    · cases hentry
    · split at hentry
      · next hlookup =>
        cases hentry
        obtain ⟨before, behind, rfl, _⟩ := List.lookup_eq_some_iff.mp hlookup
        exact hentries _ hnode _ (List.mem_append_right before List.mem_cons_self)
      · cases hentry
  | case5 => cases hwalk
  | case6 => cases hwalk

end FileNode

namespace FileTree

variable {tree : FileTree} {directory : Path.Directory} {name other : String}

/-- A path that ends with a name that fits is too long if it has too many bytes or if the way up to
the name is too long. -/
theorem find_child_eq_tooLong_iff (hfits : FileNode.Fits name) :
    tree.find ((Path.ofDirectory directory).child name) = .error .tooLong ↔
      (Path.ofDirectory directory).hasNul = false ∧
        (pathSizeBound ≤ ((Path.ofDirectory directory).child name).size ∨
          FileNode.walk [] tree.root directory = .error .tooLong) := by
  have hnul : ((Path.ofDirectory directory).child name).hasNul =
      (Path.ofDirectory directory).hasNul := by
    simp [Path.hasNul, Path.child, hfits.noNul]
  have hways : ((Path.ofDirectory directory).child name).names = directory ++ [name] := rfl
  have habsolute : ((Path.ofDirectory directory).child name).isAbsolute = true := rfl
  rw [find, hnul]
  by_cases hdirectory : (Path.ofDirectory directory).hasNul = true
  · simp [hdirectory]
  · simp only [if_neg hdirectory, habsolute, if_true, List.nil_append, hways]
    by_cases hsize : pathSizeBound ≤ ((Path.ofDirectory directory).child name).size
    · simp [hdirectory, hsize]
    · simp [hdirectory, hsize, FileNode.walk_concat_eq_tooLong_iff hfits]

/-- Where a path to a name in a directory is too long, so is that to a name of more bytes. -/
theorem find_child_tooLong_mono (hfits : FileNode.Fits name) (hother : FileNode.Fits other)
    (hsize : (Text.encodeUtf8 name.toList).length ≤ (Text.encodeUtf8 other.toList).length)
    (hlong : tree.find ((Path.ofDirectory directory).child name) = .error .tooLong) :
    tree.find ((Path.ofDirectory directory).child other) = .error .tooLong := by
  obtain ⟨base, hbase⟩ := Path.exists_size_child directory
  rw [find_child_eq_tooLong_iff hfits, hbase] at hlong
  rw [find_child_eq_tooLong_iff hother, hbase]
  exact ⟨hlong.1, hlong.2.imp_left fun hbound ↦ by omega⟩

end FileTree

end LicenseHeaders
