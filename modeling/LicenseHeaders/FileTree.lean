import LicenseHeaders.Network
import LicenseHeaders.Path

/-!
# File trees

A `FileTree` holds the files and directories that can be reached, the directory that the program
works in, and the network that the machine is part of. `FileTree.find` follows a path and says what
stands in the way where it leads nowhere; `FileTree.read?` gives the bytes of a file.
-/

set_option autoImplicit false
set_option relaxedAutoImplicit false

namespace LicenseHeaders

open Text

/-- A directory with what is in it, or a file. -/
inductive FileNode where
  | directory (entries : List (String × FileNode))
  | file (bytes : Bytes)
  /-- A file that cannot be opened, and why. -/
  | locked (reason : String)
deriving Inhabited

/-- The files and directories below the root, where the program works, and what other machines
say. -/
structure FileTree where
  root : FileNode := .directory []
  working : Path.Directory := []
  network : Network := {}
deriving Inhabited

/-- Why a path leads nowhere. -/
inductive Obstacle where
  /-- A name on the way does not occur. -/
  | missing
  /-- A name on the way is not that of a directory. -/
  | notADirectory
  /-- A name or the whole path is longer than a file tree allows. -/
  | tooLong
  /-- A name has a character that no path to a file contains. -/
  | nul
deriving DecidableEq, Repr

namespace FileNode

/-- Whether a node is a directory. -/
def isDirectory : FileNode → Bool
  | directory _ => true
  | _ => false

/-- The greatest number of bytes of a name. -/
def maxNameSize : Nat := 255

/-- The entry of a directory under a name. -/
def entry (entries : List (String × FileNode)) (name : String) : Except Obstacle FileNode :=
  if maxNameSize < (encodeUtf8 name.toList).length then .error .tooLong
  else
    match entries.lookup name with
    | some node => .ok node
    | none => .error .missing

/-- Follows names from a node that has the given directories above it, the nearest first. -/
def walk (above : List FileNode) : FileNode → List String → Except Obstacle FileNode
  | node, [] => .ok node
  | .directory entries, ".." :: rest =>
    match above with
    | [] => walk [] (.directory entries) rest
    | parent :: above => walk above parent rest
  | .directory entries, name :: rest =>
    match entry entries name with
    | .ok node => walk (.directory entries :: above) node rest
    | .error obstacle => .error obstacle
  | _, _ :: _ => .error .notADirectory

/-- A tree with a node put where names lead to; missing directories on the way are made. -/
def insert (node : FileNode) : List String → FileNode → FileNode
  | [], _ => node
  | name :: rest, tree =>
    let entries :=
      match tree with
      | directory entries => entries
      | _ => []
    let inner := insert node rest ((entries.lookup name).getD (directory []))
    directory ((name, inner) :: entries.filter fun entry ↦ entry.1 != name)

end FileNode

namespace FileTree

/-- The number of bytes that a path must stay below. -/
def pathSizeBound : Nat := 4096

/-- What a path leads to. -/
def find (tree : FileTree) (path : Path) : Except Obstacle FileNode :=
  if path.hasNul then .error .nul
  else if pathSizeBound ≤ path.size then .error .tooLong
  else
    let start := if path.isAbsolute then [] else tree.working
    FileNode.walk [] tree.root (start ++ path.names)

/-- The bytes of the file that a path leads to, if it can be opened. -/
def read? (tree : FileTree) (path : Path) : Option Bytes :=
  match tree.find path with
  | .ok (.file bytes) => some bytes
  | _ => none

/-- Whether a path leads to a file, be it one that cannot be opened. There is no answer if the
path is too long. -/
def isFile? (tree : FileTree) (path : Path) : Option Bool :=
  match tree.find path with
  | .ok (.file _) | .ok (.locked _) => some true
  | .error .tooLong => none
  | _ => some false

end FileTree

end LicenseHeaders
