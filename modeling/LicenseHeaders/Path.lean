import LicenseHeaders.Text.Separated
import LicenseHeaders.Text.Utf8

/-!
# Paths

A `Path` is a sequence of names that starts at the root of the file tree or at the working
directory. Reading one from a text drops empty names and the name `.`, so that `./a//b/` and
`a/b` are one path; the name `..` is kept. `Path.resolved` makes a path absolute and takes every
`..` back against the name before it, and `Path.shown` says how a path is written where it is
reported to a reader who stands in the working directory.
-/

set_option autoImplicit false
set_option relaxedAutoImplicit false

namespace LicenseHeaders

open Text

/-- Where a path starts. -/
inductive Path.Start where
  /-- At the working directory. -/
  | here
  /-- At the root. -/
  | root
  /-- At the root, written with two slashes. -/
  | doubleRoot
deriving DecidableEq, Repr, Inhabited

/-- How the start of a path is written. -/
def Path.Start.text : Path.Start → String
  | here => ""
  | root => "/"
  | doubleRoot => "//"

/-- A path in a file tree. -/
structure Path where
  start : Path.Start := .here
  /-- The names on the way, none of them empty or a single dot. -/
  names : List String := []
deriving DecidableEq, Repr, Inhabited

namespace Path

/-- The start of a path that begins with the given number of slashes. -/
def startOfSlashes : Nat → Start
  | 0 => .here
  | 2 => .doubleRoot
  | _ => .root

/-- The path that a text stands for. -/
def ofText (text : String) : Path :=
  let characters := text.toList
  let names := (pieces '/' characters).filter fun name ↦ name != [] && name != ['.']
  { start := startOfSlashes (characters.takeWhile (· == '/')).length
    names := names.map String.ofList }

/-- The text of a path. The working directory itself is a dot. -/
def text (path : Path) : String :=
  match path.start, path.names with
  | .here, [] => "."
  | start, names => start.text ++ String.intercalate "/" names

/-- Whether a path does not depend on the working directory. -/
def isAbsolute (path : Path) : Bool :=
  path.start != .here

/-- The last name of a path, empty if it has none. -/
def name (path : Path) : String :=
  path.names.getLastD ""

/-- The path without its last name. -/
def parent (path : Path) : Path :=
  { path with names := path.names.dropLast }

/-- A path as seen from another: an absolute path stays what it is. -/
def join (base path : Path) : Path :=
  if path.isAbsolute then path else { base with names := base.names ++ path.names }

/-- A path with one more name. -/
def child (path : Path) (name : String) : Path :=
  { path with names := path.names ++ [name] }

/-- The names from the root to the working directory. -/
abbrev Directory := List String

/-- Follows names from a directory, last name first; `..` leads back, and from the root to the
root. -/
def follow (above : Directory) : List String → Directory
  | [] => above
  | ".." :: rest => follow above.tail rest
  | name :: rest => follow (name :: above) rest

/-- The names from the root to where a path leads, without any `..` in them. -/
def resolvedNames (working : Directory) (path : Path) : Directory :=
  let above := if path.isAbsolute then [] else working.reverse
  (follow above path.names).reverse

/-- The absolute path without any `..` to where a path leads. -/
def resolved (working : Directory) (path : Path) : Path :=
  { start := .root, names := path.resolvedNames working }

/-- The part of a sequence of names behind another one, if it starts with that. -/
def behind? : Directory → Directory → Option Directory
  | [], names => some names
  | _, [] => none
  | first :: rest, name :: names => if first == name then behind? rest names else none

/-- The character that no path to a file contains. -/
def nul : Char := Char.ofNat 0

/-- Whether a path has a character that no path to a file contains. -/
def hasNul (path : Path) : Bool :=
  path.names.any fun name ↦ name.toList.contains nul

/-- How a path is reported: as seen from the working directory if it leads to somewhere below
it, else as it is. -/
def shown (working : Directory) (path : Path) : String :=
  if path.hasNul then path.text
  else
    match behind? working (path.resolvedNames working) with
    | some names => text { names }
    | none => path.text

/-- A directory and all those above it, from the inside to the outside. -/
def upwards (directory : Directory) : List Directory :=
  (List.range (directory.length + 1)).reverse.map fun depth ↦ directory.take depth

/-- The number of bytes of a path's text. -/
def size (path : Path) : Nat :=
  (encodeUtf8 path.text.toList).length

end Path

end LicenseHeaders
