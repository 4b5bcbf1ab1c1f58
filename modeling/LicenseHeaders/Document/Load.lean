import LicenseHeaders.Address.Request
import LicenseHeaders.Document.Parse
import LicenseHeaders.Event
import LicenseHeaders.FileTree

/-!
# Loading rule documents

A `Source` says where a rule document is: at a path, or under a name that stands for a path or
for an address. The ending of the name chooses the format, and `Document.load` reads the bytes
and the document in them.
-/

set_option autoImplicit false
set_option relaxedAutoImplicit false

namespace LicenseHeaders

open Text

/-- Where a rule document is. -/
inductive Source where
  /-- A path or an address. -/
  | name (text : String)
  | place (path : Path)
deriving DecidableEq, Repr, Inhabited

namespace Source

/-- How a source is called in messages. -/
def text : Source → String
  | name text => text
  | place path => path.text

/-- The path of the file that a source leads to, if it leads to one. -/
def file? : Source → Option Path
  | name text =>
    if Address.isAddress text then (Address.file? text).map (·.path) else some (.ofText text)
  | place path => some path

/-- Asks for the bytes at an address that leads to another machine. -/
def fetch? (network : Network) (address : String) : Except Fault (Option Bytes) :=
  match Address.request address with
  | .invalid => .error (.crash .requestInvalid)
  | .unwritable => .ok none
  | .sent =>
    match network.answer address with
    | .bytes bytes => .ok bytes
    | .nothing => .ok none
    | .failure className => .error (.crash (.failure className))

/-- Reads the bytes of the file that an address leads to. The host is only looked up if there is
something at the path. -/
def openFile? (tree : FileTree) (address : String) : Except Fault (Option Bytes) :=
  match Address.file? address with
  | none => .ok none
  | some target =>
    match tree.find target.path with
    | .error _ => .ok none
    | .ok node =>
      if target.isDirectory && !node.isDirectory then .ok none
      else
        match Address.isOwn tree.network target.host, node with
        | .error crash, _ => .error (.crash crash)
        | .ok true, .file bytes => .ok bytes
        | .ok _, _ => .ok none

/-- The bytes that a source leads to, if there are any. -/
def read? (tree : FileTree) : Source → Except Fault (Option Bytes)
  | name text =>
    if !Address.isAddress text then .ok (tree.read? (.ofText text))
    else if Address.isRemote text then fetch? tree.network text
    else openFile? tree text
  | place path => .ok (tree.read? path)

end Source

namespace Document

/-- The format of files with an ending. -/
def Format.ofSuffix? (suffix : String) : Option Format :=
  [Format.xml, Format.toml].find? fun format ↦ format.suffix == suffix

/-- The ending of a name in lower case, that of an address without query and fragment. -/
def suffixOf (name : String) : Except Fault String := do
  let path ←
    if Address.isAddress name then (Address.path name).mapError Fault.value
    else pure name.toList
  return String.ofList (lowercase (afterLast '.' (afterLast '/' path)))

/-- The format of the document under a name. -/
def Format.ofName (name : String) : Except Fault Format := do
  let suffix ← suffixOf name
  match ofSuffix? suffix with
  | some format => return format
  | none => throw (.of (.unsupportedSuffix suffix) name)

/-- What is told about a document that has been read. -/
def loaded (document : Document) (source : String) (format : Format) : Event :=
  .documentLoaded source format.suffix document.licenses.length document.families.length
    document.matchers.length

/-- Reads the document at a source. -/
def load (tree : FileTree) (source : Source) : Except Fault (Document × Event) := do
  let format ← Format.ofName source.text
  match ← source.read? tree with
  | none => throw (.of .unreadableDocument source.text)
  | some bytes =>
    let document ← parse format source.text (.bytes bytes)
    return (document, document.loaded source.text format)

end Document

end LicenseHeaders
