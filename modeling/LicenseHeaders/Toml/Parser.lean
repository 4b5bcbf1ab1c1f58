import LicenseHeaders.Toml.Number

/-!
# Reading TOML

`parse` reads a document: lines with a key and its value, headings of tables and headings of
arrays of tables. A `Draft` is the document read so far, with the paths that must not be opened
again: those of tables that have had a heading or were opened by a dotted key (`opened`), and
those of values with parts (`closed`), below which nothing may be added.
-/

set_option autoImplicit false
set_option relaxedAutoImplicit false

namespace LicenseHeaders.Toml

/-- The result of a reader that has only one reason to refuse. -/
def orMalformed {α : Type} : Option α → Except Refusal α
  | some value => .ok value
  | none => .error .malformed

/-! ### Keys -/

/-- The characters of a key that needs no quotes. -/
def isKeyChar (c : Char) : Bool :=
  ('a' ≤ c && c ≤ 'z') || ('A' ≤ c && c ≤ 'Z') || isDigit c || c == '-' || c == '_'

/-- Whether a line that starts with this character starts with a key. -/
def startsKey (c : Char) : Bool :=
  isKeyChar c || c == '"' || c == '\''

/-- One key of a path. -/
def readKey : List Char → Except Refusal (String × List Char)
  | '"' :: rest =>
    (orMalformed (basicText false .inText [] rest)).map fun (key, rest) ↦ (String.ofList key, rest)
  | '\'' :: rest =>
    (orMalformed (literalText false [] rest)).map fun (key, rest) ↦ (String.ofList key, rest)
  | text =>
    let key := text.takeWhile isKeyChar
    if key.isEmpty then .error .malformed
    else .ok (String.ofList key, text.drop key.length)

/-- The keys of a path that follow its first one, and the blanks behind them. -/
def readMoreKeys (path : Path) : Nat → List Char → Except Refusal (Path × List Char)
  | 0, _ => .error .malformed
  | fuel + 1, text =>
    match text.dropWhile isLineBlank with
    | '.' :: rest => do
      let (key, rest) ← readKey (rest.dropWhile isLineBlank)
      readMoreKeys (path ++ [key]) fuel rest
    | text => .ok (path, text)

/-- A path of keys that are joined by dots. -/
def readPath (text : List Char) : Except Refusal (Path × List Char) := do
  let (key, rest) ← readKey text
  readMoreKeys [key] (rest.length + 1) rest

/-- A path and the equals sign behind it, with the blanks after that. -/
def readAssignment (text : List Char) : Except Refusal (Path × List Char) := do
  let (path, rest) ← readPath text
  match rest with
  | '=' :: rest => .ok (path, rest.dropWhile isLineBlank)
  | _ => .error .malformed

/-! ### Comments and gaps -/

/-- What follows a comment, if one starts here: the end of its line. -/
def skipComment : List Char → Except Refusal (List Char)
  | '#' :: rest =>
    let comment := rest.takeWhile (· != '\n')
    if comment.any isControl then .error .malformed else .ok (rest.drop comment.length)
  | text => .ok text

/-- What follows the blanks, line ends and comments between the members of an array. -/
def skipGaps : Nat → List Char → Except Refusal (List Char)
  | 0, text => .ok text
  | fuel + 1, text => do
    let rest ← skipComment (text.dropWhile isGap)
    if rest.length < text.length then skipGaps fuel rest else .ok rest

/-- What follows the gaps at the start of a text. -/
def afterGaps (text : List Char) : Except Refusal (List Char) :=
  skipGaps text.length text

/-! ### Values -/

/-- A table in braces that has been read in part, with the paths of its closed values. -/
structure InlineDraft where
  table : Table := []
  closed : List Path := []

/-- Whether a path leads to or into one of the given paths. -/
def leadsInto (paths : List Path) (path : Path) : Bool :=
  paths.any fun closed ↦ closed.isPrefixOf path

/-- Adds an entry to a table in braces. -/
def InlineDraft.add (draft : InlineDraft) (path : Path) (value : Value) : Option InlineDraft :=
  if leadsInto draft.closed path then none
  else do
    let insert := Table.insertNew (path.getLastD "") value
    let table ← Table.within false insert path.dropLast draft.table
    some ⟨table, if value.isClosed then path :: draft.closed else draft.closed⟩

mutual

/-- A value at the start of a text. -/
def readValue : Nat → List Char → Except Refusal (Value × List Char)
  | 0, _ => .error .malformed
  | fuel + 1, text =>
    match text with
    | '[' :: rest => do
      match ← afterGaps rest with
      | ']' :: rest => .ok (.array [], rest)
      | rest => readItems fuel [] rest
    | '\x7b' :: rest =>
      match rest.dropWhile isLineBlank with
      | '\x7d' :: rest => .ok (.table [], rest)
      | rest => readEntries fuel {} rest
    | 't' :: 'r' :: 'u' :: 'e' :: rest => .ok (.boolean true, rest)
    | 'f' :: 'a' :: 'l' :: 's' :: 'e' :: rest => .ok (.boolean false, rest)
    | text =>
      if text.head? == some '"' || text.head? == some '\'' then
        (orMalformed (quotedText text)).map fun (content, rest) ↦
          (.text (String.ofList content), rest)
      else
        match moment text with
        | some (true, rest) => .ok (.moment, rest)
        | some (false, _) => .error .malformed
        | none =>
          match number text with
          | some (.ok value, rest) => .ok (value, rest)
          | some (.error refusal, _) => .error refusal
          | none => .error .malformed

/-- The members of an array that follow those read, which are given last one first. -/
def readItems : Nat → List Value → List Char → Except Refusal (Value × List Char)
  | 0, _, _ => .error .malformed
  | fuel + 1, read, text => do
    let (value, rest) ← readValue fuel text
    match ← afterGaps rest with
    | ']' :: rest => .ok (.array (value :: read).reverse, rest)
    | ',' :: rest =>
      match ← afterGaps rest with
      | ']' :: rest => .ok (.array (value :: read).reverse, rest)
      | rest => readItems fuel (value :: read) rest
    | _ => .error .malformed

/-- The entries of a table in braces that follow those read. -/
def readEntries : Nat → InlineDraft → List Char → Except Refusal (Value × List Char)
  | 0, _, _ => .error .malformed
  | fuel + 1, draft, text => do
    let (path, rest) ← readAssignment text
    let (value, rest) ← readValue fuel rest
    let draft ← orMalformed (draft.add path value)
    match rest.dropWhile isLineBlank with
    | '\x7d' :: rest => .ok (.table draft.table, rest)
    | ',' :: rest => readEntries fuel draft (rest.dropWhile isLineBlank)
    | _ => .error .malformed

end

/-! ### Statements -/

/-- The document read so far. -/
structure Draft where
  /-- The entries read so far. -/
  table : Table := []
  /-- The table that the next keys belong to. -/
  heading : Path := []
  /-- The paths of tables that must not have a heading, again or at all. -/
  opened : List Path := []
  /-- The paths of tables that keys with dots have opened since the last heading. -/
  opening : List Path := []
  /-- The paths of values with parts, below which nothing may be added. -/
  closed : List Path := []

namespace Draft

/-- The draft after the section that ends with a new heading. -/
def endSection (draft : Draft) : Draft :=
  { draft with opened := draft.opening ++ draft.opened, opening := [] }

/-- The draft after the heading of a table. -/
def openTable (draft : Draft) (path : Path) : Option Draft :=
  if draft.opened.contains path || leadsInto draft.closed path then none
  else do
    let table ← Table.within true some path draft.table
    some { draft with table, heading := path, opened := path :: draft.opened }

/-- The draft after the heading of a further table of an array. What was opened and closed in
the table before it is free again. -/
def openItem (draft : Draft) (path : Path) : Option Draft :=
  if leadsInto draft.closed path then none
  else do
    let table ← Table.within true (Table.appendTable (path.getLastD "")) path.dropLast draft.table
    some { draft with
      table, heading := path
      opened := path :: draft.opened.filter (!path.isPrefixOf ·)
      closed := draft.closed.filter (!path.isPrefixOf ·) }

/-- The draft after a key and its value. A key with dots must not reach into a table that has
had a heading. -/
def assign (draft : Draft) (path : Path) (value : Value) : Option Draft :=
  let parents := (List.range (path.length - 1)).map fun count ↦
    draft.heading ++ path.take (count + 1)
  let target := draft.heading ++ path
  if parents.any draft.opened.contains || leadsInto draft.closed target.dropLast then none
  else do
    let insert := Table.insertNew (path.getLastD "") value
    let table ← Table.within true insert target.dropLast draft.table
    some { draft with
      table, opening := parents ++ draft.opening
      closed := if value.isClosed then target :: draft.closed else draft.closed }

end Draft

/-- One statement: a heading, a key with its value, or nothing. -/
def readStatement (draft : Draft) (text : List Char) : Except Refusal (Draft × List Char) :=
  match text with
  | '[' :: '[' :: rest => do
    let (path, rest) ← readPath (rest.dropWhile isLineBlank)
    let draft ← orMalformed (draft.endSection.openItem path)
    match rest with
    | ']' :: ']' :: rest => .ok (draft, rest)
    | _ => .error .malformed
  | '[' :: rest => do
    let (path, rest) ← readPath (rest.dropWhile isLineBlank)
    let draft ← orMalformed (draft.endSection.openTable path)
    match rest with
    | ']' :: rest => .ok (draft, rest)
    | _ => .error .malformed
  | c :: _ =>
    if startsKey c then do
      let (path, rest) ← readAssignment text
      let (value, rest) ← readValue (2 * rest.length + 2) rest
      let draft ← orMalformed (draft.assign path value)
      .ok (draft, rest)
    else .ok (draft, text)
  | [] => .ok (draft, [])

/-- The statements of a document: each ends with its line. -/
def readStatements : Nat → Draft → List Char → Except Refusal Table
  | 0, _, _ => .error .malformed
  | fuel + 1, draft, text => do
    let (draft, rest) ← readStatement draft (text.dropWhile isLineBlank)
    match ← skipComment (rest.dropWhile isLineBlank) with
    | [] => .ok draft.table
    | '\n' :: rest => readStatements fuel draft rest
    | _ => .error .malformed

/-- A text in which line feeds alone end the lines. -/
def unifyLineEnds : List Char → List Char
  | [] => []
  | '\r' :: '\n' :: rest => '\n' :: unifyLineEnds rest
  | c :: rest => c :: unifyLineEnds rest

/-- The entries of a document. -/
def parse (text : List Char) : Except Refusal Table :=
  let text := unifyLineEnds text
  readStatements (text.length + 1) {} text

end LicenseHeaders.Toml
