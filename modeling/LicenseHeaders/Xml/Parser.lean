import LicenseHeaders.Xml.Charset
import LicenseHeaders.Xml.Declaration
import LicenseHeaders.Xml.Doctype
import LicenseHeaders.Xml.Element
import LicenseHeaders.Xml.Namespace

/-!
# Reading XML

`parse` reads a document from its bytes. The elements are read by a machine whose `Reading` is
the text that is left, the entities that are being read and the elements that are open;
`Reading.step` reads one token. A reference to an entity puts the entity's text in front of what
follows the reference, and what is opened in that text must be closed in it. An `allowance`
bounds the text that entities may add.
-/

set_option autoImplicit false
set_option relaxedAutoImplicit false

namespace LicenseHeaders.Xml

open Text

/-! ### Values of attributes -/

/-- Adds a character of white space to a value, whose characters are given last one first. Where
white space is not kept, it counts only after another character. -/
def addSpace (keepsSpace : Bool) (value : List Char) : List Char :=
  if !keepsSpace && (value.isEmpty || value.head? == some ' ') then value else ' ' :: value

/-- The value of an attribute as it is written, with references replaced and each character of
white space turned into a space. The entities that are being read are given with what follows
their references; `read` is the value so far, last character first. The result has what is left
of the allowance. -/
def expandValue (doctype : Doctype) (keepsSpace : Bool) :
    Nat → List (List Char × List Char) → List Char → List Char → Option (List Char × Nat)
  | 0, _, _, _ => none
  | allowance + 1, [], read, [] => some (read, allowance)
  | allowance + 1, (_, outer) :: entities, read, [] =>
    expandValue doctype keepsSpace allowance entities read outer
  | allowance + 1, entities, read, c :: rest =>
    if c == '<' then none
    else if c == '&' then
      match reference? rest with
      | none => none
      | some (.character character, rest) =>
        let read := if character == ' ' then addSpace keepsSpace read else character :: read
        expandValue doctype keepsSpace allowance entities read rest
      | some (.entity name, rest) =>
        match predefined? name, doctype.entity? name with
        | some character, _ =>
          expandValue doctype keepsSpace allowance entities (character :: read) rest
        | none, some (some text) =>
          if entities.any (·.1 == name) then none
          else
            expandValue doctype keepsSpace allowance ((name, rest) :: entities) read (unified text)
        | none, some none => none
        | none, none =>
          if doctype.isComplete then none
          else expandValue doctype keepsSpace allowance entities read rest
    else
      let read := if isSpace c then addSpace keepsSpace read else c :: read
      expandValue doctype keepsSpace allowance entities read rest

/-- The value of an attribute, and what is left of the allowance. Where white space is not kept,
there is none at the end either. -/
def attributeValue (doctype : Doctype) (keepsSpace : Bool) (allowance : Nat)
    (written : List Char) : Option (List Char × Nat) := do
  let (read, left) ← expandValue doctype keepsSpace (allowance + written.length + 1) [] [] written
  let read := if !keepsSpace && read.head? == some ' ' then read.tail else read
  some (read.reverse, min left allowance)

/-! ### Tags -/

/-- How the opening of an element ends. -/
inductive TagEnd where
  /-- Content follows. -/
  | opens
  /-- The element is empty. -/
  | closes
deriving DecidableEq, Repr

/-- The attributes of a tag as they are written, up to its end. White space stands in front of
each. -/
def tagAttributes : Nat → List Char → Option (List (List Char × List Char) × TagEnd × List Char)
  | 0, _ => none
  | fuel + 1, text =>
    match text.dropWhile isSpace with
    | '>' :: rest => some ([], .opens, rest)
    | '/' :: rest => (after? ['>'] rest).map fun rest ↦ ([], .closes, rest)
    | unspaced =>
      if unspaced.length = text.length then none
      else do
        let (name, rest) ← qualifiedName? unspaced
        let rest ← after? ['='] (rest.dropWhile isSpace)
        match rest.dropWhile isSpace with
        | quote :: rest =>
          if quote != '"' && quote != '\'' then none
          else
            let (value, rest) ← splitAt? [quote] rest
            let (attributes, tagEnd, rest) ← tagAttributes fuel rest
            some ((name, value) :: attributes, tagEnd, rest)
        | [] => none

/-- The attributes of an element that are given and those that have default values. -/
def withDefaults (doctype : Doctype) (element : List Char)
    (given : List (List Char × List Char)) : List (List Char × List Char) :=
  given ++ doctype.attributes.filterMap fun rule ↦
    if rule.element == element && !given.any (·.1 == rule.name) then
      rule.default.map fun value ↦ (rule.name, value)
    else none

/-- The values of attributes, and what is left of the allowance. -/
def attributeValues (doctype : Doctype) (element : List Char) (allowance : Nat) :
    List (List Char × List Char) → Option (List (List Char × List Char) × Nat)
  | [] => some ([], allowance)
  | (name, written) :: rest => do
    let keepsSpace := ((doctype.attribute? element name).map (·.keepsSpace)).getD true
    let (value, allowance) ← attributeValue doctype keepsSpace allowance written
    let (values, allowance) ← attributeValues doctype element allowance rest
    some ((name, value) :: values, allowance)

/-- The bindings in an element with the given attributes, and the attributes that bind
nothing. -/
def bindAttributes (bindings : Bindings) :
    List (List Char × List Char) → Option (Bindings × List (List Char × List Char))
  | [] => some (bindings, [])
  | (name, value) :: rest =>
    match boundPrefix? name with
    | some word => do
      let bindings ← bindings.bind? word value
      bindAttributes bindings rest
    | none => do
      let (bindings, attributes) ← bindAttributes bindings rest
      some (bindings, (name, value) :: attributes)

/-! ### Elements -/

/-- An element whose end has not been read. -/
structure Opened where
  /-- The name as it is written. -/
  written : List Char
  name : String
  attributes : List (String × String)
  bindings : Bindings
  /-- The text that has been read, last character first. -/
  text : List Char := []
  /-- The elements that have been read, last one first. -/
  children : List Element := []

namespace Opened

/-- The element after its end has been read. -/
def close (opened : Opened) : Element :=
  { name := opened.name
    attributes := opened.attributes
    text := String.ofList opened.text.reverse
    children := opened.children.reverse }

/-- Adds text. -/
def addText (opened : Opened) (text : List Char) : Opened :=
  { opened with text := text.reverse ++ opened.text }

/-- Adds an element. -/
def addChild (opened : Opened) (child : Element) : Opened :=
  { opened with children := child :: opened.children }

end Opened

/-- Opens the element whose tag has the given name and attributes. -/
def openElement (doctype : Doctype) (bindings : Bindings) (allowance : Nat) (name : List Char)
    (given : List (List Char × List Char)) : Option (Opened × Nat) := do
  if (given.map (·.1)).eraseDups.length ≠ given.length then none
  else
    let (values, allowance) ←
      attributeValues doctype name allowance (withDefaults doctype name given)
    let (bindings, attributes) ← bindAttributes bindings values
    let expanded ← bindings.expand? true name
    let attributes ← attributes.mapM fun (name, value) ↦ do
      return (← bindings.expand? false name, String.ofList value)
    if (attributes.map (·.1)).eraseDups.length ≠ attributes.length then none
    else some ({ written := name, name := expanded, attributes, bindings }, allowance)

/-- An entity that is being read. -/
structure EntityReading where
  name : List Char
  /-- What follows the reference. -/
  outer : List Char
  /-- How many elements were open at the reference. -/
  depth : Nat

/-- How far the elements of a document have been read. -/
structure Reading where
  doctype : Doctype
  text : List Char
  /-- The entities that are being read, innermost first. -/
  entities : List EntityReading := []
  /-- The elements that are open, innermost first. -/
  opened : List Opened := []
  /-- How much text entities may still add. -/
  allowance : Nat

namespace Reading

/-- What comes after a token: more of the root element, or what follows it. -/
inductive Progress where
  | more (reading : Reading)
  | done (root : Element) (rest : List Char)

/-- How many elements were open where the text being read starts. -/
def depth (reading : Reading) : Nat :=
  (reading.entities.head?.map (·.depth)).getD 0

/-- Goes on with the text after a token that adds characters to the innermost element. -/
def addText (reading : Reading) (added rest : List Char) : Option Progress :=
  match reading.opened with
  | element :: outer =>
    some (.more { reading with text := rest, opened := element.addText added :: outer })
  | [] => none

/-- Goes on with the text after the end of an element. -/
def closeElement (reading : Reading) (element : Opened) (outer : List Opened) (rest : List Char) :
    Progress :=
  match outer with
  | parent :: outer =>
    .more { reading with text := rest, opened := parent.addChild element.close :: outer }
  | [] => .done element.close rest

/-- Reads the opening of an element, from after the angle on. -/
def startTag (reading : Reading) (text : List Char) : Option Progress := do
  let (name, rest) ← qualifiedName? text
  let (given, tagEnd, rest) ← tagAttributes (rest.length + 1) rest
  let bindings := (reading.opened.head?.map (·.bindings)).getD Bindings.initial
  let (element, allowance) ← openElement reading.doctype bindings reading.allowance name given
  let reading := { reading with allowance }
  match tagEnd with
  | .opens => some (.more { reading with text := rest, opened := element :: reading.opened })
  | .closes => some (reading.closeElement element reading.opened rest)

/-- Reads the end of an element, from after the solidus on. Its name must be that of the
innermost element, which must have been opened in the same text. -/
def endTag (reading : Reading) (text : List Char) : Option Progress :=
  match reading.opened with
  | element :: outer => do
    let rest ← after? element.written text
    let rest ← after? ['>'] (rest.dropWhile isSpace)
    if outer.length < reading.depth then none
    else some (reading.closeElement element outer rest)
  | [] => none

/-- Reads a reference, from after the ampersand on. -/
def reference (reading : Reading) (text : List Char) : Option Progress := do
  match ← reference? text with
  | (.character c, rest) => reading.addText [c] rest
  | (.entity name, rest) =>
    match predefined? name, reading.doctype.entity? name with
    | some c, _ => reading.addText [c] rest
    | none, some (some text) =>
      if reading.entities.any (·.name == name) || reading.allowance < text.length then none
      else
        some (.more { reading with
          text := unified text
          entities := ⟨name, rest, reading.opened.length⟩ :: reading.entities
          allowance := reading.allowance - text.length })
    | none, _ => none

/-- Goes on with what follows the reference to the innermost entity. -/
def endEntity (reading : Reading) : Option Progress :=
  match reading.entities with
  | entity :: outer =>
    if reading.opened.length = entity.depth then
      some (.more { reading with text := entity.outer, entities := outer })
    else none
  | [] => none

/-- Reads characters up to the next markup. The end of a section of characters must not occur
among them. -/
def characters (reading : Reading) : Option Progress :=
  let run := reading.text.takeWhile fun c ↦ c != '<' && c != '&'
  if (splitAt? [']', ']', '>'] run).isSome then none
  else reading.addText run (reading.text.drop run.length)

/-- Reads one token. -/
def step (reading : Reading) : Option Progress :=
  match reading.text with
  | [] => reading.endEntity
  | '<' :: '/' :: rest => reading.endTag rest
  | '<' :: '!' :: '-' :: '-' :: rest => (afterComment? rest).bind (reading.addText [])
  | '<' :: '!' :: rest => do
    let rest ← after? "[CDATA[".toList rest
    let (content, rest) ← splitAt? [']', ']', '>'] rest
    reading.addText content rest
  | '<' :: '?' :: rest => (afterInstruction? rest).bind (reading.addText [])
  | '<' :: rest => reading.startTag rest
  | '&' :: rest => reading.reference rest
  | _ => reading.characters

/-- Reads the root element and gives back what follows it. -/
def run : Nat → Reading → Option (Element × List Char)
  | 0, _ => none
  | fuel + 1, reading =>
    match reading.step with
    | none => none
    | some (.more reading) => run fuel reading
    | some (.done root rest) => some (root, rest)

end Reading

/-- Whether only comments, instructions and white space follow the root element. -/
def isEpilog : Nat → List Char → Bool
  | 0, _ => false
  | fuel + 1, text =>
    match text.dropWhile isSpace with
    | [] => true
    | '<' :: '!' :: '-' :: '-' :: rest => ((afterComment? rest).map (isEpilog fuel)).getD false
    | '<' :: '?' :: rest => ((afterInstruction? rest).map (isEpilog fuel)).getD false
    | _ => false

/-- How much text entities may add to a document of the given length: a hundred times as much as
it has, and eight million characters in any case. -/
def allowanceFor (length : Nat) : Nat :=
  max (8 * 1024 * 1024) (100 * length)

/-- The root element of a document after its declaration. -/
def parseText (standalone : Bool) (text : List Char) : Option Element := do
  if !text.all isXmlChar then none
  else
    let text := unified text
    let allowance := allowanceFor text.length
    let (tokens, body) ← prologTokens (text.length + 1) text
    let accepts (doctype : Doctype) (keepsSpace : Bool) (value : List Char) : Bool :=
      (attributeValue doctype keepsSpace allowance value).isSome
    let doctype ← doctype? accepts standalone tokens
    let reading : Reading := { doctype, text := body, allowance }
    let (root, rest) ← reading.run (2 * (text.length + allowance) + 2)
    if isEpilog (rest.length + 1) rest then some root else none

/-- Why a document is not read. -/
inductive Refusal where
  /-- The bytes are no document. -/
  | malformed
  /-- The document declares an encoding that is not known. -/
  | unknownEncoding
  /-- The document declares an encoding that cannot be set up, and why. -/
  | encodingFails (fault : ValueFault)
deriving DecidableEq, Repr

/-- The root element of a document. The encoding that it declares holds unless `isText` says that
the bytes come from a text, which has an encoding already. -/
def parse (isText : Bool) (bytes : Bytes) : Except Refusal Element :=
  match Charset.detect bytes with
  | none => .error .malformed
  | some (found, bytes) =>
    match declaration? (found.preview bytes) with
    | none => .error .malformed
    | some (declaration, length) =>
      let declared :=
        match isText, declaration.encoding with
        | false, some name => found.declared name
        | _, _ => .goesOn found
      match declared with
      | .unknown => .error .unknownEncoding
      | .fails fault => .error (.encodingFails fault)
      | .conflicts => .error .malformed
      | .goesOn charset =>
        let text := charset.decode? (bytes.drop (length * found.width))
        match text.bind (parseText declaration.standalone) with
        | some root => .ok root
        | none => .error .malformed

end LicenseHeaders.Xml
