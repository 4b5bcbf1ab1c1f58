import LicenseHeaders.Xml.Token

/-!
# Document types

In front of its root element a document may declare its type: entities, which stand for texts,
and attributes of elements with their default values. `Doctype` holds what matters of these
declarations. They are read in two stages: `prologTokens` cuts the text up to the root element
into tokens, and the readers after it follow the grammar of declarations. What declarations say
about the content of elements is checked for its form alone.
-/

set_option autoImplicit false
set_option relaxedAutoImplicit false

namespace LicenseHeaders.Xml

/-! ### Tokens -/

/-- A token in front of the root element. White space, comments and instructions are left out. -/
inductive PrologToken where
  /-- The opening of a declaration with its keyword. -/
  | opening (keyword : String)
  /-- A text in quotes. -/
  | literal (content : List Char)
  /-- A name with neither colon nor mark. -/
  | name (text : List Char)
  /-- A name with a prefix. -/
  | prefixed (text : List Char)
  /-- A word that may be no name. -/
  | word (text : List Char)
  /-- A name with a mark behind it that says how often it may occur. -/
  | marked (text : List Char)
  /-- A keyword after a number sign. -/
  | keyword (text : String)
  /-- A reference to an entity of declarations. -/
  | outside
  | percent
  | comma
  | bar
  | openBracket
  | closeBracket
  | openParen
  | closeParen
  /-- A closing parenthesis with an asterisk behind it. -/
  | closeParenStar
  /-- A closing parenthesis with a question mark or a plus sign behind it. -/
  | closeParenMarked
  | close
deriving DecidableEq, Repr

/-- Whether what follows a token may follow it directly. -/
def followedBy (allowed : List Char) (text : List Char) : Bool :=
  (text.head?.map fun c ↦ isSpace c || allowed.contains c).getD false

/-- A text in quotes, from after the opening quote on. -/
def literalToken? (quote : Char) (text : List Char) : Option (PrologToken × List Char) := do
  let (content, rest) ← splitAt? [quote] text
  if followedBy ['>', '%', '['] rest then some (.literal content, rest) else none

/-- The keyword of a declaration, from after its opening on. -/
def openingToken? (text : List Char) : Option (PrologToken × List Char) :=
  let letters := text.takeWhile fun c ↦
    ('a' ≤ c && c ≤ 'z') || ('A' ≤ c && c ≤ 'Z') || c == '_'
  let rest := text.drop letters.length
  let goesOn :=
    match rest with
    | '%' :: rest => !followedBy ['%'] rest && !rest.isEmpty
    | rest => followedBy [] rest
  if letters.isEmpty || !goesOn then none else some (.opening (String.ofList letters), rest)

/-- A percent sign: a reference, or a mark in the declaration of an entity. -/
def percentToken? (text : List Char) : Option (PrologToken × List Char) :=
  if followedBy ['%'] text then some (.percent, text)
  else do
    let (_, rest) ← name? text
    let rest ← after? [';'] rest
    some (.outside, rest)

/-- A keyword, from after the number sign on. -/
def keywordToken? (text : List Char) : Option (PrologToken × List Char) := do
  let (name, rest) ← name? text
  if followedBy [')', '>', '%', '|'] rest then some (.keyword (String.ofList name), rest) else none

/-- A name or another word, with the mark behind it. -/
def wordToken? (text : List Char) : Option (PrologToken × List Char) :=
  let letters := text.takeWhile fun c ↦ isNameChar c || c == ':'
  let rest := text.drop letters.length
  let isNamed := (letters.head?.map isNameStart).getD false
  let colons := letters.count ':'
  let isPrefixed := isNamed && colons == 1 && letters.getLast? != some ':'
  let isName := isNamed && colons == 0
  match rest with
  | [] => none
  | c :: after =>
    if letters.isEmpty then none
    else if c == '?' || c == '*' || c == '+' then
      if isName || isPrefixed then some (.marked letters, after) else none
    else if followedBy ['>', ')', ',', '|', '[', '%'] rest then
      some (if isName then .name letters else if isPrefixed then .prefixed letters
        else .word letters, rest)
    else none

/-- A closing parenthesis, from after it on. -/
def closeParenToken? : List Char → Option (PrologToken × List Char)
  | '*' :: rest => some (.closeParenStar, rest)
  | '?' :: rest => some (.closeParenMarked, rest)
  | '+' :: rest => some (.closeParenMarked, rest)
  | rest => if followedBy ['>', ',', '|', ')'] rest then some (.closeParen, rest) else none

/-- A closing bracket, from after it on. Two brackets and a closing angle end a section that
has no place in a document. -/
def closeBracketToken? : List Char → Option (PrologToken × List Char)
  | [] => none
  | ']' :: '>' :: _ => none
  | [']'] => none
  | rest => some (.closeBracket, rest)

/-- The tokens in front of the root element and the text from the root element on. -/
def prologTokens : Nat → List Char → Option (List PrologToken × List Char)
  | 0, _ => none
  | fuel + 1, text =>
    let add (found : Option (PrologToken × List Char)) := do
      let (token, rest) ← found
      let (tokens, rest) ← prologTokens fuel rest
      some (token :: tokens, rest)
    match text with
    | [] => none
    | '<' :: '!' :: '-' :: '-' :: rest => (afterComment? rest).bind (prologTokens fuel)
    | '<' :: '!' :: rest => add (openingToken? rest)
    | '<' :: '?' :: rest => (afterInstruction? rest).bind (prologTokens fuel)
    | '<' :: c :: rest => if isNameStart c then some ([], '<' :: c :: rest) else none
    | '"' :: rest => add (literalToken? '"' rest)
    | '\'' :: rest => add (literalToken? '\'' rest)
    | '%' :: rest => add (percentToken? rest)
    | '#' :: rest => add (keywordToken? rest)
    | ',' :: rest => add (some (.comma, rest))
    | '|' :: rest => add (some (.bar, rest))
    | '[' :: rest => add (some (.openBracket, rest))
    | ']' :: rest => add (closeBracketToken? rest)
    | '(' :: rest => add (some (.openParen, rest))
    | ')' :: rest => add (closeParenToken? rest)
    | '>' :: rest => add (some (.close, rest))
    | c :: rest => if isSpace c then prologTokens fuel rest else add (wordToken? (c :: rest))

/-! ### Declarations -/

/-- What is declared of an attribute of an element. -/
structure AttributeRule where
  element : List Char
  name : List Char
  /-- Whether the white space of values is kept; else runs of it count as one space. -/
  keepsSpace : Bool
  /-- The value, as it is written, of an attribute that is not given. -/
  default : Option (List Char)
deriving DecidableEq, Repr

/-- What the type of a document declares. -/
structure Doctype where
  /-- Whether the document says that no declaration outside it matters. -/
  standalone : Bool := false
  /-- Whether there may be declarations outside the document. -/
  hasOutside : Bool := false
  /-- Whether declarations still count. They do not after a reference to declarations outside. -/
  counts : Bool := true
  /-- The texts of entities; one whose text lies outside the document has none. The first
  declaration of a name holds. -/
  entities : List (List Char × Option (List Char)) := []
  /-- The attributes, in the order in which they are declared. -/
  attributes : List AttributeRule := []
deriving DecidableEq, Repr

namespace Doctype

/-- Whether every entity that is referred to must be declared. -/
def isComplete (doctype : Doctype) : Bool :=
  !doctype.hasOutside || doctype.standalone

/-- The declaration of an entity. -/
def entity? (doctype : Doctype) (name : List Char) : Option (Option (List Char)) :=
  (doctype.entities.find? fun entry ↦ entry.1 == name).map (·.2)

/-- The declaration of an attribute. -/
def attribute? (doctype : Doctype) (element name : List Char) : Option AttributeRule :=
  doctype.attributes.find? fun rule ↦ rule.element == element && rule.name == name

/-- Adds an entity, unless declarations do not count any more. -/
def addEntity (doctype : Doctype) (name : List Char) (text : Option (List Char)) : Doctype :=
  if doctype.counts && (predefined? name).isNone && (doctype.entity? name).isNone then
    { doctype with entities := doctype.entities ++ [(name, text)] }
  else doctype

/-- Adds an attribute, unless declarations do not count any more. A default value that comes
after another declaration of the attribute does not count. -/
def addAttribute (doctype : Doctype) (rule : AttributeRule) : Doctype :=
  if !doctype.counts || (doctype.attribute? rule.element rule.name).isSome then doctype
  else { doctype with attributes := doctype.attributes ++ [rule] }

end Doctype

/-- The text of an entity from its value as it is written: references to characters are
replaced, those to entities stay. -/
def entityText? : Nat → List Char → Option (List Char)
  | 0, _ => none
  | fuel + 1, text =>
    match text with
    | [] => some []
    | '%' :: _ => none
    | '&' :: rest => do
      match ← reference? rest with
      | (.character c, rest) => (entityText? fuel rest).map (c :: ·)
      | (.entity name, rest) => (entityText? fuel rest).map ('&' :: name ++ ';' :: ·)
    | c :: rest => (entityText? fuel rest).map (c :: ·)

/-- Whether a text is a public identifier. -/
def isPublicId (text : List Char) : Bool :=
  text.all fun c ↦ ('a' ≤ c && c ≤ 'z') || ('A' ≤ c && c ≤ 'Z') || ('0' ≤ c && c ≤ '9') ||
    " \n-'()+,./:=?;!*#@$_%".toList.contains c

/-- What follows the place of something outside the document: the word `SYSTEM` and an address, or
the word `PUBLIC`, an identifier and an address. -/
def outsidePlace? : List PrologToken → Option (List PrologToken)
  | .name keyword :: .literal first :: rest =>
    if String.ofList keyword == "SYSTEM" then some rest
    else if String.ofList keyword == "PUBLIC" && isPublicId first then
      match rest with
      | .literal _ :: rest => some rest
      | _ => none
    else none
  | _ => none

/-- The declaration of an entity that stands for a text, from after its keyword on. -/
def generalEntity? (doctype : Doctype) (name : List Char) :
    List PrologToken → Option (Doctype × List PrologToken)
  | .literal value :: .close :: rest =>
    if doctype.counts then do
      let text ← entityText? (value.length + 1) value
      some (doctype.addEntity name (some text), rest)
    else some (doctype, rest)
  | tokens => do
    match ← outsidePlace? tokens with
    | .close :: rest => some (doctype.addEntity name none, rest)
    | .name keyword :: .name _ :: .close :: rest =>
      if String.ofList keyword == "NDATA" then some (doctype.addEntity name none, rest) else none
    | _ => none

/-- The declaration of an entity that stands for declarations, from after its name on. -/
def declarationEntity? (doctype : Doctype) :
    List PrologToken → Option (Doctype × List PrologToken)
  | .literal value :: .close :: rest =>
    if doctype.counts && (entityText? (value.length + 1) value).isNone then none
    else some (doctype, rest)
  | tokens => do
    match ← outsidePlace? tokens with
    | .close :: rest => some (doctype, rest)
    | _ => none

/-- The declaration of a notation, from after its name on. -/
def notation? : List PrologToken → Option (List PrologToken)
  | .name keyword :: .literal first :: .close :: rest =>
    if String.ofList keyword == "SYSTEM" ||
        (String.ofList keyword == "PUBLIC" && isPublicId first) then some rest
    else none
  | tokens => do
    match ← outsidePlace? tokens with
    | .close :: rest => some rest
    | _ => none

/-- The values of an attribute that is one of several, up to the closing parenthesis. -/
def enumeration? (namesOnly : Bool) : List PrologToken → Option (List PrologToken)
  | token :: separator :: rest =>
    let isValue :=
      match token with
      | .name _ => true
      | .prefixed _ | .word _ => !namesOnly
      | _ => false
    if !isValue then none
    else if separator = .closeParen then some rest
    else if separator = .bar then enumeration? namesOnly rest
    else none
  | _ => none

/-- The words for the types of attributes whose white space is not kept. -/
def tokenTypes : List String :=
  ["ID", "IDREF", "IDREFS", "ENTITY", "ENTITIES", "NMTOKEN", "NMTOKENS"]

/-- The type of an attribute: whether its white space is kept, and what follows. -/
def attributeType? : List PrologToken → Option (Bool × List PrologToken)
  | .openParen :: rest => (enumeration? false rest).map fun rest ↦ (false, rest)
  | .name word :: rest =>
    if String.ofList word == "CDATA" then some (true, rest)
    else if tokenTypes.contains (String.ofList word) then some (false, rest)
    else if String.ofList word == "NOTATION" then
      match rest with
      | .openParen :: rest => (enumeration? true rest).map fun rest ↦ (false, rest)
      | _ => none
    else none
  | _ => none

/-- The default value of an attribute, and what follows. -/
def attributeDefault? : List PrologToken → Option (Option (List Char) × List PrologToken)
  | .keyword "FIXED" :: .literal value :: rest => some (some value, rest)
  | .keyword word :: rest =>
    if word == "IMPLIED" || word == "REQUIRED" then some (none, rest) else none
  | .literal value :: rest => some (some value, rest)
  | _ => none

/-- The declarations of the attributes of an element, up to the end of the declaration. The
function `accepts` checks a default value in the light of what is declared so far. -/
def attributeRules? (accepts : Doctype → Bool → List Char → Bool) (element : List Char) :
    Nat → Doctype → List PrologToken → Option (Doctype × List PrologToken)
  | 0, _, _ => none
  | _ + 1, doctype, .close :: rest => some (doctype, rest)
  | fuel + 1, doctype, token :: rest => do
    let name ←
      match token with
      | .name text => some text
      | .prefixed text => some text
      | _ => none
    let (keepsSpace, rest) ← attributeType? rest
    let (default, rest) ← attributeDefault? rest
    if doctype.counts && !(default.map (accepts doctype keepsSpace)).getD true then none
    else
      attributeRules? accepts element fuel
        (doctype.addAttribute ⟨element, name, keepsSpace, default⟩) rest
  | _ + 1, _, [] => none

/-- How the members of a group are joined: not yet known, in a sequence, or by choice. -/
inductive Joined where
  | unknown
  | sequence
  | choice
deriving DecidableEq, Repr

/-- What follows the description of an element's content. The groups that are open are given
with how their members are joined, innermost first, and `expectsItem` says whether a member has
to come next. -/
def contentGroups? : List Joined → Bool → List PrologToken → Option (List PrologToken)
  | [], _, tokens => some tokens
  | _, _, [] => none
  | joined :: outer, true, token :: rest =>
    match token with
    | .openParen => contentGroups? (.unknown :: joined :: outer) true rest
    | .name _ | .prefixed _ | .marked _ => contentGroups? (joined :: outer) false rest
    | _ => none
  | joined :: outer, false, token :: rest =>
    match token with
    | .closeParen | .closeParenStar | .closeParenMarked => contentGroups? outer false rest
    | .comma =>
      if joined = .choice then none else contentGroups? (.sequence :: outer) true rest
    | .bar =>
      if joined = .sequence then none else contentGroups? (.choice :: outer) true rest
    | _ => none

/-- What follows the names of elements that may stand among text. -/
def mixedNames? : List PrologToken → Option (List PrologToken)
  | .closeParenStar :: rest => some rest
  | .bar :: .name _ :: rest => mixedNames? rest
  | .bar :: .prefixed _ :: rest => mixedNames? rest
  | _ => none

/-- What follows the description of an element's content. -/
def elementContent? : List PrologToken → Option (List PrologToken)
  | .name word :: rest =>
    if String.ofList word == "EMPTY" || String.ofList word == "ANY" then some rest else none
  | .openParen :: .keyword word :: rest =>
    if word == "PCDATA" then
      match rest with
      | .closeParen :: rest => some rest
      | rest => mixedNames? rest
    else none
  | .openParen :: rest => contentGroups? [.unknown] true rest
  | _ => none

/-- What follows the name of the element that a declaration is about. -/
def elementName? : List PrologToken → Option (List Char × List PrologToken)
  | .name text :: rest => some (text, rest)
  | .prefixed text :: rest => some (text, rest)
  | _ => none

/-- The declarations in brackets, up to the closing bracket. -/
def subset? (accepts : Doctype → Bool → List Char → Bool) :
    Nat → Doctype → List PrologToken → Option (Doctype × List PrologToken)
  | 0, _, _ => none
  | fuel + 1, doctype, tokens =>
    match tokens with
    | .closeBracket :: rest => some (doctype, rest)
    | .outside :: rest =>
      subset? accepts fuel { doctype with hasOutside := true, counts := doctype.standalone } rest
    | .opening "ENTITY" :: .percent :: .name _ :: rest => do
      let (doctype, rest) ← declarationEntity? doctype rest
      subset? accepts fuel doctype rest
    | .opening "ENTITY" :: .name name :: rest => do
      let (doctype, rest) ← generalEntity? doctype name rest
      subset? accepts fuel doctype rest
    | .opening "ATTLIST" :: rest => do
      let (element, rest) ← elementName? rest
      let (doctype, rest) ← attributeRules? accepts element (rest.length + 1) doctype rest
      subset? accepts fuel doctype rest
    | .opening "ELEMENT" :: rest => do
      let (_, rest) ← elementName? rest
      match ← elementContent? rest with
      | .close :: rest => subset? accepts fuel doctype rest
      | _ => none
    | .opening "NOTATION" :: .name _ :: rest => do
      let rest ← notation? rest
      subset? accepts fuel doctype rest
    | _ => none

/-- The declarations in brackets, if there are any, and the end of the declaration of the type. -/
def doctypeEnd? (accepts : Doctype → Bool → List Char → Bool) (doctype : Doctype) :
    List PrologToken → Option Doctype
  | [.close] => some doctype
  | .openBracket :: rest => do
    match ← subset? accepts (rest.length + 1) doctype rest with
    | (doctype, [.close]) => some doctype
    | _ => none
  | _ => none

/-- The type of a document by the tokens in front of its root element. -/
def doctype? (accepts : Doctype → Bool → List Char → Bool) (standalone : Bool) :
    List PrologToken → Option Doctype
  | [] => some { standalone }
  | .opening "DOCTYPE" :: rest => do
    let (_, rest) ← elementName? rest
    match outsidePlace? rest with
    | some rest => doctypeEnd? accepts { standalone, hasOutside := true } rest
    | none => doctypeEnd? accepts { standalone } rest
  | _ => none

end LicenseHeaders.Xml
