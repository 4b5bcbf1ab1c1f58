import LicenseHeaders.Xml.NameChar

/-!
# Tokens of XML

The pieces of which documents are made: names, references, comments and instructions. Each
function takes the characters from some place on and gives back what stands there and what
follows it, or nothing if the document is malformed. All texts are read with line feeds alone at
the ends of lines, which `unified` provides.
-/

set_option autoImplicit false
set_option relaxedAutoImplicit false

namespace LicenseHeaders.Xml

/-- A text in which line feeds alone end the lines. -/
def unified : List Char → List Char
  | [] => []
  | '\r' :: rest =>
    match rest with
    | '\n' :: rest => '\n' :: unified rest
    | rest => '\n' :: unified rest
  | c :: rest => c :: unified rest

/-- What follows a given piece, if the text starts with it. -/
def after? (piece : List Char) (text : List Char) : Option (List Char) :=
  if piece.isPrefixOf text then some (text.drop piece.length) else none

/-- What stands in front of the first occurrence of a piece, and what follows it. -/
def splitAt? (piece : List Char) : List Char → Option (List Char × List Char)
  | [] => none
  | c :: rest =>
    match after? piece (c :: rest) with
    | some rest => some ([], rest)
    | none => (splitAt? piece rest).map fun (before, rest) ↦ (c :: before, rest)

/-- A name without a prefix. -/
def name? : List Char → Option (List Char × List Char)
  | [] => none
  | c :: rest =>
    if isNameStart c then
      let more := rest.takeWhile isNameChar
      some (c :: more, rest.drop more.length)
    else none

/-- A name that may have a prefix and a colon in front. -/
def qualifiedName? (text : List Char) : Option (List Char × List Char) := do
  let (first, rest) ← name? text
  match rest with
  | ':' :: rest =>
    let (localPart, rest) ← name? rest
    if rest.head? == some ':' then none else some (first ++ ':' :: localPart, rest)
  | rest => some (first, rest)

/-! ### References -/

/-- What stands between an ampersand and a semicolon. -/
inductive Reference where
  /-- A character, by its code. -/
  | character (c : Char)
  /-- An entity, by its name. -/
  | entity (name : List Char)
deriving DecidableEq, Repr

/-- The value of a digit in a base up to 16. -/
def digitValue? (base : Nat) (c : Char) : Option Nat :=
  let value? :=
    if '0' ≤ c && c ≤ '9' then some (c.toNat - '0'.toNat)
    else if 'a' ≤ c && c ≤ 'f' then some (c.toNat - 'a'.toNat + 10)
    else if 'A' ≤ c && c ≤ 'F' then some (c.toNat - 'A'.toNat + 10)
    else none
  value?.filter (· < base)

/-- The character with a code that is written in a base, up to a semicolon. -/
def characterReference? (base : Nat) (text : List Char) : Option (Char × List Char) := do
  let digits := text.takeWhile fun c ↦ (digitValue? base c).isSome
  let code := digits.foldl (fun code digit ↦ base * code + (digitValue? base digit).getD 0) 0
  let rest ← after? [';'] (text.drop digits.length)
  let isScalar := code < 0xD800 || (0xDFFF < code && code < 0x110000)
  if digits.isEmpty || !isScalar || !isXmlChar (Char.ofNat code) then none
  else some (Char.ofNat code, rest)

/-- A reference, from after the ampersand on. -/
def reference? : List Char → Option (Reference × List Char)
  | '#' :: 'x' :: rest => (characterReference? 16 rest).map fun (c, rest) ↦ (.character c, rest)
  | '#' :: rest => (characterReference? 10 rest).map fun (c, rest) ↦ (.character c, rest)
  | text => do
    let (name, rest) ← name? text
    let rest ← after? [';'] rest
    some (.entity name, rest)

/-- The character that one of the five predefined entities stands for. -/
def predefined? (name : List Char) : Option Char :=
  match String.ofList name with
  | "lt" => some '<'
  | "gt" => some '>'
  | "amp" => some '&'
  | "quot" => some '"'
  | "apos" => some '\''
  | _ => none

/-! ### Comments and instructions -/

/-- What follows a comment, from after its opening on. Two hyphens end it. -/
def afterComment? (text : List Char) : Option (List Char) := do
  let (_, rest) ← splitAt? ['-', '-'] text
  after? ['>'] rest

/-- Whether a name is that of the declaration of a document, in some letter case. -/
def isReserved (name : List Char) : Bool :=
  match name with
  | [x, m, l] => (x == 'x' || x == 'X') && (m == 'm' || m == 'M') && (l == 'l' || l == 'L')
  | _ => false

/-- What follows an instruction, from after its opening on. -/
def afterInstruction? (text : List Char) : Option (List Char) := do
  let (name, rest) ← name? text
  if isReserved name then none
  else
    match rest with
    | '?' :: rest => after? ['>'] rest
    | c :: rest => if isSpace c then (splitAt? ['?', '>'] rest).map (·.2) else none
    | [] => none

end LicenseHeaders.Xml
