import LicenseHeaders.Xml.Token

/-!
# The declaration of an XML document

A document may start with a declaration of its version, its encoding, and whether it stands
alone. `declaration` reads it if there is one.
-/

set_option autoImplicit false
set_option relaxedAutoImplicit false

namespace LicenseHeaders.Xml

/-- What a document declares of itself. -/
structure Declaration where
  /-- The name of the encoding. -/
  encoding : Option (List Char) := none
  /-- Whether no declaration outside the document matters. -/
  standalone : Bool := false
deriving DecidableEq, Repr

/-- The characters of a value in a declaration. -/
def isDeclaredChar (c : Char) : Bool :=
  ('a' ≤ c && c ≤ 'z') || ('A' ≤ c && c ≤ 'Z') || ('0' ≤ c && c ≤ '9') ||
    c == '.' || c == '-' || c == '_'

/-- Whether a character is one of ASCII. -/
def isAscii (c : Char) : Bool :=
  c.toNat < 0x80

/-- A name with its value and what follows it, or nothing but white space. White space stands in
front. -/
def setting? (text : List Char) : Option (Option (List Char × List Char) × List Char) :=
  let unspaced := text.dropWhile isSpace
  if unspaced.isEmpty then some (none, [])
  else if unspaced.length = text.length then none
  else do
    let name := unspaced.takeWhile fun c ↦ isAscii c && c != '=' && !isSpace c
    let rest ← after? ['='] ((unspaced.drop name.length).dropWhile isSpace)
    match rest.dropWhile isSpace with
    | quote :: rest =>
      if name.isEmpty || (quote != '"' && quote != '\'') then none
      else
        let value := rest.takeWhile isDeclaredChar
        let rest ← after? [quote] (rest.drop value.length)
        some (some (name, value), rest)
    | [] => none

/-- What remains of a declaration after its encoding: whether the document stands alone. -/
def readStandalone (encoding : Option (List Char)) (name value rest : List Char) :
    Option Declaration :=
  if String.ofList name != "standalone" || !rest.all isSpace then none
  else
    match String.ofList value with
    | "yes" => some ⟨encoding, true⟩
    | "no" => some ⟨encoding, false⟩
    | _ => none

/-- What a declaration says, from after its opening and without its end. The version comes first
and is not looked at. -/
def readDeclaration (body : List Char) : Option Declaration := do
  let (version, rest) ← setting? body
  let (name, _) ← version
  if String.ofList name != "version" then none
  else
    match ← setting? rest with
    | (none, _) => some {}
    | (some (name, value), rest) =>
      if String.ofList name == "encoding" then
        let first ← value.head?
        if !(('a' ≤ first && first ≤ 'z') || ('A' ≤ first && first ≤ 'Z')) then none
        else
          match ← setting? rest with
          | (none, _) => some { encoding := some value }
          | (some (name, alone), rest) => readStandalone (some value) name alone rest
      else readStandalone none name value rest

/-- The declaration that a document starts with and the number of its characters; it has none if
it starts otherwise. -/
def declaration? (text : List Char) : Option (Declaration × Nat) :=
  let opening := "<?xml".toList
  match after? opening text with
  | none => some ({}, 0)
  | some rest =>
    let startsHere := (rest.head?.map isSpace).getD false || (after? ['?', '>'] rest).isSome
    if startsHere then do
      let (body, _) ← splitAt? ['?', '>'] rest
      let declaration ← readDeclaration body
      some (declaration, opening.length + body.length + 2)
    else some ({}, 0)

end LicenseHeaders.Xml
