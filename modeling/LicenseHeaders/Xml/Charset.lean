import LicenseHeaders.Fault
import LicenseHeaders.Text.Utf8
import LicenseHeaders.Xml.SingleByte

/-!
# Encodings of XML documents

A `Charset` says how bytes stand for characters. `Charset.detect` finds out from the first bytes
of a document, which need not say so themselves: a byte order mark decides, and else the place of
a zero byte among the first two, since a document starts with a character of ASCII.
`Charset.declared` says what a declared encoding means for the rest of the document, and
`Charset.decode?` reads the bytes and refuses those that stand for no character.
-/

set_option autoImplicit false
set_option relaxedAutoImplicit false

namespace LicenseHeaders.Xml

open Text

/-- How bytes stand for characters. -/
inductive Charset where
  | ascii
  /-- ASCII without the tilde. -/
  | tildeless
  | latin1
  | utf8
  | utf16 (bigEndian : Bool)
  /-- One byte per character, with an upper half of its own. -/
  | single (upperHalf : UpperHalf)
deriving DecidableEq, Repr

namespace Charset

/-- How many bytes a character of ASCII takes. -/
def width : Charset → Nat
  | utf16 _ => 2
  | _ => 1

/-- The encoding of a document by its first bytes, and the bytes after a byte order mark. A
document has two bytes at least. -/
def detect : Bytes → Option (Charset × Bytes)
  | first :: second :: rest =>
    if first = 0xFE && second = 0xFF then some (utf16 true, rest)
    else if first = 0xFF && second = 0xFE then some (utf16 false, rest)
    else if first = 0xEF && second = 0xBB && rest.head? = some 0xBF then some (utf8, rest.tail)
    else if first = 0 then some (utf16 true, first :: second :: rest)
    else if second = 0 then some (utf16 false, first :: second :: rest)
    else some (utf8, first :: second :: rest)
  | _ => none

/-- The units of two bytes each; a single byte at the end is refused. -/
def units (bigEndian : Bool) : Bytes → Option (List Nat)
  | [] => some []
  | [_] => none
  | first :: second :: rest =>
    let unit :=
      if bigEndian then 256 * first.toNat + second.toNat else 256 * second.toNat + first.toNat
    (units bigEndian rest).map (unit :: ·)

/-- The characters that units of two bytes stand for. A leading surrogate takes ten bits of the
unit after it; a trailing one cannot stand alone. -/
def ofUnits : List Nat → Option (List Char)
  | [] => some []
  | unit :: rest =>
    if 0xD800 ≤ unit && unit < 0xDC00 then
      match rest with
      | next :: rest =>
        (ofUnits rest).map (Char.ofNat (0x10000 + 1024 * (unit % 1024) + next % 1024) :: ·)
      | [] => none
    else if 0xDC00 ≤ unit && unit < 0xE000 then none
    else (ofUnits rest).map (Char.ofNat unit :: ·)

/-- The characters of ASCII that bytes stand for. -/
def plain? (bytes : Bytes) : Option (List Char) :=
  if bytes.all (· < 0x80) then some (bytes.map fun byte ↦ Char.ofNat byte.toNat) else none

/-- The characters that bytes stand for. -/
def decode? (bytes : Bytes) : Charset → Option (List Char)
  | ascii => plain? bytes
  | tildeless => if bytes.contains 0x7E then none else plain? bytes
  | latin1 => some (bytes.map fun byte ↦ Char.ofNat byte.toNat)
  | utf8 => decodeUtf8? bytes
  | utf16 bigEndian => (units bigEndian bytes).bind ofUnits
  | single upperHalf => bytes.mapM upperHalf.char?

/-- The units that bytes start with, each as one character. This is how a declaration is read,
which holds characters of ASCII only. -/
def preview (bytes : Bytes) : Charset → List Char
  | utf16 bigEndian => ((units bigEndian (bytes.take (2 * (bytes.length / 2)))).getD []).map
      Char.ofNat
  | _ => bytes.map fun byte ↦ Char.ofNat byte.toNat

/-- The small letter of a capital letter of ASCII. -/
def smallLetter (c : Char) : Char :=
  if 'A' ≤ c && c ≤ 'Z' then Char.ofNat (c.toNat + 32) else c

/-- What a document written in one encoding may declare. -/
inductive Declared where
  /-- The encoding to go on with. -/
  | goesOn (charset : Charset)
  /-- An encoding that cannot be that of this document. -/
  | conflicts
  /-- An encoding that cannot be set up, and why. -/
  | fails (fault : ValueFault)
  /-- An encoding that is not known. -/
  | unknown
deriving DecidableEq, Repr

/-- The encoding of a name of the standard, for a document that has been read in another. -/
def standard? (found : Charset) : String → Option Charset
  | "iso-8859-1" => some latin1
  | "us-ascii" => some ascii
  | "utf-8" => some utf8
  | "utf-16" => some (if found.width = 2 then found else utf16 true)
  | "utf-16be" => some (utf16 true)
  | "utf-16le" => some (utf16 false)
  | _ => none

/-- The name of an encoding with an underscore for every run of signs between letters and digits.
It starts with a letter. -/
def unifiedName : List Char → List Char
  | [] => []
  | c :: rest =>
    if c.isAlphanum || c == '.' then c :: unifiedName rest
    else
      match unifiedName rest with
      | [] => []
      | next :: others => if next == '_' then next :: others else '_' :: next :: others

/-- The encoding of a unified name without dots that is not one of the standard. What is said about
it quotes the name as it is written. -/
def ofUnifiedName (written unified : String) : Declared :=
  if latin1Names.contains unified then .goesOn latin1
  else if lowerHalfNames.contains unified then .goesOn ascii
  else if tildelessNames.contains unified then .goesOn tildeless
  else if foreignNames.contains unified then .conflicts
  else if severalByteNames.contains unified then .fails .severalBytes
  else
    match unified with
    | "idna" => .fails (.hostNameEncoding written)
    | "undefined" => .fails (.undefinedEncoding written)
    | "punycode" => .fails .byteNotAscii
    | _ =>
      match singleByteNames.find? fun entry ↦ entry.1.contains unified with
      | some (_, upperHalf) => .goesOn (single upperHalf)
      | none => .unknown

/-- The encoding of a name that is not one of the standard. A dot counts as an underscore, but not
in every name, and some names have a dot of their own. -/
def other (name : List Char) : Declared :=
  let unified := unifiedName (name.map smallLetter)
  let undotted := String.ofList (unified.map fun c ↦ if c == '.' then '_' else c)
  if dottedNames.contains (String.ofList unified) then .goesOn ascii
  else if unified.contains '.' && undottedNames.contains undotted then .unknown
  else ofUnifiedName (String.ofList name) undotted

/-- What the declared name of an encoding means in a document that has been read in another. Letter
case does not matter. The number of bytes per character and their order must be those that have been
found if the name is one of the standard; else the document goes on in the encoding declared. -/
def declared (found : Charset) (name : List Char) : Declared :=
  match standard? found (String.ofList (name.map smallLetter)) with
  | some charset =>
    if charset.width ≠ found.width || (charset.width = 2 && charset ≠ found) then .conflicts
    else .goesOn charset
  | none => other name

end Charset

end LicenseHeaders.Xml
