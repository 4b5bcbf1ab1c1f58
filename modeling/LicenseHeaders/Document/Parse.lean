import LicenseHeaders.Document.Elements
import LicenseHeaders.Document.Tables
import LicenseHeaders.Text.Utf8
import LicenseHeaders.Toml.Parser
import LicenseHeaders.Xml.Parser

/-!
# Reading rule documents

`Document.parse` reads a rule document in either format from a text or from the bytes of a file.
-/

set_option autoImplicit false
set_option relaxedAutoImplicit false

namespace LicenseHeaders

open Text

/-- What a rule document is read from. -/
inductive Content where
  | text (characters : List Char)
  | bytes (bytes : Bytes)
deriving Inhabited

/-- The formats of rule documents. -/
inductive Document.Format where
  | xml
  | toml
deriving DecidableEq, Repr, Inhabited

/-- The ending of the names of files in a format. -/
def Document.Format.suffix : Document.Format → String
  | xml => "xml"
  | toml => "toml"

namespace Document

/-- Reads a rule document in XML. -/
def parseXml (source : String) (content : Content) : Except Fault Document :=
  let root :=
    match content with
    | .text characters => Xml.parse true (encodeUtf8 characters)
    | .bytes bytes => Xml.parse false bytes
  match root with
  | .ok root => .ok (ofElement source root)
  | .error .malformed => .error (.of .malformedXml source)
  | .error .unknownEncoding => .error (.crash .encodingUnknown)
  | .error (.encodingFails fault) => .error (.value fault)

/-- The entries of a TOML document. -/
def tomlTable (source : String) (characters : List Char) : Except Fault Toml.Table :=
  match Toml.parse characters with
  | .ok entries => .ok entries
  | .error .malformed => .error (.of .malformedToml source)
  | .error (.numberTooLong digits) => .error (.value (.numberTooLong digits))

/-- Reads a rule document in TOML. -/
def parseToml (source : String) (content : Content) : Except Fault Document := do
  let characters ←
    match content with
    | .text characters => pure characters
    | .bytes bytes =>
      match decodeUtf8? bytes with
      | some characters => pure characters
      | none => throw (.of .documentNotUtf8 source)
  ofTable source (← tomlTable source characters)

/-- Reads a rule document. -/
def parse (format : Format) (source : String) (content : Content) : Except Fault Document :=
  match format with
  | .xml => parseXml source content
  | .toml => parseToml source content

end Document

end LicenseHeaders
