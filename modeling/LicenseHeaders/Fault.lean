import LicenseHeaders.Text.Quoted

/-!
# Faults

Everything that can be wrong with rules, settings and arguments. A `Cause` says what is wrong
with a declaration and `Cause.message` is its wording. A `ConfigurationError` adds where the
declaration stands: the document and the element. A `Fault` is a configuration error, a value
that was refused without reference to a declaration, or a request that is not answered at all.
-/

set_option autoImplicit false
set_option relaxedAutoImplicit false

namespace LicenseHeaders

open Text

/-- Why a value is refused on its own. -/
inductive ValueFault where
  /-- A literal to look for is empty. -/
  | emptyText
  /-- A phrase to look for has neither letters nor digits. -/
  | nothingToMatch (text : String)
  /-- A license identifier to look for is blank. -/
  | blankIdentifier
  /-- A combination, named by its class, has no members. -/
  | noMembers (className : String)
  /-- A negation has not exactly one member. -/
  | notOneMember (count : Nat)
  /-- A word stands for no verdict. -/
  | notAVerdict (word : String)
  /-- The number of header lines is below one. -/
  | windowNotPositive (lines : Int)
  /-- The number of header lines is beyond what can be counted. -/
  | windowTooLarge
  /-- An address has one bracket of a pair. -/
  | unbalancedAddress
  /-- An address in brackets is none. -/
  | notAnAddress (host : String)
  /-- An address in brackets is of the older form. -/
  | olderAddress
  /-- An address of a future form is malformed. -/
  | futureAddress
  /-- A host holds a character that stands for a separator. -/
  | separatorInHost (host : String)
  /-- A number to be read has too many digits. -/
  | numberTooLong (digits : Nat)
  /-- A number to be written has too many digits. -/
  | numberTooLongToWrite
  /-- The bytes of an encoding are not single characters. -/
  | severalBytes
  /-- The encoding of host names, called by a name, does not say which bytes it cannot read. -/
  | hostNameEncoding (name : String)
  /-- The encoding that reads nothing, called by a name. -/
  | undefinedEncoding (name : String)
  /-- The encoding of the labels of host names reads bytes of ASCII only. -/
  | byteNotAscii
  /-- The path of a file to open has a character that no path to a file contains. -/
  | nulInFile
  /-- A path to follow has a character that no path to a file contains. -/
  | nulInPath
  /-- An option that needs a value is given none. -/
  | noOptionValue
deriving DecidableEq, Repr

/-- The wording of a refused value. -/
def ValueFault.message : ValueFault → String
  | emptyText => "text matcher requires non-empty text"
  | nothingToMatch text => "full text matcher needs letters or digits, got " ++ quoted text
  | blankIdentifier => "spdx matcher requires a license identifier"
  | noMembers className => className ++ " requires at least one child matcher"
  | notOneMember count => s!"NotMatcher requires exactly one child matcher, got {count}"
  | notAVerdict word => quoted word ++ " is not a valid State"
  | windowNotPositive lines => s!"header_lines must be positive, got {lines}"
  | windowTooLarge =>
    "Stop argument for islice() must be None or an integer: 0 <= x <= sys.maxsize."
  | unbalancedAddress => "Invalid IPv6 URL"
  | notAnAddress host => quoted host ++ " does not appear to be an IPv4 or IPv6 address"
  | olderAddress => "An IPv4 address cannot be in brackets"
  | futureAddress => "IPvFuture address is invalid"
  | separatorInHost host =>
    "netloc '" ++ host ++ "' contains invalid characters under NFKC normalization"
  | numberTooLong digits =>
    s!"Exceeds the limit (4300 digits) for integer string conversion: value has {digits} " ++
      "digits; use sys.set_int_max_str_digits() to increase the limit"
  | numberTooLongToWrite =>
    "Exceeds the limit (4300 digits) for integer string conversion; " ++
      "use sys.set_int_max_str_digits() to increase the limit"
  | severalBytes => "multi-byte encodings are not supported"
  | hostNameEncoding name =>
    "decoding with '" ++ name ++ "' codec failed (UnicodeError: Unsupported error handling replace)"
  | undefinedEncoding name =>
    "decoding with '" ++ name ++ "' codec failed (UnicodeError: undefined encoding)"
  | byteNotAscii =>
    "'ascii' codec can't decode byte 0x80 in position 82: ordinal not in range(128)"
  | nulInFile => "embedded null byte"
  | nulInPath => "lstat: embedded null character in path"
  | noOptionValue => "not enough values to unpack (expected 1, got 0)"

/-- What is wrong with a declaration. -/
inductive Cause where
  /-- Something stated in so many words. -/
  | stated (text : String)
  /-- A value that is refused on its own. -/
  | value (fault : ValueFault)
  -- Documents and settings as such
  | unsupportedSuffix (suffix : String)
  | unreadableDocument
  | malformedXml
  | malformedToml
  | documentNotUtf8
  | unreadableSettings
  | settingsNotUtf8
  -- The shape of a document
  | attributeNotText (key : String)
  | notATable (what : String)
  | kindMissing
  | textNotString
  | childrenNotList
  | licenseKeysUnsupported (keys : List String)
  | notesNotText
  | licensesNotTables
  | approvedNotTexts
  | matchersNotTables
  -- Matchers
  | attributeUnsupported (name : String) (supported : List String)
  | textMissing
  | nameMissing
  | membersMissing (tag : String)
  | notOneMember (count : Nat)
  | referenceMissing
  | referenceUnresolvable (id : String)
  | copyrightPattern (owner start stop : Option String)
  | membersRefused
  -- Kinds and identifiers
  | pluginTaken (name : String)
  | pluginNotImported (name reason : String)
  | pluginUnknown (name : String)
  | tagTaken (tag : String)
  | tagUnknown (known : List String)
  | idTaken (id : String)
  | idUnknown (id : String)
  | circular (chain : List String)
  -- Licenses and approval
  | attributesUnsupported (names : List String)
  | factoryMissing
  | notOneMatcher (category : Option String) (count : Nat)
  | secondMatcher
  | categoryMissing
  | licenseNameMissing (category : String)
  | licenseMatcherMissing (category : String)
  | licenseTaken (category : String)
  | licenseReferenceMissing
  | licenseUnknown (category : String)
  -- Settings
  | settingsUnknown (names : List String)
  | defaultsNotBoolean
  | windowNotPositive
  | settingNotTexts (key : String)
  | settingsNotTable
  | windowOptionNotPositive
deriving DecidableEq, Repr

/-- Names in the order of their characters. -/
def sorted (names : List String) : List String :=
  names.mergeSort fun first second ↦ !decide (second < first)

/-- Names in a row, separated by commas. -/
def commaSeparated (names : List String) : String :=
  String.intercalate ", " names

/-- The wording of a cause. -/
def Cause.message : Cause → String
  | stated text => text
  | value fault => fault.message
  | unsupportedSuffix suffix => "unsupported rule document suffix " ++ quoted suffix
  | unreadableDocument => "unable to read rule document"
  | malformedXml => "malformed XML"
  | malformedToml => "malformed TOML"
  | documentNotUtf8 => "TOML is not valid UTF-8"
  | unreadableSettings => "unable to read settings"
  | settingsNotUtf8 => "settings are not valid UTF-8"
  | attributeNotText key => "attribute " ++ quoted key ++ " must be a string or number"
  | notATable what => what ++ " must be a table"
  | kindMissing => "matcher table requires a \"kind\" key"
  | textNotString => "\"text\" must be a string"
  | childrenNotList => "\"children\" must be a list of tables"
  | licenseKeysUnsupported keys => "unsupported license keys: " ++ commaSeparated keys
  | notesNotText => "\"notes\" must be a string or a list of strings"
  | licensesNotTables => "\"licenses\" must be an array of tables"
  | approvedNotTexts => "\"approved\" must be a list of license ids"
  | matchersNotTables => "\"matchers\" must be an array of tables"
  | attributeUnsupported name supported =>
    "unsupported attribute " ++ quoted name ++ " (supported: " ++ commaSeparated supported ++ ")"
  | textMissing => "text matcher requires text content"
  | nameMissing => "spdx matcher requires a name attribute"
  | membersMissing tag => tag ++ " requires at least one child matcher"
  | notOneMember count => s!"not requires exactly one child matcher, got {count}"
  | referenceMissing => "matcher_ref requires a refid attribute"
  | referenceUnresolvable id => "no matcher registry available to resolve " ++ quoted id
  | copyrightPattern owner start stop =>
    "invalid copyright pattern (owner=" ++ quotedOption owner ++ ", start=" ++
      quotedOption start ++ ", end=" ++ quotedOption stop ++ ")"
  | membersRefused => "does not accept child matchers"
  | pluginTaken name => "matcher plugin " ++ quoted name ++ " is already registered"
  | pluginNotImported name reason =>
    "matcher plugin " ++ quoted name ++ " could not be imported: " ++ reason
  | pluginUnknown name => "no matcher plugin named " ++ quoted name ++ " is registered"
  | tagTaken tag => "matcher tag " ++ quoted tag ++ " is already bound to another factory"
  | tagUnknown known => "unknown matcher tag (known: " ++ commaSeparated known ++ ")"
  | idTaken id => "duplicate matcher id " ++ quoted id
  | idUnknown id => "reference to unknown matcher id " ++ quoted id
  | circular chain => "circular matcher reference: " ++ String.intercalate " -> " chain
  | attributesUnsupported names => "unsupported attribute(s): " ++ commaSeparated names
  | factoryMissing => "matcher requires a factory attribute"
  | notOneMatcher category count =>
    "license " ++ quotedOption category ++ s!" must contain exactly one matcher, found {count}"
  | secondMatcher => "a license takes exactly one root matcher"
  | categoryMissing => "license requires an id (family category)"
  | licenseNameMissing category => "license " ++ quoted category ++ " requires a name"
  | licenseMatcherMissing category => "license " ++ quoted category ++ " requires a matcher"
  | licenseTaken category => "duplicate license id " ++ quoted category
  | licenseReferenceMissing => "family requires a license_ref attribute"
  | licenseUnknown category => "family refers to unknown license " ++ quoted category
  | settingsUnknown names => "unknown setting(s): " ++ commaSeparated names
  | defaultsNotBoolean => "'use_defaults' must be a boolean"
  | windowNotPositive => "'header_lines' must be a positive integer"
  | settingNotTexts key => quoted key ++ " must be a list of strings"
  | settingsNotTable => "[tool.licensekit] must be a table"
  | windowOptionNotPositive => "--header-lines must be positive"

/-- A fault in a declaration, with the document and the element it was found in. Either is empty
where it is not known. -/
structure ConfigurationError where
  cause : Cause
  source : String := ""
  node : String := ""
deriving DecidableEq, Repr

/-- The wording of a configuration error: where, a colon, and what. -/
def ConfigurationError.message (error : ConfigurationError) : String :=
  let element := "<" ++ error.node ++ ">"
  if error.source.isEmpty then
    if error.node.isEmpty then error.cause.message
    else element ++ ": " ++ error.cause.message
  else if error.node.isEmpty then error.source ++ ": " ++ error.cause.message
  else error.source ++ " " ++ element ++ ": " ++ error.cause.message

/-- Requests that are not answered at all. -/
inductive Crash where
  /-- The `tool` entry of a project file has no entries to look up. -/
  | toolWithoutEntries
  /-- The `tool` entry of a project file cannot be searched. -/
  | toolNotSearchable
  /-- A kind of matcher says nothing about how it is built. -/
  | kindWithoutBuild
  /-- A repetition count of a pattern is beyond the bound. -/
  | repetitionTooLarge
  /-- The name of an encoding is not known. -/
  | encodingUnknown
  /-- A path is longer than a file tree allows. -/
  | pathTooLong
  /-- A host, a port or a path of an address cannot be those of a request. -/
  | requestInvalid
  /-- The name of a host to look up has a character that no name of a host contains. -/
  | nulInHost
  /-- What is left to others fails in a way that is not expected. -/
  | failure (className : String)
deriving DecidableEq, Repr, Inhabited

/-- Why there is no result. -/
inductive Fault where
  | configuration (error : ConfigurationError)
  | value (fault : ValueFault)
  | crash (crash : Crash)
deriving DecidableEq, Repr, Inhabited

namespace Fault

/-- A fault in a declaration whose place is given as far as it is known. -/
def of (cause : Cause) (source : String := "") (node : String := "") : Fault :=
  configuration ⟨cause, source, node⟩

/-- The wording of a fault; what is not answered has none. -/
def message? : Fault → Option String
  | configuration error => some error.message
  | value fault => some fault.message
  | crash _ => none

end Fault

end LicenseHeaders
