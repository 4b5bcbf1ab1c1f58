import LicenseHeaders.Address.Basic
import LicenseHeaders.Network
import LicenseHeaders.Path
import LicenseHeaders.Text.Blank

/-!
# Addresses of files

An address with the scheme `file:` leads to a file of the machine that it is read on.
`Address.file?` gives the place of that file: blanks around the address and a fragment behind it
are dropped, and percent signs with two hexadecimal digits behind them stand for bytes. The address
may name a host, and `Address.isOwn` finds out whether that is the machine itself.
-/

set_option autoImplicit false
set_option relaxedAutoImplicit false

namespace LicenseHeaders.Address

open Text

/-- The value of a hexadecimal digit. -/
def hexValue? (c : Char) : Option Nat :=
  if c.isDigit then some (c.toNat - '0'.toNat)
  else if 'a' ≤ c && c ≤ 'f' then some (c.toNat - 'a'.toNat + 10)
  else if 'A' ≤ c && c ≤ 'F' then some (c.toNat - 'A'.toNat + 10)
  else none

/-- The byte that two hexadecimal digits stand for. -/
def byteOf? (high low : Char) : Option UInt8 := do
  return (16 * (← hexValue? high) + (← hexValue? low)).toUInt8

/-- The text of an address with the bytes read so far, last byte first, put in front. Each run of
ASCII characters is read as bytes, and these as UTF-8; other characters stand for themselves. -/
def unescapeAfter (bytes : Bytes) : List Char → List Char
  | [] => decodeUtf8Lossy bytes.reverse
  | '%' :: high :: low :: rest =>
    match byteOf? high low with
    | some byte => unescapeAfter (byte :: bytes) rest
    | none => unescapeAfter ('%'.toNat.toUInt8 :: bytes) (high :: low :: rest)
  | c :: rest =>
    if c.toNat < 0x80 then unescapeAfter (c.toNat.toUInt8 :: bytes) rest
    else decodeUtf8Lossy bytes.reverse ++ c :: unescapeAfter [] rest

/-- The text that a part of an address stands for. -/
def unescape (text : List Char) : List Char :=
  unescapeAfter [] text

/-- The scheme of an address and what stands behind it, without blanks around the address and
without a fragment. -/
def schemeAndRest (address : String) : List Char × List Char :=
  cutFirst ':' (beforeLast '#' (trim address.toList))

/-- The host and the path of an address behind its scheme. -/
def hostAndPath : List Char → List Char × List Char
  | '/' :: '/' :: rest =>
    let path := rest.dropWhile (!endsHost ·)
    (unescape (rest.takeWhile (!endsHost ·)),
      if path.isEmpty || path.head? = some '/' then path else '/' :: path)
  | rest => ([], rest)

/-- Whether a path starts with exactly two slashes. -/
def startsWithTwoSlashes : List Char → Bool
  | '/' :: '/' :: rest => rest.head? != some '/'
  | _ => false

/-- The signs that a scheme may have besides letters and digits. -/
def schemeSigns : List Char :=
  ['+', '-', '.']

/-- What stands behind the scheme of a text, or the whole text if it has none. -/
def behindScheme (text : List Char) : List Char :=
  let (scheme, rest) := cutFirst ':' text
  if text.contains ':' && scheme.head?.any (·.isAlpha) &&
    scheme.all fun c ↦ c.isAlphanum || schemeSigns.contains c
  then rest else text

/-- Whether the type of a file can be told. For that its name is read as an address once more, and
the host in it, if there is one, must not be refused. -/
def hasType (name : List Char) : Bool :=
  let text := (name.dropWhile (· ≤ ' ')).filter (!isSkipped ·)
  (behindHost (behindScheme text)).isOk

/-- The name of a host without the colon at its end. A host with a name and a port is not that of a
file. -/
def withoutPort? (host : List Char) : Option (List Char) :=
  let port := afterLast ':' host
  let name := beforeLast ':' host
  if host.contains ':' && port.all Char.isDigit then
    if port.isEmpty || name.isEmpty then some name else none
  else some host

/-- Where the address of a file leads. -/
structure Place where
  /-- The machine that the file is on; it has no name if it is the machine itself. -/
  host : List Char
  path : Path
  /-- Whether the path ends in a way that only the path of a directory may end. -/
  isDirectory : Bool
deriving DecidableEq, Repr

/-- Where an address leads, if it is that of a file. -/
def file? (address : String) : Option Place := do
  let (scheme, rest) := schemeAndRest address
  guard (lowercase scheme == "file".toList)
  let (host, path) := hostAndPath rest
  guard (host.isEmpty || host == "localhost".toList || !startsWithTwoSlashes path)
  guard (hasType path)
  let name := unescape path
  guard !name.isEmpty
  return {
    host := ← withoutPort? host
    path := .ofText (String.ofList name)
    isDirectory := [[], ['.']].contains (afterLast '/' name) }

/-- Whether the parts of a host between its dots are as long as they may be. -/
def hasLabels (host : List Char) : Bool :=
  let labels := pieces '.' host
  labels.all (·.length < 64) && labels.dropLast.all (!·.isEmpty)

/-- Whether a host is the machine itself. Its name is looked up as it is written if it is in ASCII;
how other names are written for that is left to the network. -/
def isOwn (network : Network) (host : List Char) : Except Crash Bool :=
  let isPlain := host.all (·.toNat < 0x80)
  if host.isEmpty then .ok true
  else if isPlain && !hasLabels host then .ok false
  else if isPlain && host.contains '\x00' then .error .nulInHost
  else
    match network.host (String.ofList host) with
    | .own => .ok true
    | .other => .ok false
    | .failure className => .error (.failure className)

end LicenseHeaders.Address
