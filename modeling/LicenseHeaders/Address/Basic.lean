import LicenseHeaders.Address.Numeric
import LicenseHeaders.Fault
import LicenseHeaders.Text.CodeRanges
import LicenseHeaders.Text.LetterCase

/-!
# Addresses

A rule document is found at an address instead of a path if its name starts with one of the
schemes `file:`, `http:` and `https:`. `Address.path` takes the path out of an address: what
stands between the host and the query or the fragment. On the way the host is checked.
-/

set_option autoImplicit false
set_option relaxedAutoImplicit false

namespace LicenseHeaders.Address

open Text

/-- How addresses start. -/
def schemes : List String :=
  ["file:", "http:", "https:"]

/-- Whether a name is an address and not a path. -/
def isAddress (name : String) : Bool :=
  let letters := lowercase name.toList
  schemes.any fun scheme ↦ scheme.toList.isPrefixOf letters

/-- The characters that end the host of an address. -/
def endsHost (c : Char) : Bool :=
  c == '/' || c == '?' || c == '#'

/-- The characters outside ASCII whose compatibility form holds a character that separates the
parts of an address. -/
def separatorForms : CodeRanges :=
  [(0x2047, 0x2049), (0x2100, 0x2101), (0x2105, 0x2106), (0x2A74, 0x2A74), (0xFE13, 0xFE13),
   (0xFE16, 0xFE16), (0xFE55, 0xFE56), (0xFE5F, 0xFE5F), (0xFE6B, 0xFE6B), (0xFF03, 0xFF03),
   (0xFF0F, 0xFF0F), (0xFF1A, 0xFF1A), (0xFF1F, 0xFF20)]

theorem separatorForms_wellFormed : separatorForms.wellFormed = true := by decide

/-- Whether a text is a letter `v`, a hexadecimal version, a dot and something behind it in the
same line. -/
def isFutureHost : List Char → Bool
  | 'v' :: rest =>
    let version := rest.takeWhile fun c ↦
      c.isDigit || ('a' ≤ c && c ≤ 'f') || ('A' ≤ c && c ≤ 'F')
    match rest.drop version.length with
    | '.' :: name => !version.isEmpty && !name.isEmpty && !name.contains '\n'
    | _ => false
  | _ => false

/-- Checks a host that is written in brackets. -/
def checkBracketed (host : List Char) : Except ValueFault Unit :=
  if host.head? = some 'v' then
    if isFutureHost host then .ok () else .error .futureAddress
  else if isIPv4 host then .error .olderAddress
  else if isIPv6 host then .ok ()
  else .error (.notAnAddress (String.ofList host))

/-- Checks the host of an address: brackets come in pairs and hold a numeric host, and no other
character can pass for a separator. -/
def checkHost (host : List Char) : Except ValueFault Unit := do
  if host.contains '[' != host.contains ']' then throw .unbalancedAddress
  if host.contains '[' then checkBracketed (cutFirst ']' (cutFirst '[' host).2).1
  if host.any fun c ↦ separatorForms.includes c.toNat then
    throw (.separatorInHost (String.ofList host))

/-- The characters that an address is read without. -/
def isSkipped (c : Char) : Bool :=
  c == '\t' || c == '\n' || c == '\r'

/-- What stands behind the host of an address without its scheme. The host is checked. -/
def behindHost : List Char → Except ValueFault (List Char)
  | '/' :: '/' :: rest => do
    checkHost (rest.takeWhile (!endsHost ·))
    return rest.dropWhile (!endsHost ·)
  | rest => return rest

/-- The path of an address. -/
def path (address : String) : Except ValueFault (List Char) := do
  let rest ← behindHost (cutFirst ':' (address.toList.filter (!isSkipped ·))).2
  return rest.takeWhile fun c ↦ c != '?' && c != '#'

end LicenseHeaders.Address
