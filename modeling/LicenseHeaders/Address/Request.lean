import LicenseHeaders.Address.File
import LicenseHeaders.Text.WholeNumber

/-!
# Requests

An address with the scheme `http:` or `https:` leads to another machine, which is asked for what is
there. `Address.request` says what becomes of the request before anything is sent: it can be refused
in a way that is not expected, it can be one that nobody can write, and else it is sent.
-/

set_option autoImplicit false
set_option relaxedAutoImplicit false

namespace LicenseHeaders.Address

open Text

/-- Whether an address leads to another machine. -/
def isRemote (address : String) : Bool :=
  ["http".toList, "https".toList].contains (lowercase (schemeAndRest address).1)

/-- What becomes of a request before it is sent. -/
inductive Request where
  | sent
  /-- No host is given, or the request has a character that none can have. -/
  | unwritable
  /-- The port is no number, or a character of the host or the path is not printed. -/
  | invalid
deriving DecidableEq, Repr

/-- The port that a host is given with: what stands behind its last colon, unless that belongs to a
numeric host in brackets. -/
def port (host : List Char) : List Char :=
  let text := afterLast ':' host
  if host.contains ':' && !text.contains ']' then text else []

/-- A host without its port. -/
def withoutPort (host : List Char) : List Char :=
  if host.contains ':' && !(afterLast ':' host).contains ']' then beforeLast ':' host else host

/-- Whether a character is a blank of ASCII or a control character of it. -/
def isControl (c : Char) : Bool :=
  c ≤ ' ' || c == '\x7F'

/-- Whether a line of a request ends within a text. It goes on if the next one starts with a
blank. -/
def breaksLine : List Char → Bool
  | [] => false
  | '\n' :: rest => !rest.head?.any [' ', '\t'].contains || breaksLine rest
  | '\r' :: rest => !rest.head?.any [' ', '\t', '\n'].contains || breaksLine rest
  | _ :: rest => breaksLine rest

/-- What becomes of the request that an address stands for. -/
def request (address : String) : Request :=
  let (host, path) := hostAndPath (schemeAndRest address).2
  let port := port host
  if host.isEmpty then .unwritable
  else if !port.isEmpty && (wholeNumber? port).isNone then .invalid
  else if (withoutPort host).any isControl || path.any isControl then .invalid
  else if path.any (0x80 ≤ ·.toNat) || host.any (0x100 ≤ ·.toNat) || breaksLine host then
    .unwritable
  else .sent

end LicenseHeaders.Address
