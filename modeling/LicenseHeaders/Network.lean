import LicenseHeaders.Text.LetterCase
import LicenseHeaders.Text.Utf8

/-!
# The network

What other machines say. A `Network` tells whose name that of a host is and what is sent back for
an address. Nothing is assumed of either: a look-up and an exchange may also fail in ways that
nobody looks for.
-/

set_option autoImplicit false
set_option relaxedAutoImplicit false

namespace LicenseHeaders

open Text

/-- What the look-up of a host comes to. -/
inductive Network.Host where
  /-- It is the machine itself. -/
  | own
  /-- It is another machine, or there is none of that name. -/
  | other
  /-- The look-up fails in a way that is not expected. -/
  | failure (className : String)
deriving DecidableEq, Repr

/-- What is sent back for an address. -/
inductive Network.Answer where
  | bytes (bytes : Bytes)
  /-- No document can be had, for one of the expected reasons. -/
  | nothing
  /-- The exchange fails in a way that is not expected. -/
  | failure (className : String)
deriving DecidableEq, Repr

/-- The network that a machine is part of. Left to itself, it is the machine alone. -/
structure Network where
  host : String → Network.Host := fun name ↦
    if ["localhost", "127.0.0.1"].contains (lowered name) then .own else .other
  answer : String → Network.Answer := fun _ ↦ .nothing

instance : Inhabited Network where
  default := {}

end LicenseHeaders
