import LicenseHeaders.Builder.Kind
import LicenseHeaders.Matcher.Basic

/-!
# Installations

What a program finds where it is installed: the look-up of characters by their names, and what the
plugged-in kinds of matchers make of their declarations. A plugged-in kind puts its matcher together
from those known here, by the identifier, the attributes and the text of the declaration alone. The
matcher has that identifier and shares no part with another one. A declaration that the kind refuses
is one whose place it does not know.
-/

set_option autoImplicit false
set_option relaxedAutoImplicit false

namespace LicenseHeaders

namespace Plugin

/-- What is made of a declaration under an identifier. -/
structure Made (id : Option String) where
  matcher : Matcher
  named_eq_nil : matcher.named = []
  id?_eq : ∀ name, id = some name → name ≠ "" → matcher.id? = some name

/-- Why nothing is made of a declaration. -/
inductive Refusal where
  /-- The declaration is wrong; its element may be given. -/
  | stated (text : String) (node : String)
  /-- The kind fails in a way that is not expected. -/
  | failure (className : String)

/-- What a refusal is raised as. -/
def Refusal.fault : Refusal → Fault
  | stated text node => .of (.stated text) "" node
  | failure className => .crash (.failure className)

end Plugin

/-- What is installed. -/
class Installation extends Text.CharacterNames where
  /-- What a plugged-in kind makes of an identifier, of the values of attributes, and of a text. -/
  make (plugin : Plugin) (id : Option String) (value? : String → Option String) (text : String) :
    Except Plugin.Refusal (Plugin.Made id)

end LicenseHeaders
