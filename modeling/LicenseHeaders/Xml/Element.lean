/-!
# XML elements

An `Element` has a name, attributes, the text that stands directly in it, and the elements in
it. `Element.descendants` lists an element and everything below it in document order.
-/

set_option autoImplicit false
set_option relaxedAutoImplicit false

namespace LicenseHeaders.Xml

/-- An element of an XML document. -/
structure Element where
  /-- The name; one in a namespace has the namespace in braces in front. -/
  name : String
  /-- The attributes, in the order in which they are written. -/
  attributes : List (String × String) := []
  /-- The text that stands directly in the element, without that of the elements in it. -/
  text : String := ""
  /-- The elements that stand directly in the element. -/
  children : List Element := []
deriving Inhabited

namespace Element

mutual

/-- An element and all elements below it, in document order. -/
def descendants : Element → List Element
  | ⟨name, attributes, text, children⟩ =>
    ⟨name, attributes, text, children⟩ :: descendantsOfEach children

/-- Several elements and all elements below them, in document order. -/
def descendantsOfEach : List Element → List Element
  | [] => []
  | element :: rest => element.descendants ++ descendantsOfEach rest

end

/-- The elements of a name among an element and those below it. -/
def named (element : Element) (name : String) : List Element :=
  element.descendants.filter (·.name == name)

end Element

end LicenseHeaders.Xml
