import LicenseHeaders.Document.Basic
import LicenseHeaders.Text.Blank
import LicenseHeaders.Xml.Element

/-!
# Rule documents as elements

A rule document may be written in XML. `Document.ofElement` takes the licenses from anywhere in
the document, the approved families from the sections named `approved` and the kinds of matchers
from those named `matchers`. A section within a section is taken on its own as well.
-/

set_option autoImplicit false
set_option relaxedAutoImplicit false

namespace LicenseHeaders

open Text

namespace Node

mutual

/-- The declaration that an element makes. -/
def ofElement (source : String) : Xml.Element → Node
  | ⟨name, attributes, text, children⟩ =>
    { tag := name
      attributes
      text := trimmed text
      children := ofElements source children
      source }

/-- The declarations that several elements make. -/
def ofElements (source : String) : List Xml.Element → List Node
  | [] => []
  | element :: rest => ofElement source element :: ofElements source rest

end

end Node

/-- The declarations of a tag in the sections of a name. -/
def declaredIn (source sectionTag tag : String) (root : Xml.Element) : List Node :=
  (root.named sectionTag).flatMap fun part ↦ Node.ofElements source (part.named tag)

/-- The rule document that elements declare. -/
def Document.ofElement (source : String) (root : Xml.Element) : Document :=
  { licenses := Node.ofElements source (root.named licenseTag)
    families := declaredIn source approvedTag familyTag root
    matchers := declaredIn source matchersTag matcherTag root
    sources := [source] }

end LicenseHeaders
