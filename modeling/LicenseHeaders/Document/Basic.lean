/-!
# Rule documents

A `Node` is one declaration of a rule document: a tag with attributes, a text and further nodes.
A `Document` holds the declarations of one source or of several: licenses, approved families and
kinds of matchers. `Document.merge` puts the declarations of a second document behind those of a
first.
-/

set_option autoImplicit false
set_option relaxedAutoImplicit false

namespace LicenseHeaders

/-- A declaration of a rule document. -/
structure Node where
  /-- The kind of the declaration. -/
  tag : String
  /-- The attributes, in the order in which they are written. -/
  attributes : List (String × String) := []
  /-- The text that stands directly in the declaration, without blanks at its ends. -/
  text : String := ""
  /-- The declarations in this one, in the order in which they are written. -/
  children : List Node := []
  /-- The document that the declaration stands in. -/
  source : String := ""
deriving Inhabited

namespace Node

/-- The value of an attribute. -/
def get? (node : Node) (name : String) : Option String :=
  (node.attributes.find? fun entry ↦ entry.1 == name).map (·.2)

/-- The names of the attributes. -/
def names (node : Node) : List String :=
  node.attributes.map (·.1)

end Node

/-- The tags of declarations that are no matchers. -/
def licenseTag : String := "license"

@[inherit_doc licenseTag]
def approvedTag : String := "approved"

@[inherit_doc licenseTag]
def familyTag : String := "family"

@[inherit_doc licenseTag]
def matchersTag : String := "matchers"

@[inherit_doc licenseTag]
def matcherTag : String := "matcher"

@[inherit_doc licenseTag]
def noteTag : String := "note"

/-- The declarations of one source or of several, each sort in the order in which they are
written. -/
structure Document where
  licenses : List Node := []
  families : List Node := []
  matchers : List Node := []
  sources : List String := []
deriving Inhabited

namespace Document

/-- The declarations of two documents, those of the second behind those of the first. -/
def merge (first second : Document) : Document :=
  { licenses := first.licenses ++ second.licenses
    families := first.families ++ second.families
    matchers := first.matchers ++ second.matchers
    sources := first.sources ++ second.sources }

/-- The declarations of several documents in order. -/
def mergeAll (documents : List Document) : Document :=
  documents.foldl merge {}

/-- Whether a document declares nothing. -/
def isEmpty (document : Document) : Bool :=
  document.licenses.isEmpty && document.families.isEmpty && document.matchers.isEmpty

end Document

end LicenseHeaders
