import LicenseHeaders.Xml.Token

/-!
# Namespaces

An attribute named `xmlns`, or with the prefix `xmlns`, binds a prefix to a namespace for an
element and everything in it. `Bindings.bind?` says which bindings are allowed and
`Bindings.expand?` gives the name that a qualified name stands for: the namespace in braces and
the local part.
-/

set_option autoImplicit false
set_option relaxedAutoImplicit false

namespace LicenseHeaders.Xml

/-- Prefixes with their namespaces, innermost first. The empty prefix is that of names without
one, and the empty namespace is none. -/
abbrev Bindings := List (List Char × List Char)

/-- The namespace that the prefix `xml` is always bound to. -/
def xmlNamespace : List Char :=
  "http://www.w3.org/XML/1998/namespace".toList

/-- The namespace of the names that bind prefixes. -/
def xmlnsNamespace : List Char :=
  "http://www.w3.org/2000/xmlns/".toList

namespace Bindings

/-- The bindings outside the root element. -/
def initial : Bindings :=
  [("xml".toList, xmlNamespace)]

/-- Binds a prefix. Only the empty prefix can be freed; `xml` and its namespace belong together,
`xmlns` and its namespace belong to nobody, and no namespace has a closing brace in it. -/
def bind? (bindings : Bindings) (word namespaceName : List Char) : Option Bindings :=
  if namespaceName.isEmpty && !word.isEmpty then none
  else if word == "xmlns".toList then none
  else if namespaceName.contains '\x7d' then none
  else if (word == "xml".toList) != (namespaceName == xmlNamespace) then none
  else if namespaceName == xmlnsNamespace then none
  else some ((word, namespaceName) :: bindings)

/-- The namespace that a prefix is bound to. -/
def namespace? (bindings : Bindings) (word : List Char) : Option (List Char) :=
  (bindings.find? fun binding ↦ binding.1 == word).map (·.2)

end Bindings

/-- A name with its namespace in braces in front. -/
def inNamespace (namespaceName name : List Char) : String :=
  String.ofList ('\x7b' :: namespaceName ++ '\x7d' :: name)

/-- The prefix and the local part of a name that has a prefix. -/
def prefixed? (name : List Char) : Option (List Char × List Char) :=
  splitAt? [':'] name

/-- The prefix that an attribute binds. -/
def boundPrefix? (name : List Char) : Option (List Char) :=
  if name == "xmlns".toList then some []
  else after? "xmlns:".toList name

namespace Bindings

/-- What a qualified name stands for. A prefix must be bound; a name without one is in a
namespace only if `isElement` and the empty prefix is bound. -/
def expand? (bindings : Bindings) (isElement : Bool) (name : List Char) : Option String :=
  match prefixed? name with
  | some (word, localPart) =>
    (bindings.namespace? word).map fun found ↦ inNamespace found localPart
  | none =>
    match bindings.namespace? [] with
    | some (c :: more) =>
      some (if isElement then inNamespace (c :: more) name else String.ofList name)
    | _ => some (String.ofList name)

end Bindings

end LicenseHeaders.Xml
