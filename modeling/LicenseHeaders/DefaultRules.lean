import LicenseHeaders.Document.Basic

/-!
# The default rules

The rules that are in force unless they are switched off: eleven licenses that are common in
source files, eight of them approved. `defaultRules` is the document that declares them.
-/

set_option autoImplicit false
set_option relaxedAutoImplicit false

namespace LicenseHeaders

namespace DefaultRules

/-- How the default rules are called in messages. -/
def source : String := "licensekit:default-rules.xml"

/-! ### Matchers -/

/-- A matcher that looks for a text. -/
def phrase (text : String) : Node :=
  { tag := "text", text, source }

/-- A matcher that looks for a text and can be referred to. -/
def named (id text : String) : Node :=
  { tag := "text", attributes := [("id", id)], text, source }

/-- A matcher that looks for a license identifier. -/
def identifier (name : String) : Node :=
  { tag := "spdx", attributes := [("name", name)], source }

/-- A matcher that looks for the copyright notice of an owner. -/
def notice (owner : String) : Node :=
  { tag := "copyright", attributes := [("owner", owner)], source }

/-- A matcher that is satisfied by any of its members. -/
def anyOf (id : Option String) (children : List Node) : Node :=
  { tag := "or", attributes := id.toList.map fun id ↦ ("id", id), children, source }

/-- A matcher that is satisfied by all of its members together. -/
def allOf (children : List Node) : Node :=
  { tag := "and", children, source }

/-! ### Licenses -/

/-- A license with remarks and the matcher that recognizes it. -/
def license (id name : String) (derivedFrom : Option String) (notes : List String)
    (matcher : Node) : Node :=
  { tag := licenseTag
    attributes := [("id", id), ("name", name)] ++
      derivedFrom.toList.map fun category ↦ ("derived_from", category)
    children := (notes.map fun text ↦ { tag := noteTag, text, source }) ++ [matcher]
    source }

/-- The Apache license. -/
def apache : Node :=
  license "AL" "Apache License Version 2.0" none
    ["Note that APACHE requires a NOTICE.",
     "All modifications require notes.",
     "See http://www.apache.org/licenses/LICENSE-2.0"] <|
    anyOf (some "apache-2.0")
      [phrase
           ("Licensed to the Apache Software Foundation (ASF) under one or more contributor " ++
           "license agreements"),
       phrase "Licensed under the Apache License, Version 2.0",
       named "apache-2.0-url" "http://www.apache.org/licenses/LICENSE-2.0",
       phrase "https://www.apache.org/licenses/LICENSE-2.0",
       identifier "Apache-2.0"]

/-- The MIT license. -/
def mit : Node :=
  license "MIT" "The MIT License" none [] <|
    anyOf none
      [phrase
           ("Permission is hereby granted, free of charge, to any person obtaining a copy of " ++
           "this software and associated documentation files"),
       identifier "MIT"]

/-- The BSD license with three clauses. -/
def bsd3 : Node :=
  license "BSD-3" "BSD 3 clause" none [] <|
    anyOf none
      [allOf
         [phrase
              ("Redistribution and use in source and binary forms, with or without " ++
              "modification, are permitted provided that the following conditions are met"),
          phrase "Neither the name of"],
       identifier "BSD-3-Clause"]

/-- The Common Development and Distribution License. -/
def cddl1 : Node :=
  license "CDDL1" "COMMON DEVELOPMENT AND DISTRIBUTION LICENSE Version 1.0" none [] <|
    anyOf none
      [phrase
           ("The contents of this file are subject to the terms of the Common Development and " ++
           "Distribution License(\"CDDL\") (the \"License\"). You may not use this file " ++
           "except in compliance with the License."),
       phrase "https://oss.oracle.com/licenses/CDDL",
       identifier "CDDL-1.0"]

/-- The license of OASIS documents. -/
def oasis : Node :=
  license "OASIS" "OASIS Open License" none [] <|
    allOf
      [notice "OASIS Open",
       phrase
           ("This document and translations of it may be copied and furnished to others and " ++
           "derivative works that comment on or otherwise explain it or assist in its " ++
           "implementation may be prepared, copied, published and distributed")]

/-- The license of W3C software. -/
def w3cSoftware : Node :=
  license "W3C" "W3C Software Copyright" none
    ["Note that W3C requires a NOTICE.",
     "All modifications require notes.",
     "See http://www.w3.org/Consortium/Legal/2002/copyright-software-20021231."] <|
    anyOf none
      [phrase "http://www.w3.org/Consortium/Legal/2002/copyright-software-20021231",
       identifier "W3C"]

/-- The license of W3C documents. -/
def w3cDocument : Node :=
  license "W3CD" "W3C Document Copyright" none
    ["Note that W3CD does not allow modifications.",
     "See http://www.w3.org/Consortium/Legal/2002/copyright-documents-20021231."]
    (phrase "http://www.w3.org/Consortium/Legal/2002/copyright-documents-20021231")

/-- Files that a program has written. -/
def generated : Node :=
  license "GEN" "Generated Files" none
    ["Generated files do not require license headers."] <|
    anyOf none
      [phrase "generated by an automated",
       phrase "Generated By:JJTree",
       phrase "Generated By:JavaCC",
       phrase "This class was automatically generated by a Snowball to Java compiler",
       phrase "Autogenerated by Thrift",
       phrase "DO NOT EDIT THIS FILE - it is machine generated",
       phrase "Code generated by protoc-gen-go. DO NOT EDIT."]

/-- The GNU General Public License, version 1. -/
def gpl1 : Node :=
  license "GPL1" "GNU General Public License, version 1" none [] <|
    anyOf none
      [phrase
           ("This program is free software; you can redistribute it and/or modify it under " ++
           "the terms of the GNU General Public License as published by the Free Software " ++
           "Foundation; either version 1"),
       identifier "GPL-1.0-only",
       identifier "GPL-1.0-or-later"]

/-- The GNU General Public License, version 2, which derives from version 1. -/
def gpl2 : Node :=
  license "GPL2" "GNU General Public License, version 2" (some "GPL1") [] <|
    anyOf none
      [phrase
           ("This program is free software; you can redistribute it and/or modify it under " ++
           "the terms of the GNU General Public License as published by the Free Software " ++
           "Foundation; either version 2"),
       identifier "GPL-2.0-only",
       identifier "GPL-2.0-or-later"]

/-- The GNU General Public License, version 3, which derives from version 2. -/
def gpl3 : Node :=
  license "GPL3" "GNU General Public License, version 3" (some "GPL2") [] <|
    anyOf none
      [phrase
           ("This program is free software: you can redistribute it and/or modify it under " ++
           "the terms of the GNU General Public License as published by the Free Software " ++
           "Foundation, either version 3"),
       identifier "GPL-3.0-only",
       identifier "GPL-3.0-or-later"]

/-! ### Approval -/

/-- A family that is approved. -/
def approval (category : String) : Node :=
  { tag := familyTag, attributes := [("license_ref", category)], source }

end DefaultRules

open DefaultRules in
/-- The rules that are in force unless they are switched off. -/
def defaultRules : Document :=
  { licenses :=
      [apache, mit, bsd3, cddl1, oasis, w3cSoftware, w3cDocument, generated, gpl1, gpl2, gpl3]
    families :=
      ["AL", "MIT", "BSD-3", "CDDL1", "OASIS", "W3C", "W3CD", "GEN"].map approval
    sources := [source] }

end LicenseHeaders
