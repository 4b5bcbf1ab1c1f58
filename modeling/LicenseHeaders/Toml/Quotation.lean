/-!
# TOML texts in quotes

A text is written in double quotes, where a backslash escapes, or in single quotes, where
nothing does; with three quotes it may run over several lines. `basicText` and `literalText`
read what follows the opening quotes up to and including the closing ones. All readers here take
the characters that follow and give back what they have read and what is left.
-/

set_option autoImplicit false
set_option relaxedAutoImplicit false

namespace LicenseHeaders.Toml

/-- Blanks within a line. -/
def isLineBlank (c : Char) : Bool :=
  c == ' ' || c == '\t'

/-- Blanks and line ends. -/
def isGap (c : Char) : Bool :=
  isLineBlank c || c == '\n'

/-- The control characters that must not stand in a comment or a text on one line. -/
def isControl (c : Char) : Bool :=
  (c.toNat < 0x20 && c != '\t') || c.toNat == 0x7F

/-- The control characters that must not stand in a text; over several lines, a line feed may. -/
def isRefused (multiline : Bool) (c : Char) : Bool :=
  isControl c && !(multiline && c == '\n')

/-- The value of a hexadecimal digit. -/
def hexValue? (c : Char) : Option Nat :=
  if '0' ≤ c && c ≤ '9' then some (c.toNat - '0'.toNat)
  else if 'a' ≤ c && c ≤ 'f' then some (c.toNat - 'a'.toNat + 10)
  else if 'A' ≤ c && c ≤ 'F' then some (c.toNat - 'A'.toNat + 10)
  else none

/-- The character whose code is written with the given hexadecimal digits. A surrogate is no
character. -/
def charOfHex? (digits : List Char) : Option Char := do
  let values ← digits.mapM hexValue?
  let code := values.foldl (fun code digit ↦ 16 * code + digit) 0
  if code < 0xD800 || (0xDFFF < code && code < 0x110000) then some (Char.ofNat code) else none

/-- The character that a backslash and a letter stand for. -/
def escaped? : Char → Option Char
  | 'b' => some '\x08'
  | 't' => some '\t'
  | 'n' => some '\n'
  | 'f' => some '\x0C'
  | 'r' => some '\r'
  | '"' => some '"'
  | '\\' => some '\\'
  | _ => none

/-- Where a reader of a text in double quotes stands. -/
inductive Continuation where
  /-- Within the text. -/
  | inText
  /-- After a backslash and blanks: the line must end here. -/
  | beforeLineEnd
  /-- After a backslash at the end of a line: blanks and line ends are skipped. -/
  | afterLineEnd
deriving DecidableEq, Repr

/-- A text in double quotes from after the opening quotes on; `read` are the characters read so
far, last one first. -/
def basicText (multiline : Bool) (place : Continuation) (read : List Char) :
    List Char → Option (List Char × List Char)
  | [] => none
  | c :: rest =>
    if place = .beforeLineEnd then
      if isLineBlank c then basicText multiline .beforeLineEnd read rest
      else if c == '\n' then basicText multiline .afterLineEnd read rest
      else none
    else if place = .afterLineEnd && isGap c then basicText multiline .afterLineEnd read rest
    else if c == '"' then
      if !multiline then some (read.reverse, rest)
      else
        match rest with
        | '"' :: '"' :: rest => some (read.reverse, rest)
        | _ => basicText multiline .inText ('"' :: read) rest
    else if c == '\\' then
      match rest with
      | [] => none
      | 'u' :: d1 :: d2 :: d3 :: d4 :: rest =>
        match charOfHex? [d1, d2, d3, d4] with
        | some character => basicText multiline .inText (character :: read) rest
        | none => none
      | 'U' :: d1 :: d2 :: d3 :: d4 :: d5 :: d6 :: d7 :: d8 :: rest =>
        match charOfHex? [d1, d2, d3, d4, d5, d6, d7, d8] with
        | some character => basicText multiline .inText (character :: read) rest
        | none => none
      | letter :: rest =>
        if multiline && isLineBlank letter then basicText multiline .beforeLineEnd read rest
        else if multiline && letter == '\n' then basicText multiline .afterLineEnd read rest
        else
          match escaped? letter with
          | some character => basicText multiline .inText (character :: read) rest
          | none => none
    else if isRefused multiline c then none
    else basicText multiline .inText (c :: read) rest

/-- A text in single quotes from after the opening quotes on; `read` are the characters read so
far, last one first. -/
def literalText (multiline : Bool) (read : List Char) :
    List Char → Option (List Char × List Char)
  | [] => none
  | c :: rest =>
    if c == '\'' then
      if !multiline then some (read.reverse, rest)
      else
        match rest with
        | '\'' :: '\'' :: rest => some (read.reverse, rest)
        | _ => literalText multiline (c :: read) rest
    else if isRefused multiline c then none
    else literalText multiline (c :: read) rest

/-- A text over several lines, of which `content` has been read. The closing quotes may be
preceded by one or two quotes that belong to the text, so up to two further quotes are added. -/
def withExtraQuotes (mark : Char) (content rest : List Char) : List Char × List Char :=
  let extra := (rest.take 2).takeWhile (· == mark)
  (content ++ extra, rest.drop extra.length)

/-- The characters after the line feed that may follow the opening quotes of a text over several
lines. -/
def afterFirstLineFeed : List Char → List Char
  | '\n' :: rest => rest
  | text => text

/-- A text in any kind of quotes. -/
def quotedText : List Char → Option (List Char × List Char)
  | '"' :: '"' :: '"' :: rest =>
    (basicText true .inText [] (afterFirstLineFeed rest)).map fun (content, rest) ↦
      withExtraQuotes '"' content rest
  | '\'' :: '\'' :: '\'' :: rest =>
    (literalText true [] (afterFirstLineFeed rest)).map fun (content, rest) ↦
      withExtraQuotes '\'' content rest
  | '"' :: rest => basicText false .inText [] rest
  | '\'' :: rest => literalText false [] rest
  | _ => none

end LicenseHeaders.Toml
