import LicenseHeaders.Text.Quoted

/-!
# Records

A `Datum` is a value made of texts, numbers, truth values, lists and records, and `Datum.write`
writes it in JSON. The output holds ASCII characters only. With an indentation every member of a
list or a record stands on a line of its own; without one everything stands on one line.
-/

set_option autoImplicit false
set_option relaxedAutoImplicit false

namespace LicenseHeaders

open Text

/-- A value that is written to a report. -/
inductive Datum where
  | nothing
  | truth (value : Bool)
  | number (value : Nat)
  | text (content : String)
  | list (items : List Datum)
  | record (fields : List (String × Datum))
deriving Inhabited

namespace Datum

/-- A text, or nothing where there is none. -/
def ofOption : Option String → Datum
  | some content => text content
  | none => nothing

/-! ### Texts -/

/-- A unit of sixteen bits as an escape. -/
def unitEscape (value : Nat) : List Char :=
  '\\' :: 'u' :: hexDigits 4 value

/-- A character by its code: in one unit, or in two that share its bits. -/
def charEscape (code : Nat) : List Char :=
  if code < 0x10000 then unitEscape code
  else
    unitEscape (0xD800 + (code - 0x10000) / 0x400) ++
      unitEscape (0xDC00 + (code - 0x10000) % 0x400)

/-- The letters of the escapes that have one. -/
def letterEscapes : List (Char × Char) :=
  [('"', '"'), ('\\', '\\'), ('\n', 'n'), ('\r', 'r'), ('\t', 't'), ('\x08', 'b'),
   ('\x0c', 'f')]

/-- How a character is written in a text. -/
def escapedChar (c : Char) : List Char :=
  match letterEscapes.lookup c with
  | some letter => ['\\', letter]
  | none => if ' ' ≤ c && c ≤ '~' then [c] else charEscape c.toNat

/-- A text as it is written. -/
def escaped (content : String) : List Char :=
  '"' :: content.toList.flatMap escapedChar ++ ['"']

/-! ### Lists and records -/

/-- The start of a line at a depth; nothing where everything stands on one line. -/
def lineStart (indentation : Option Nat) (depth : Nat) : List Char :=
  match indentation with
  | some width => '\n' :: List.replicate (width * depth) ' '
  | none => []

/-- What stands between two members: a comma, and a blank where no new line follows. -/
def betweenMembers (indentation : Option Nat) (depth : Nat) : List Char :=
  match indentation with
  | some _ => ',' :: lineStart indentation depth
  | none => [',', ' ']

/-- Members at a depth between an opening and a closing sign. -/
def enclosed (opening closing : Char) (indentation : Option Nat) (depth : Nat)
    (members : List (List Char)) : List Char :=
  if members.isEmpty then [opening, closing]
  else
    opening :: lineStart indentation (depth + 1) ++
      (betweenMembers indentation (depth + 1)).intercalate members ++
      lineStart indentation depth ++ [closing]

mutual

/-- A value at a depth as it is written. -/
def written (indentation : Option Nat) (depth : Nat) : Datum → List Char
  | nothing => "null".toList
  | truth value => if value then "true".toList else "false".toList
  | number value => Nat.toDigits 10 value
  | text content => escaped content
  | list items =>
    enclosed '[' ']' indentation depth (writtenItems indentation (depth + 1) items)
  | record fields =>
    enclosed '\x7b' '\x7d' indentation depth (writtenFields indentation (depth + 1) fields)

/-- The items of a list as they are written. -/
def writtenItems (indentation : Option Nat) (depth : Nat) : List Datum → List (List Char)
  | [] => []
  | item :: rest => written indentation depth item :: writtenItems indentation depth rest

/-- The fields of a record as they are written. -/
def writtenFields (indentation : Option Nat) (depth : Nat) :
    List (String × Datum) → List (List Char)
  | [] => []
  | (name, value) :: rest =>
    (escaped name ++ ':' :: ' ' :: written indentation depth value) ::
      writtenFields indentation depth rest

end

/-- A value as it is written, with the given indentation. -/
def write (indentation : Option Nat) (value : Datum) : String :=
  String.ofList (written indentation 0 value)

end Datum

end LicenseHeaders
