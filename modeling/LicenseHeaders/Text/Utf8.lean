/-!
# Bytes and characters

Reading bytes as UTF-8. `utf8Char` reads the character that starts with a given byte and says
how many further bytes belong to it; where the bytes are no character, it takes the longest run
of them that could have started one. `decodeUtf8?` refuses bytes that are not UTF-8, and
`decodeUtf8Lossy` puts the replacement character for each run that is no character.
-/

set_option autoImplicit false
set_option relaxedAutoImplicit false

namespace LicenseHeaders.Text

/-- The content of a file. -/
abbrev Bytes := List UInt8

/-- Whether a byte continues a character. -/
def isContinuation (byte : UInt8) : Bool :=
  0x80 ≤ byte && byte ≤ 0xBF

/-- The value of the six low bits of a continuation byte. -/
def continuationBits (byte : UInt8) : Nat :=
  byte.toNat % 64

/-- Whether `second` may follow the first byte of a character of three or four bytes. The rule
keeps out the overlong forms, the surrogates and what lies beyond the last code point. -/
def isSecondOf (first second : UInt8) : Bool :=
  isContinuation second &&
    (if first = 0xE0 then decide (0xA0 ≤ second)
     else if first = 0xED then decide (second ≤ 0x9F)
     else if first = 0xF0 then decide (0x90 ≤ second)
     else if first = 0xF4 then decide (second ≤ 0x8F)
     else true)

/-- A character of three bytes, from its second byte on. -/
def utf8Three (first : UInt8) : Bytes → Option Char × Nat
  | second :: third :: _ =>
    if !isSecondOf first second then (none, 0)
    else if !isContinuation third then (none, 1)
    else (some (Char.ofNat ((first.toNat % 16) * 4096 + continuationBits second * 64 +
      continuationBits third)), 2)
  | [second] => (none, if isSecondOf first second then 1 else 0)
  | [] => (none, 0)

/-- A character of four bytes, from its second byte on. -/
def utf8Four (first : UInt8) : Bytes → Option Char × Nat
  | second :: third :: fourth :: _ =>
    if !isSecondOf first second then (none, 0)
    else if !isContinuation third then (none, 1)
    else if !isContinuation fourth then (none, 2)
    else (some (Char.ofNat ((first.toNat % 8) * 262144 + continuationBits second * 4096 +
      continuationBits third * 64 + continuationBits fourth)), 3)
  | [second, third] =>
    (none, if !isSecondOf first second then 0 else if isContinuation third then 2 else 1)
  | [second] => (none, if isSecondOf first second then 1 else 0)
  | [] => (none, 0)

/-- The character that starts with the byte `first`, and how many of the following bytes are
part of it. -/
def utf8Char (first : UInt8) (following : Bytes) : Option Char × Nat :=
  if first < 0x80 then (some (Char.ofNat first.toNat), 0)
  else if first < 0xC2 then (none, 0)
  else if first < 0xE0 then
    match following with
    | second :: _ =>
      if isContinuation second then
        (some (Char.ofNat ((first.toNat % 32) * 64 + continuationBits second)), 1)
      else (none, 0)
    | [] => (none, 0)
  else if first < 0xF0 then utf8Three first following
  else if first < 0xF5 then utf8Four first following
  else (none, 0)

/-- The characters of the bytes after the first `skipped`, with `none` for each run of bytes
that is no character. -/
def utf8Chars (skipped : Nat) : Bytes → List (Option Char)
  | [] => []
  | first :: following =>
    match skipped with
    | remaining + 1 => utf8Chars remaining following
    | 0 =>
      let (character, length) := utf8Char first following
      character :: utf8Chars length following

/-- The text that the bytes encode, if all of them are UTF-8. -/
def decodeUtf8? (bytes : Bytes) : Option (List Char) :=
  (utf8Chars 0 bytes).mapM id

/-- The text that the bytes encode, with the replacement character for what is not UTF-8. -/
def decodeUtf8Lossy (bytes : Bytes) : List Char :=
  (utf8Chars 0 bytes).map fun character ↦ character.getD '\uFFFD'

/-- The bytes that encode a character. -/
def encodeUtf8Char (c : Char) : Bytes :=
  let code := c.toNat
  if code < 0x80 then [code.toUInt8]
  else if code < 0x800 then [(0xC0 + code / 64).toUInt8, (0x80 + code % 64).toUInt8]
  else if code < 0x10000 then
    [(0xE0 + code / 4096).toUInt8, (0x80 + code / 64 % 64).toUInt8, (0x80 + code % 64).toUInt8]
  else
    [(0xF0 + code / 262144).toUInt8, (0x80 + code / 4096 % 64).toUInt8,
      (0x80 + code / 64 % 64).toUInt8, (0x80 + code % 64).toUInt8]

/-- The bytes that encode a text. -/
def encodeUtf8 (text : List Char) : Bytes :=
  text.flatMap encodeUtf8Char

end LicenseHeaders.Text
