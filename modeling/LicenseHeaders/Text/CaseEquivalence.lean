import LicenseHeaders.Text.LetterCase

/-!
# Letters that differ only in case

Two characters are the same letter without regard to case if they have the same lower-case
letter, or lower-case letters that share a capital. The second clause joins letters such as the
long s and the s, the dotless i and the i, and the two small sigmas. Every place of this library
that compares letters without regard to case asks `sameLetter`.
-/

set_option autoImplicit false
set_option relaxedAutoImplicit false

namespace LicenseHeaders.Text

/-- For each lower-case letter that shares its capital with another lower-case letter, the
letters it shares the capital with. -/
def caseTwins : List (Nat × List Nat) :=
  [(0x69, [0x131]), (0x73, [0x17F]), (0xB5, [0x3BC]), (0x131, [0x69]), (0x17F, [0x73]),
   (0x345, [0x3B9, 0x1FBE]), (0x390, [0x1FD3]), (0x3B0, [0x1FE3]), (0x3B2, [0x3D0]),
   (0x3B5, [0x3F5]), (0x3B8, [0x3D1]), (0x3B9, [0x345, 0x1FBE]), (0x3BA, [0x3F0]),
   (0x3BC, [0xB5]), (0x3C0, [0x3D6]), (0x3C1, [0x3F1]), (0x3C2, [0x3C3]), (0x3C3, [0x3C2]),
   (0x3C6, [0x3D5]), (0x3D0, [0x3B2]), (0x3D1, [0x3B8]), (0x3D5, [0x3C6]), (0x3D6, [0x3C0]),
   (0x3F0, [0x3BA]), (0x3F1, [0x3C1]), (0x3F5, [0x3B5]), (0x432, [0x1C80]), (0x434, [0x1C81]),
   (0x43E, [0x1C82]), (0x441, [0x1C83]), (0x442, [0x1C84, 0x1C85]), (0x44A, [0x1C86]),
   (0x463, [0x1C87]), (0x1C80, [0x432]), (0x1C81, [0x434]), (0x1C82, [0x43E]),
   (0x1C83, [0x441]), (0x1C84, [0x442, 0x1C85]), (0x1C85, [0x442, 0x1C84]), (0x1C86, [0x44A]),
   (0x1C87, [0x463]), (0x1C88, [0xA64B]), (0x1E61, [0x1E9B]), (0x1E9B, [0x1E61]),
   (0x1FBE, [0x345, 0x3B9]), (0x1FD3, [0x390]), (0x1FE3, [0x3B0]), (0xA64B, [0x1C88]),
   (0xFB05, [0xFB06]), (0xFB06, [0xFB05])]

/-- The letters that share a capital with the lower-case letter of the given code point. -/
def twinsOf (lower : Nat) : List Nat :=
  (caseTwins.lookup lower).getD []

/-- Whether two code points are the same letter without regard to case. -/
def sameLetterCode (expected found : Nat) : Bool :=
  let lower := lowerRuns.image expected
  let other := lowerRuns.image found
  other == lower || (twinsOf lower).contains other

/-- Whether two characters are the same letter without regard to case. -/
def sameLetter (expected found : Char) : Bool :=
  sameLetterCode expected.toNat found.toNat

/-- The rest of a text after the given word, which is compared without regard to case. -/
def afterWord? : List Char → List Char → Option (List Char)
  | [], text => some text
  | _ :: _, [] => none
  | expected :: word, found :: text =>
    if sameLetter expected found then afterWord? word text else none

theorem sameLetterCode_refl (code : Nat) : sameLetterCode code code = true := by
  simp [sameLetterCode]

end LicenseHeaders.Text
