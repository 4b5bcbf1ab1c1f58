import LicenseHeaders.Text.Utf8
import Mathlib.Tactic.SplitIfs

/-!
# Reading what was written

The bytes of a character are read as that character, whatever bytes follow (`utf8Char_encoded`), so
the bytes of a text are read as that text and no character of it is replaced
(`decodeUtf8Lossy_encodeUtf8`) or refused (`decodeUtf8?_encodeUtf8`).
-/

set_option autoImplicit false
set_option relaxedAutoImplicit false

namespace LicenseHeaders.Text

theorem toNat_toUInt8 {n : Nat} (hn : n < 256) : n.toUInt8.toNat = n :=
  UInt8.toNat_ofNat_of_lt' hn

/-! ### Continuation bytes -/

section Continuation

variable (n : Nat)

theorem toNat_continuation : (0x80 + n % 64).toUInt8.toNat = 0x80 + n % 64 :=
  toNat_toUInt8 (by omega)

theorem isContinuation_continuation : isContinuation (0x80 + n % 64).toUInt8 = true := by
  simp only [isContinuation, Bool.and_eq_true, decide_eq_true_eq, UInt8.le_iff_toNat_le,
    toNat_continuation, UInt8.reduceToNat]
  omega

theorem continuationBits_continuation : continuationBits (0x80 + n % 64).toUInt8 = n % 64 := by
  rw [continuationBits, toNat_continuation]
  omega

end Continuation

/-! ### Characters by the number of their bytes -/

variable {code : Nat} (following : Bytes)

theorem utf8Char_one (hcode : code < 0x80) :
    utf8Char code.toUInt8 following = (some (Char.ofNat code), 0) := by
  have hfirst : code.toUInt8 < 0x80 := by
    rw [UInt8.lt_iff_toNat_lt, toNat_toUInt8 (by omega)]
    exact hcode
  unfold utf8Char
  rw [if_pos hfirst, toNat_toUInt8 (by omega)]

theorem utf8Char_two (hlow : 0x80 ≤ code) (hhigh : code < 0x800) :
    utf8Char (0xC0 + code / 64).toUInt8 ((0x80 + code % 64).toUInt8 :: following) =
      (some (Char.ofNat code), 1) := by
  have hfirst : (0xC0 + code / 64).toUInt8.toNat = 0xC0 + code / 64 := toNat_toUInt8 (by omega)
  simp only [utf8Char, UInt8.lt_iff_toNat_lt, hfirst, UInt8.reduceToNat]
  rw [if_neg (by omega), if_neg (by omega), if_pos (by omega),
    isContinuation_continuation, if_pos rfl, continuationBits_continuation]
  have hvalue : (0xC0 + code / 64) % 32 * 64 + code % 64 = code := by omega
  rw [hvalue]

/-- The bounds on a second byte, in numbers. -/
theorem isSecondOf_iff (first second : UInt8) : isSecondOf first second = true ↔
    isContinuation second = true ∧ (first.toNat = 0xE0 → 0xA0 ≤ second.toNat) ∧
      (first.toNat = 0xED → second.toNat ≤ 0x9F) ∧ (first.toNat = 0xF0 → 0x90 ≤ second.toNat) ∧
      (first.toNat = 0xF4 → second.toNat ≤ 0x8F) := by
  simp only [isSecondOf, Bool.and_eq_true, UInt8.le_iff_toNat_le, ← UInt8.toNat_inj,
    UInt8.reduceToNat]
  refine and_congr_right fun _ ↦ ?_
  split_ifs <;> simp only [decide_eq_true_eq, true_iff] <;> omega

theorem utf8Char_three (hlow : 0x800 ≤ code) (hhigh : code < 0x10000)
    (hscalar : code < 0xD800 ∨ 0xDFFF < code) :
    utf8Char (0xE0 + code / 4096).toUInt8
        ((0x80 + code / 64 % 64).toUInt8 :: (0x80 + code % 64).toUInt8 :: following) =
      (some (Char.ofNat code), 2) := by
  have hfirst : (0xE0 + code / 4096).toUInt8.toNat = 0xE0 + code / 4096 := toNat_toUInt8 (by omega)
  have hsecond :
      isSecondOf (0xE0 + code / 4096).toUInt8 (0x80 + code / 64 % 64).toUInt8 = true := by
    rw [isSecondOf_iff, hfirst, toNat_continuation]
    exact ⟨isContinuation_continuation _, by omega, by omega, by omega, by omega⟩
  simp only [utf8Char, UInt8.lt_iff_toNat_lt, hfirst, UInt8.reduceToNat]
  rw [if_neg (by omega), if_neg (by omega), if_neg (by omega), if_pos (by omega)]
  simp only [utf8Three, hsecond, isContinuation_continuation, continuationBits_continuation, hfirst,
    Bool.not_true, Bool.false_eq_true, if_false]
  have hvalue :
    (0xE0 + code / 4096) % 16 * 4096 + code / 64 % 64 * 64 + code % 64 = code := by omega
  rw [hvalue]

theorem utf8Char_four (hlow : 0x10000 ≤ code) (hhigh : code < 0x110000) :
    utf8Char (0xF0 + code / 262144).toUInt8
        ((0x80 + code / 4096 % 64).toUInt8 :: (0x80 + code / 64 % 64).toUInt8 ::
          (0x80 + code % 64).toUInt8 :: following) =
      (some (Char.ofNat code), 3) := by
  have hfirst : (0xF0 + code / 262144).toUInt8.toNat = 0xF0 + code / 262144 :=
    toNat_toUInt8 (by omega)
  have hsecond :
      isSecondOf (0xF0 + code / 262144).toUInt8 (0x80 + code / 4096 % 64).toUInt8 = true := by
    rw [isSecondOf_iff, hfirst, toNat_continuation]
    exact ⟨isContinuation_continuation _, by omega, by omega, by omega, by omega⟩
  simp only [utf8Char, UInt8.lt_iff_toNat_lt, hfirst, UInt8.reduceToNat]
  rw [if_neg (by omega), if_neg (by omega), if_neg (by omega), if_neg (by omega), if_pos (by omega)]
  simp only [utf8Four, hsecond, isContinuation_continuation, continuationBits_continuation, hfirst,
    Bool.not_true, Bool.false_eq_true, if_false]
  have hvalue :
    (0xF0 + code / 262144) % 8 * 262144 + code / 4096 % 64 * 4096 + code / 64 % 64 * 64 +
      code % 64 = code := by omega
  rw [hvalue]

/-! ### Texts -/

/-- The bytes of a character are read as that character, whatever follows. -/
theorem utf8Char_encoded (c : Char) : ∃ first rest, encodeUtf8Char c = first :: rest ∧
    utf8Char first (rest ++ following) = (some c, rest.length) := by
  have hscalar : c.toNat < 0xD800 ∨ 0xDFFF < c.toNat ∧ c.toNat < 0x110000 := c.valid
  have hcode : Char.ofNat c.toNat = c := Char.ofNat_toNat c
  simp only [encodeUtf8Char]
  split_ifs with hone htwo hthree
  · exact ⟨_, [], rfl, (utf8Char_one following hone).trans (by rw [hcode]; rfl)⟩
  · exact ⟨_, [_], rfl, (utf8Char_two following (by omega) htwo).trans (by rw [hcode]; rfl)⟩
  · exact ⟨_, [_, _], rfl,
      (utf8Char_three following (by omega) hthree (by omega)).trans (by rw [hcode]; rfl)⟩
  · exact ⟨_, [_, _, _], rfl,
      (utf8Char_four following (by omega) (by omega)).trans (by rw [hcode]; rfl)⟩

theorem utf8Chars_skip (skipped : Bytes) :
    utf8Chars skipped.length (skipped ++ following) = utf8Chars 0 following := by
  induction skipped with
  | nil => rfl
  | cons byte skipped ih => exact ih

theorem utf8Chars_encodeUtf8 (text : List Char) :
    utf8Chars 0 (encodeUtf8 text) = text.map some := by
  induction text with
  | nil => rfl
  | cons c text ih =>
    obtain ⟨first, rest, hencoded, hread⟩ := utf8Char_encoded (encodeUtf8 text) c
    rw [encodeUtf8, List.flatMap_cons, ← encodeUtf8, hencoded, List.cons_append, utf8Chars, hread,
      List.map_cons, ← ih, ← utf8Chars_skip (encodeUtf8 text) rest]

/-- A text that is written and read is the same text. -/
theorem decodeUtf8Lossy_encodeUtf8 (text : List Char) :
    decodeUtf8Lossy (encodeUtf8 text) = text := by
  rw [decodeUtf8Lossy, utf8Chars_encodeUtf8, List.map_map]
  exact List.map_id text

/-- No byte of a written text is refused. -/
theorem decodeUtf8?_encodeUtf8 (text : List Char) : decodeUtf8? (encodeUtf8 text) = some text := by
  rw [decodeUtf8?, utf8Chars_encodeUtf8]
  induction text with
  | nil => rfl
  | cons c text ih => simp [ih]

end LicenseHeaders.Text
