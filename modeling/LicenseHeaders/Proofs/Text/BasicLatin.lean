import LicenseHeaders.Text.CaseEquivalence
import Mathlib

/-!
# The letters from A to Z

Lower case among the letters from A to Z is lower case in all scripts as far as these letters go
(`lowerChar_eq_toLower`), and letters that differ only in that case are the same letter
(`sameLetter_of_toLower_eq`). What holds of the first 128 code points is decided by trying them all
(`forall_ascii`).
-/

set_option autoImplicit false
set_option relaxedAutoImplicit false

namespace LicenseHeaders.Text

/-- What holds of the first 128 code points holds of every character below them. -/
theorem forall_ascii (holds : Char → Prop)
    (hholds : ∀ code < 128, holds (Char.ofNat code)) {c : Char}
    (hc : c.toNat < 128) : holds c :=
  Char.ofNat_toNat c ▸ hholds c.toNat hc

theorem ascii_of_isUpper {c : Char} (hc : c.isUpper = true) : c.toNat < 128 := by
  have hle : c ≤ 'Z' := (of_decide_eq_true hc).2
  exact Nat.lt_of_le_of_lt hle (by decide)

theorem ascii_of_isAlphanum {c : Char} (hc : c.isAlphanum = true) : c.toNat < 128 := by
  simp only [Char.isAlphanum, Char.isAlpha, Char.isLower, Char.isDigit, Bool.or_eq_true,
    Bool.and_eq_true, decide_eq_true_eq] at hc
  rcases hc with (hupper | hlower) | hdigit
  · exact ascii_of_isUpper hupper
  · have hle : c ≤ 'z' := hlower.2
    exact Nat.lt_of_le_of_lt hle (by decide)
  · have hle : c ≤ '9' := hdigit.2
    exact Nat.lt_of_le_of_lt hle (by decide)

theorem toLower_eq_self {c : Char} (hc : ¬ c.isUpper = true) : c.toLower = c :=
  dif_neg fun hbounds ↦ hc (decide_eq_true hbounds)

theorem isAlphanum_toLower (c : Char) : c.toLower.isAlphanum = c.isAlphanum := by
  by_cases hupper : c.isUpper = true
  · exact forall_ascii (fun c ↦ c.toLower.isAlphanum = c.isAlphanum) (by decide +kernel)
      (ascii_of_isUpper hupper)
  · rw [toLower_eq_self hupper]

theorem image_toLower (c : Char) : lowerRuns.image c.toLower.toNat = lowerRuns.image c.toNat := by
  by_cases hupper : c.isUpper = true
  · exact forall_ascii (fun c ↦ lowerRuns.image c.toLower.toNat = lowerRuns.image c.toNat)
      (by decide +kernel) (ascii_of_isUpper hupper)
  · rw [toLower_eq_self hupper]

/-- Letters that differ only in the case of the letters from A to Z are the same letter. -/
theorem sameLetter_of_toLower_eq {expected found : Char}
    (hsame : expected.toLower = found.toLower) :
    sameLetter expected found = true := by
  have himage : lowerRuns.image found.toNat = lowerRuns.image expected.toNat := by
    rw [← image_toLower found, ← hsame, image_toLower]
  simp only [sameLetter, sameLetterCode, himage, beq_self_eq_true, Bool.true_or]

/-- In lower case in all scripts a letter from A to Z is the same as in lower case among these. -/
theorem lowerChar_eq_toLower {c : Char} (hc : c.toNat < 128) : lowerChar c = c.toLower :=
  forall_ascii (fun c ↦ lowerChar c = c.toLower) (by decide +kernel) hc

end LicenseHeaders.Text
