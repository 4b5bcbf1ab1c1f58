import LicenseHeaders.Regex.Pattern
import Mathlib.Tactic.ByContra

/-!
# Characters without case

Comparison without regard to case looks at lower-case letters. A table of code points that lies
apart from the runs of letters, from the letters themselves and from their images, does not notice
(`CaseRuns.includes_image`). So the blank characters are compared as they are (`blank_accepts`), a
range of digits holds no letter (`digits_accept`), and a character without case is the same letter
as itself only (`sameLetter_iff_eq`).
-/

set_option autoImplicit false
set_option relaxedAutoImplicit false

namespace LicenseHeaders.Text

/-! ### Apart from the runs -/

/-- Whether ranges of code points lie apart from all runs of letters and from their images. -/
def CaseRuns.apart (runs : CaseRuns) (ranges : CodeRanges) : Bool :=
  runs.all fun (first, last, _, start) ↦ ranges.all fun (low, high) ↦
    (decide (last < low) || decide (high < first)) &&
      (decide (start + (last - first) < low) || decide (high < start))

/-- A code point is its own image, or a run holds it and its image lies as far into the run. -/
theorem CaseRuns.image_cases (runs : CaseRuns) (code : Nat) :
    runs.image code = code ∨ ∃ first last step start, (first, last, step, start) ∈ runs ∧
      first ≤ code ∧ code ≤ last ∧ runs.image code = start + (code - first) := by
  induction runs with
  | nil => exact .inl rfl
  | cons run runs ih =>
    obtain ⟨first, last, step, start⟩ := run
    rw [image]
    by_cases hfirst : code < first
    · rw [if_pos hfirst]
      exact .inl rfl
    · rw [if_neg hfirst]
      by_cases hlast : code ≤ last ∧ (code - first) % step = 0
      · rw [if_pos hlast]
        exact .inr ⟨first, last, step, start, List.mem_cons_self, Nat.le_of_not_lt hfirst,
          hlast.1, rfl⟩
      · rw [if_neg hlast]
        refine ih.imp_right ?_
        rintro ⟨first, last, step, start, hmem, hholds⟩
        exact ⟨first, last, step, start, List.mem_cons_of_mem _ hmem, hholds⟩

theorem CodeRanges.exists_of_includes {ranges : CodeRanges} {code : Nat}
    (hincludes : ranges.includes code = true) :
    ∃ low high, (low, high) ∈ ranges ∧ low ≤ code ∧ code ≤ high := by
  induction ranges with
  | nil => cases hincludes
  | cons range ranges ih =>
    obtain ⟨low, high⟩ := range
    rw [includes] at hincludes
    by_cases hlow : code < low
    · rw [if_pos hlow] at hincludes
      cases hincludes
    · rw [if_neg hlow, Bool.or_eq_true, decide_eq_true_eq] at hincludes
      rcases hincludes with hhigh | hrest
      · exact ⟨low, high, List.mem_cons_self, Nat.le_of_not_lt hlow, hhigh⟩
      · obtain ⟨low, high, hmem, hholds⟩ := ih hrest
        exact ⟨low, high, List.mem_cons_of_mem _ hmem, hholds⟩

/-- Ranges that lie apart from the runs hold the image of a code point exactly if they hold the code
point. -/
theorem CaseRuns.includes_image {runs : CaseRuns} {ranges : CodeRanges}
    (hapart : runs.apart ranges = true) (code : Nat) :
    ranges.includes (runs.image code) = ranges.includes code := by
  rcases runs.image_cases code with himage | ⟨first, last, step, start, hrun, hfirst, hlast, himage⟩
  · rw [himage]
  · have hrange : ∀ low high, (low, high) ∈ ranges →
        (last < low ∨ high < first) ∧ (start + (last - first) < low ∨ high < start) := by
      intro low high hmem
      simpa only [Bool.and_eq_true, Bool.or_eq_true, decide_eq_true_eq] using
        List.all_eq_true.mp (List.all_eq_true.mp hapart _ hrun) _ hmem
    have hcode : ranges.includes code = false := by
      by_contra hincludes
      obtain ⟨low, high, hmem, hlow, hhigh⟩ :=
        CodeRanges.exists_of_includes (Bool.not_eq_false _ ▸ hincludes)
      have := (hrange low high hmem).1
      omega
    have hother : ranges.includes (runs.image code) = false := by
      by_contra hincludes
      obtain ⟨low, high, hmem, hlow, hhigh⟩ :=
        CodeRanges.exists_of_includes (Bool.not_eq_false _ ▸ hincludes)
      have := (hrange low high hmem).2
      omega
    rw [hcode, hother]

theorem apart_blankRanges : lowerRuns.apart blankRanges = true := by decide

theorem apart_digits : lowerRuns.apart [(0x30, 0x39)] = true := by decide

theorem includes_singleton (low high code : Nat) :
    CodeRanges.includes [(low, high)] code = true ↔ low ≤ code ∧ code ≤ high := by
  rw [CodeRanges.includes, CodeRanges.includes, Bool.or_false]
  by_cases hlow : code < low
  · rw [if_pos hlow]
    exact ⟨nofun, fun h ↦ absurd h.1 (Nat.not_le_of_lt hlow)⟩
  · rw [if_neg hlow, decide_eq_true_eq]
    exact ⟨fun h ↦ ⟨Nat.le_of_not_lt hlow, h⟩, And.right⟩

/-! ### The same letter -/

/-- A character that lies apart from the runs and shares its capital with no letter is the same
letter as itself only. -/
theorem sameLetterCode_iff_eq {expected : Nat}
    (hapart : lowerRuns.apart [(expected, expected)] = true) (htwins : twinsOf expected = [])
    (found : Nat) : sameLetterCode expected found = true ↔ found = expected := by
  have himage : ∀ code, lowerRuns.image code = expected ↔ code = expected := by
    intro code
    have hincludes := CaseRuns.includes_image hapart code
    rw [Bool.eq_iff_iff, includes_singleton, includes_singleton] at hincludes
    omega
  rw [sameLetterCode, (himage expected).mpr rfl]
  simp only [htwins, List.contains_nil, Bool.or_false, beq_iff_eq, himage]

theorem sameLetter_iff_eq {expected : Char}
    (hapart : lowerRuns.apart [(expected.toNat, expected.toNat)] = true)
    (htwins : twinsOf expected.toNat = []) (found : Char) :
    sameLetter expected found = true ↔ found = expected := by
  rw [sameLetter, sameLetterCode_iff_eq hapart htwins]
  exact ⟨fun h ↦ Char.toNat_inj.mp h, congrArg Char.toNat⟩

/-- Code points within ranges that lie apart lie apart. -/
theorem CaseRuns.apart_of_le {runs : CaseRuns} {low high expected : Nat}
    (hapart : runs.apart [(low, high)] = true) (hlow : low ≤ expected) (hhigh : expected ≤ high) :
    runs.apart [(expected, expected)] = true := by
  simp only [apart, List.all_eq_true, List.mem_singleton, forall_eq, Bool.and_eq_true,
    Bool.or_eq_true, decide_eq_true_eq] at hapart ⊢
  intro run hrun
  have := hapart run hrun
  omega

/-- The letters that share a capital with others all come after the digits. -/
theorem twinsOf_of_lt {code : Nat} (hcode : code < 0x69) : twinsOf code = [] := by
  have hkeys : ∀ entry ∈ caseTwins, 0x69 ≤ entry.1 := by decide
  have hnone : caseTwins.lookup code = none := by
    rw [List.lookup_eq_none_iff]
    intro entry hentry
    have := hkeys entry hentry
    exact bne_iff_ne.mpr (by omega)
  rw [twinsOf, hnone]
  rfl

theorem isDigit_iff (c : Char) : c.isDigit = true ↔ 0x30 ≤ c.toNat ∧ c.toNat ≤ 0x39 := by
  simp only [Char.isDigit, Bool.and_eq_true, decide_eq_true_eq]
  exact Iff.rfl

/-- Digits are compared as they are. -/
theorem sameLetter_digit {digit : Char} (hdigit : digit.isDigit = true) (found : Char) :
    sameLetter digit found = true ↔ found = digit := by
  obtain ⟨hlow, hhigh⟩ := (isDigit_iff digit).mp hdigit
  exact sameLetter_iff_eq (CaseRuns.apart_of_le apart_digits hlow hhigh)
    (twinsOf_of_lt (by omega)) found

/-- The letter t is the same letter as its capital only. -/
theorem eq_or_eq_of_sameLetter_t {found : Char} (hsame : sameLetter 't' found = true) :
    found = 't' ∨ found = 'T' := by
  have hlower : lowerRuns.image 't'.toNat = 0x74 := by decide
  have htwins : twinsOf 0x74 = [] := by decide
  have hruns :
      (lowerRuns.all fun (first, last, _, start) ↦ decide (start + (last - first) < 0x74) ||
        decide (0x74 < start) || decide (first = 0x41 ∧ start = 0x61)) = true := by decide
  simp only [sameLetter, sameLetterCode, hlower, htwins, List.contains_nil, Bool.or_false,
    beq_iff_eq] at hsame
  rcases lowerRuns.image_cases found.toNat with himage | ⟨first, last, step, start, hrun, hrest⟩
  · exact .inl (Char.toNat_inj.mp (himage.symm.trans hsame))
  · have hstart := List.all_eq_true.mp hruns _ hrun
    simp only [Bool.or_eq_true, decide_eq_true_eq] at hstart
    refine .inr (Char.toNat_inj.mp ?_)
    have hcapital : 'T'.toNat = 0x54 := rfl
    omega

end LicenseHeaders.Text

namespace LicenseHeaders.Regex

open Text

/-- The class of blanks holds the blank characters. -/
theorem blank_accepts (c : Char) :
    (CharTest.oneOf .everyScript false false [.blank true]).accepts c = isBlank c := by
  rw [CharTest.accepts, List.any_cons, List.any_nil, Bool.or_false, Bool.bne_false,
    ClassItem.accepts, Folding.fold, isBlankCode, if_neg Bool.false_ne_true,
    CaseRuns.includes_image apart_blankRanges, isBlank, beq_true]

/-- Only a digit is like a digit. -/
theorem lettersLike_digit (code : Nat) :
    (∃ letter ∈ lettersLike .everyScript code, 0x30 ≤ letter ∧ letter ≤ 0x39) ↔
      0x30 ≤ code ∧ code ≤ 0x39 := by
  have himage : 0x30 ≤ lowerRuns.image code ∧ lowerRuns.image code ≤ 0x39 ↔
      0x30 ≤ code ∧ code ≤ 0x39 := by
    rw [← includes_singleton, ← includes_singleton, CaseRuns.includes_image apart_digits]
  have hcapitals : ∀ lower, ∀ capital ∈ capitalsOf lower, 0x39 < capital := by
    have hruns : (lowerRuns.all fun run ↦ decide (0x39 < run.1)) = true := by decide
    intro lower capital hcapital
    obtain ⟨⟨first, last, step, start⟩, hrun, hsome⟩ := List.mem_filterMap.mp hcapital
    have hfirst : 0x39 < first := of_decide_eq_true (List.all_eq_true.mp hruns _ hrun)
    dsimp only at hsome
    split at hsome
    · cases hsome
      omega
    · cases hsome
  have htwins : ∀ lower, ∀ twin ∈ twinsOf lower, 0x39 < twin := by
    have hentries : ∀ entry ∈ caseTwins, ∀ twin ∈ entry.2, 0x39 < twin := by decide
    intro lower twin htwin
    rw [twinsOf] at htwin
    rcases hlookup : caseTwins.lookup lower with _ | twins <;> rw [hlookup] at htwin
    · cases htwin
    · obtain ⟨before, behind, hentry, -⟩ := List.lookup_eq_some_iff.mp hlookup
      refine hentries (lower, twins) ?_ twin htwin
      rw [hentry]
      exact List.mem_append_right before List.mem_cons_self
  rw [← himage]
  constructor
  · rintro ⟨letter, hletter, hdigit⟩
    obtain ⟨lower, hlower, hlike⟩ := List.mem_flatMap.mp hletter
    rcases List.mem_cons.mp hlike with rfl | hcapital
    · rcases List.mem_cons.mp hlower with rfl | htwin
      · exact hdigit
      · exact absurd hdigit.2 (Nat.not_le_of_lt (htwins _ _ htwin))
    · exact absurd hdigit.2 (Nat.not_le_of_lt (hcapitals _ _ hcapital))
  · exact fun hdigit ↦ ⟨_, List.mem_flatMap.mpr ⟨_, List.mem_cons_self, List.mem_cons_self⟩, hdigit⟩

/-- The range of digits holds the digits from nought to nine. -/
theorem digits_accept (c : Char) :
    (CharTest.oneOf .everyScript false false [.range 0x30 0x39]).accepts c = c.isDigit := by
  have hplane : decide (0xFFFF < 0x39) = false := rfl
  rw [Bool.eq_iff_iff, isDigit_iff, ← lettersLike_digit]
  simp only [CharTest.accepts, List.any_cons, List.any_nil, Bool.or_false, Bool.bne_false,
    ClassItem.accepts, rangeHolds, hplane, Bool.and_false, Bool.false_and, List.any_eq_true,
    Bool.and_eq_true, decide_eq_true_eq]

end LicenseHeaders.Regex
