import LicenseHeaders.Matcher.Copyright
import LicenseHeaders.Proofs.Regex.Literal

/-!
# The first copyright sign

A copyright sign is the letter c in brackets, the sign ©, or the word `copyright` up to the edge of
a word, all without regard to case (`IsSign`). What a notice is looked for in is the text behind the
first sign of the line, the one that starts before all others (`FirstSign`), and that is the text
that the search finds (`afterSign?_eq_some_iff`).
-/

set_option autoImplicit false
set_option relaxedAutoImplicit false

namespace LicenseHeaders.Matcher

open Text Regex

/-- Between the two texts lies the edge of a word: a character of a word stands on exactly one side.
-/
def WordEdge (before behind : List Char) : Prop :=
  before.getLast?.any isWordChar ≠ behind.head?.any isWordChar

/-- A text is a copyright sign, in front of another text. -/
def IsSign (sign behind : List Char) : Prop :=
  sign ∈ sameText "(c)".toList ∨ sign = ['©'] ∨
    sign ∈ sameText "copyright".toList ∧ WordEdge sign behind

/-- The text stands behind the first copyright sign of a line. -/
def FirstSign (line behind : List Char) : Prop :=
  ∃ before sign, line = before ++ sign ++ behind ∧ IsSign sign behind ∧
    ∀ earlier other rest, line = earlier ++ other ++ rest → IsSign other rest →
      before.length ≤ earlier.length

theorem afterWord?_eq_some_iff {word text behind : List Char} :
    afterWord? word text = some behind ↔ ∃ read ∈ sameText word, text = read ++ behind := by
  induction word generalizing text with
  | nil =>
    rw [afterWord?, Option.some.injEq]
    constructor
    · rintro rfl
      exact ⟨[], .nil, rfl⟩
    · rintro ⟨read, hread, rfl⟩
      cases hread
      rfl
  | cons c word ih =>
    rcases text with _ | ⟨found, text⟩
    · refine iff_of_false nofun ?_
      rintro ⟨read, hread, hnil⟩
      cases hread
      cases hnil
    · rw [afterWord?]
      by_cases hsame : sameLetter c found = true
      · rw [if_pos hsame, ih]
        constructor
        · rintro ⟨read, hread, rfl⟩
          exact ⟨found :: read, .cons hsame hread, rfl⟩
        · rintro ⟨_, _ | ⟨hfirst, hread⟩, hcons⟩
          cases hcons
          exact ⟨_, hread, rfl⟩
      · rw [if_neg hsame]
        refine iff_of_false nofun ?_
        rintro ⟨_, _ | ⟨hfirst, hread⟩, hcons⟩
        cases hcons
        exact hsame hfirst

/-- Behind the word `copyright` lies the edge of a word exactly if no character of a word follows.
-/
theorem wordEdge_copyright {sign behind : List Char} (hsign : sign ∈ sameText "copyright".toList) :
    WordEdge sign behind ↔ behind.head?.any isWordChar = false := by
  have hlast : sign.getLast?.any isWordChar = true := by
    have hreverse := List.forall₂_reverse_iff.mpr hsign
    rw [List.getLast?_eq_head?_reverse]
    rcases hcons : sign.reverse with _ | ⟨c, rest⟩ <;> rw [hcons] at hreverse
    · cases hreverse
    · obtain ⟨ht, -⟩ := List.forall₂_cons.mp hreverse
      rcases eq_or_eq_of_sameLetter_t ht with rfl | rfl <;> rfl
  rw [WordEdge, hlast, ne_eq, eq_comm, Bool.not_eq_true]

theorem not_isSign_nil {behind : List Char} : ¬ IsSign [] behind := by
  rintro (h | h | ⟨h, -⟩) <;> cases h

/-- Behind a word its rest is found unless another character of a word follows. -/
theorem restUnlessWord_eq_some_iff {rest behind : List Char} :
    (match rest with
      | c :: _ => if isWordChar c then none else some rest
      | [] => some rest) = some behind ↔
      rest = behind ∧ behind.head?.any isWordChar = false := by
  cases rest with
  | nil =>
    refine ⟨fun hfound ↦ ?_, fun hrest ↦ congrArg some hrest.1⟩
    cases hfound
    exact ⟨rfl, rfl⟩
  | cons c rest =>
    dsimp only
    by_cases hc : isWordChar c = true
    · refine iff_of_false (fun hfound ↦ ?_) ?_
      · rw [if_pos hc] at hfound
        cases hfound
      · rintro ⟨rfl, hnone⟩
        exact absurd (hc.symm.trans hnone) (by decide)
    · rw [if_neg hc, Option.some.injEq, iff_self_and]
      rintro rfl
      exact Bool.eq_false_iff.mpr hc

/-- The word `copyright` starts neither with a bracket nor with the character for it. -/
theorem exists_cons_of_copyright {sign : List Char} (hsign : sign ∈ sameText "copyright".toList) :
    ∃ c rest, sign = c :: rest ∧ sameLetter '(' c = false ∧ c ≠ '©' := by
  rcases sign with _ | ⟨c, rest⟩
  · cases hsign
  · have hc : sameLetter 'c' c = true := (List.forall₂_cons.mp hsign).1
    refine ⟨c, rest, rfl, ?_, ?_⟩
    · rw [← Bool.not_eq_true, sameLetter_iff_eq (by decide) (by decide)]
      rintro rfl
      exact absurd hc (by decide)
    · rintro rfl
      exact absurd hc (by decide)

theorem afterSignHere?_of_copyright {sign behind : List Char}
    (hsign : sign ∈ sameText "copyright".toList) (hedge : WordEdge sign behind) :
    afterSignHere? (sign ++ behind) = some behind := by
  have hword : afterWord? "copyright".toList (sign ++ behind) = some behind :=
    afterWord?_eq_some_iff.mpr ⟨sign, hsign, rfl⟩
  have hnext := (wordEdge_copyright hsign).mp hedge
  obtain ⟨c, rest, rfl, hbracket, hcharacter⟩ := exists_cons_of_copyright hsign
  have hnone : afterWord? ['(', 'c', ')'] (c :: rest ++ behind) = none := by
    rw [List.cons_append, afterWord?, hbracket, if_neg Bool.false_ne_true]
  unfold afterSignHere?
  rw [hnone]
  split
  next => contradiction
  next =>
    split
    next hcons =>
      cases hcons
      exact absurd rfl hcharacter
    next =>
      rw [hword]
      exact restUnlessWord_eq_some_iff.mpr ⟨rfl, hnext⟩

/-- The search at the start of a text finds what stands behind a sign there. -/
theorem afterSignHere?_eq_some_iff {text behind : List Char} :
    afterSignHere? text = some behind ↔ ∃ sign, text = sign ++ behind ∧ IsSign sign behind := by
  constructor
  · intro hfound
    unfold afterSignHere? at hfound
    split at hfound
    next rest hword =>
      cases hfound
      obtain ⟨sign, hsign, rfl⟩ := afterWord?_eq_some_iff.mp hword
      exact ⟨sign, rfl, .inl hsign⟩
    next =>
      split at hfound
      next rest =>
        cases hfound
        exact ⟨['©'], rfl, .inr (.inl rfl)⟩
      next =>
        split at hfound
        next rest hword =>
          obtain ⟨sign, hsign, rfl⟩ := afterWord?_eq_some_iff.mp hword
          obtain ⟨rfl, hnext⟩ := restUnlessWord_eq_some_iff.mp hfound
          exact ⟨sign, rfl, .inr (.inr ⟨hsign, (wordEdge_copyright hsign).mpr hnext⟩)⟩
        next => cases hfound
  · rintro ⟨sign, rfl, hsign | rfl | ⟨hsign, hedge⟩⟩
    · have hword : afterWord? ['(', 'c', ')'] (sign ++ behind) = some behind :=
        afterWord?_eq_some_iff.mpr ⟨sign, hsign, rfl⟩
      unfold afterSignHere?
      rw [hword]
    · rfl
    · exact afterSignHere?_of_copyright hsign hedge

/-- The search finds what stands behind the first sign. -/
theorem afterSign?_eq_some_iff {line behind : List Char} :
    afterSign? line = some behind ↔ FirstSign line behind := by
  induction line with
  | nil =>
    refine iff_of_false nofun ?_
    rintro ⟨before, sign, hnil, hsign, -⟩
    rw [eq_comm, List.append_eq_nil_iff, List.append_eq_nil_iff] at hnil
    rw [hnil.1.2] at hsign
    exact not_isSign_nil hsign
  | cons c line ih =>
    rw [afterSign?]
    rcases hhere : afterSignHere? (c :: line) with _ | found
    · have hnone : ∀ sign rest, c :: line = sign ++ rest → ¬ IsSign sign rest := by
        intro sign rest hcons hsign
        rw [afterSignHere?_eq_some_iff.mpr ⟨sign, hcons, hsign⟩] at hhere
        cases hhere
      refine ih.trans ⟨?_, ?_⟩
      · rintro ⟨before, sign, rfl, hsign, hfirst⟩
        refine ⟨c :: before, sign, rfl, hsign, fun earlier other rest hcons hother ↦ ?_⟩
        rcases earlier with _ | ⟨d, earlier⟩
        · exact absurd hother (hnone other rest hcons)
        · obtain ⟨-, htail⟩ := List.cons.inj hcons
          exact Nat.succ_le_succ (hfirst earlier other rest htail hother)
      · rintro ⟨before, sign, hcons, hsign, hfirst⟩
        rcases before with _ | ⟨d, before⟩
        · exact absurd hsign (hnone sign behind hcons)
        · obtain ⟨rfl, rfl⟩ := List.cons.inj hcons
          refine ⟨before, sign, rfl, hsign, fun earlier other rest htail hother ↦ ?_⟩
          refine Nat.le_of_succ_le_succ (hfirst (c :: earlier) other rest ?_ hother)
          exact congrArg (c :: ·) htail
    · obtain ⟨sign, hcons, hsign⟩ := afterSignHere?_eq_some_iff.mp hhere
      constructor
      · rintro ⟨⟩
        exact ⟨[], sign, hcons, hsign, fun _ _ _ _ _ ↦ Nat.zero_le _⟩
      · rintro ⟨before, other, hline, hother, hfirst⟩
        have hnil : before = [] :=
          List.eq_nil_of_length_eq_zero (Nat.le_zero.mp (hfirst [] sign found hcons hsign))
        subst hnil
        have hbehind := afterSignHere?_eq_some_iff.mpr ⟨other, hline, hother⟩
        rw [hhere] at hbehind
        exact hbehind

/-! ### Lines with a notice -/

variable {patterns : List Pattern} {line : List Char}

/-- A line holds a notice if what stands behind its first sign starts with one of the patterns. -/
theorem stepNotice_eq_holds_iff :
    stepNotice patterns .unknown line = .holds ↔
      ∃ behind, FirstSign line behind ∧
        ∃ pattern ∈ patterns, pattern.matchesStart behind = true := by
  have hlatch : stepNotice patterns .unknown line = .holds ↔ hasNotice patterns line = true := by
    rw [stepNotice, Verdict.latch]
    split_ifs with hhas
    · exact iff_of_true rfl hhas
    · exact iff_of_false nofun hhas
  rw [hlatch, hasNotice]
  simp only [← afterSign?_eq_some_iff]
  rcases afterSign? line with _ | behind
  · exact iff_of_false nofun nofun
  · simp only [Option.some.injEq, exists_eq_left', List.any_eq_true]

/-- A line without a notice settles nothing. -/
theorem stepNotice_eq_unknown_iff :
    stepNotice patterns .unknown line = .unknown ↔ stepNotice patterns .unknown line ≠ .holds := by
  rw [stepNotice, Verdict.latch]
  split_ifs
  · exact iff_of_false nofun (fun h ↦ h rfl)
  · exact iff_of_true rfl nofun

end LicenseHeaders.Matcher
