import LicenseHeaders.Proofs.Matcher.Window
import LicenseHeaders.Proofs.Tables

/-!
# Phrases and layout

Of a phrase and of lines only letters and digits count, so it should not matter how these are broken
into lines and what stands between them. There is one letter for which it does. The capital sigma
has two small forms, one of them for the end of a word, and each line is put into lower case on its
own: whether a sigma ends a word is read off its own line. A line break next to a sigma can
therefore change its form, and a phrase with that sigma is then found on one line and not over two
(`Matcher.phrase_lost_at_break`).

`Matcher.settledLetters` are the letters and digits of lines with each capital sigma in the small
form that it has on its line. What counts of the lines is made of them letter by letter
(`Matcher.prunedLines_eq`), and in each place they are the letter itself or one of the two small
sigmas (`Matcher.forall₂_settles`). So two lists of lines with the same letters and digits look the
same to every phrase exactly if they settle every sigma alike (`Matcher.layout_unseen_iff`). They do
if there is no capital sigma.
-/

set_option autoImplicit false
set_option relaxedAutoImplicit false

namespace LicenseHeaders.Matcher

open Text

/-! ### The forms of the sigma -/

/-- The letters and digits of a text. -/
def letters (text : List Char) : List Char :=
  text.filter isAlphanumeric

/-- A text, which follows the characters `before`, nearest first, with each capital sigma in the
small form that it has at its place. -/
def settle (before : List Char) : List Char → List Char
  | [] => []
  | c :: rest =>
    (if c = 'Σ' then if startsCased before && !startsCased rest then 'ς' else 'σ' else c) ::
      settle (c :: before) rest

/-- The letters and digits of lines with each capital sigma in the small form that it has on its
line. -/
def settledLetters (lines : List (List Char)) : List Char :=
  lines.flatMap fun line ↦ settle [] (letters line)

/-- The lower-case form of a character that has the same form at every place. -/
def lowerAlone (c : Char) : List Char :=
  if c = 'İ' then ['i', '\u0307'] else [lowerChar c]

/-- A text in lower case is made of the text with its sigmas settled, letter by letter. -/
theorem lowercaseAfter_eq (before text : List Char) :
    lowercaseAfter before text = (settle before text).flatMap lowerAlone := by
  induction text generalizing before with
  | nil => rfl
  | cons c rest ih =>
    rw [lowercaseAfter, settle, List.flatMap_cons, ih]
    congr 1
    by_cases hsigma : c = 'Σ'
    · subst hsigma
      rw [lowerBetween, if_pos rfl, if_pos rfl]
      by_cases hfinal : (startsCased before && !startsCased rest) = true
      · rw [if_pos hfinal, if_pos hfinal]
        decide
      · rw [if_neg hfinal, if_neg hfinal]
        decide
    · rw [lowerBetween, if_neg hsigma, if_neg hsigma, lowerAlone]

/-- What counts of lines is made of their settled letters. -/
theorem prunedLines_eq (lines : List (List Char)) :
    prunedLines lines = (settledLetters lines).flatMap lowerAlone := by
  rw [prunedLines, settledLetters, List.flatMap_assoc]
  congr 1
  funext line
  rw [prune, lowercase, lowercaseAfter_eq, letters]

/-- A character is settled as another: as itself, or a capital sigma as one of the small ones. -/
def Settles (c form : Char) : Prop :=
  c ≠ 'Σ' ∧ form = c ∨ c = 'Σ' ∧ (form = 'σ' ∨ form = 'ς')

/-- A text without a capital sigma is settled already. -/
theorem settle_eq_self (before : List Char) {text : List Char} (hsigma : 'Σ' ∉ text) :
    settle before text = text := by
  induction text generalizing before with
  | nil => rfl
  | cons c rest ih =>
    rw [List.mem_cons, not_or] at hsigma
    rw [settle, if_neg (Ne.symm hsigma.1), ih _ hsigma.2]

theorem forall₂_settle (before text : List Char) :
    List.Forall₂ Settles text (settle before text) := by
  induction text generalizing before with
  | nil => exact .nil
  | cons c rest ih =>
    refine .cons ?_ (ih _)
    by_cases hsigma : c = 'Σ'
    · rw [if_pos hsigma]
      refine .inr ⟨hsigma, ?_⟩
      split
      · exact .inr rfl
      · exact .inl rfl
    · rw [if_neg hsigma]
      exact .inl ⟨hsigma, rfl⟩

/-- The settled letters of lines are, in order, the letters and digits of the lines. -/
theorem forall₂_settledLetters (lines : List (List Char)) :
    List.Forall₂ Settles (letters lines.flatten) (settledLetters lines) := by
  induction lines with
  | nil => exact .nil
  | cons line rest ih =>
    rw [List.flatten_cons, letters, List.filter_append, settledLetters, List.flatMap_cons]
    exact List.rel_append (forall₂_settle [] (letters line)) ih

/-! ### What the forms have in common -/

section Settled

variable {text first second : List Char} {c form other : Char}

theorem ne_sigma_of_settles (hform : Settles c form) : form ≠ 'Σ' := by
  rcases hform with ⟨hsigma, rfl⟩ | ⟨-, rfl | rfl⟩
  · exact hsigma
  · decide
  · decide

theorem isAlphanumeric_of_settles (hform : Settles c form) (hc : isAlphanumeric c = true) :
    isAlphanumeric form = true := by
  rcases hform with ⟨-, rfl⟩ | ⟨-, rfl | rfl⟩
  · exact hc
  · decide
  · decide

/-- The small sigmas are in lower case, and all else has one form only. -/
theorem eq_or_lowerAlone_of_settles (hform : Settles c form) (hother : Settles c other) :
    form = other ∨ lowerAlone form = [form] ∧ lowerAlone other = [other] := by
  have hsmall : ∀ sigma, sigma = 'σ' ∨ sigma = 'ς' → lowerAlone sigma = [sigma] := by
    rintro sigma (rfl | rfl)
    · decide
    · decide
  rcases hform with ⟨hsigma, rfl⟩ | ⟨rfl, hform⟩
  · rcases hother with ⟨-, rfl⟩ | ⟨hc, -⟩
    · exact .inl rfl
    · exact absurd hc hsigma
  · rcases hother with ⟨hsigma, -⟩ | ⟨-, hother⟩
    · exact absurd rfl hsigma
    · exact .inr ⟨hsmall form hform, hsmall other hother⟩

/-- Two ways to settle the sigmas of a text make lower-case texts of one length. -/
theorem length_flatMap_lowerAlone (hfirst : List.Forall₂ Settles text first)
    (hsecond : List.Forall₂ Settles text second) :
    (first.flatMap lowerAlone).length = (second.flatMap lowerAlone).length := by
  induction hfirst generalizing second with
  | nil =>
    cases hsecond
    rfl
  | cons hform _ ih =>
    cases hsecond with
    | cons hother hrest =>
      simp only [List.flatMap_cons, List.length_append, ih hrest]
      rcases eq_or_lowerAlone_of_settles hform hother with rfl | ⟨hform, hother⟩
      · rfl
      · rw [hform, hother, List.length_singleton, List.length_singleton]

/-- Two ways to settle the sigmas of a text that make the same lower-case text are the same. -/
theorem eq_of_flatMap_lowerAlone (hfirst : List.Forall₂ Settles text first)
    (hsecond : List.Forall₂ Settles text second)
    (hlower : first.flatMap lowerAlone = second.flatMap lowerAlone) : first = second := by
  induction hfirst generalizing second with
  | nil =>
    cases hsecond
    rfl
  | cons hform _ ih =>
    cases hsecond with
    | cons hother hrest =>
      rw [List.flatMap_cons, List.flatMap_cons] at hlower
      rcases eq_or_lowerAlone_of_settles hform hother with rfl | ⟨hform, hother⟩
      · rw [ih hrest (List.append_cancel_left hlower)]
      · rw [hform, hother, List.singleton_append, List.singleton_append, List.cons.injEq] at hlower
        rw [hlower.1, ih hrest hlower.2]

end Settled

/-- A text that consists of the settled letters of lines is, as a phrase, what counts of the
lines. -/
theorem prune_settledLetters (lines : List (List Char)) :
    prune (settledLetters lines) = prunedLines lines := by
  have hforms := forall₂_settledLetters lines
  have hsource : ∀ form ∈ settledLetters lines, ∃ c ∈ letters lines.flatten, Settles c form :=
    fun form hform ↦ exists_of_mem_of_forall₂ hforms.flip hform
  have hkept : (settledLetters lines).filter isAlphanumeric = settledLetters lines := by
    rw [List.filter_eq_self]
    intro form hform
    obtain ⟨c, hc, hsettles⟩ := hsource form hform
    exact isAlphanumeric_of_settles hsettles (List.of_mem_filter hc)
  have hsigma : 'Σ' ∉ settledLetters lines := by
    intro hform
    obtain ⟨c, -, hsettles⟩ := hsource 'Σ' hform
    exact ne_sigma_of_settles hsettles rfl
  rw [prune, hkept, lowercase, lowercaseAfter_eq, settle_eq_self [] hsigma, prunedLines_eq]

/-- Where no capital sigma is, the settled letters are the letters and digits themselves. -/
theorem settledLetters_eq_letters {lines : List (List Char)}
    (hsigma : 'Σ' ∉ letters lines.flatten) :
    settledLetters lines = letters lines.flatten := by
  have hself : ∀ {text forms : List Char}, List.Forall₂ Settles text forms → 'Σ' ∉ text →
      forms = text := by
    intro text forms hforms
    induction hforms with
    | nil => exact fun _ ↦ rfl
    | cons hform _ ih =>
      intro hmem
      rw [List.mem_cons, not_or] at hmem
      rcases hform with ⟨-, rfl⟩ | ⟨rfl, -⟩
      · rw [ih hmem.2]
      · exact absurd rfl hmem.1
  exact hself (forall₂_settledLetters lines) hsigma

/-! ### What a phrase sees -/

/-- A leaf for a phrase, after any calls and a reset, finishes with whether the phrase occurs in
what counts of the lines. -/
theorem finish_feedLines_ofPhrase {text : String} {id : Option String} {matcher : Matcher}
    (hmade : ofPhrase text id = .ok matcher) (calls : List Call) (lines : List (List Char)) :
    ((matcher.afterCalls calls).reset.feedLines lines).finish.1 =
      .ofBool (occursIn (prune text.toList) (prunedLines lines)) := by
  rw [reset_afterCalls_ofPhrase hmade]
  obtain ⟨hpruned, rfl⟩ := ofPhrase_eq_ok_iff.mp hmade
  exact finish_of_hasSearched (hasSearched_feedLines _ hpruned lines)

/-- Layout is unseen but for the sigma. Two lists of lines with the same letters and digits, however
these are broken into lines and whatever stands between them, give the same verdict for every phrase
exactly if each capital sigma has the same small form in both, and that is so if there is no capital
sigma. Assumes: the same letters and digits. -/
theorem layout_unseen_iff {first second : List (List Char)}
    (hsame : letters first.flatten = letters second.flatten) :
    ((∀ text id matcher, ofPhrase text id = .ok matcher → ∀ calls,
        ((matcher.afterCalls calls).reset.feedLines first).finish.1 =
          ((matcher.afterCalls calls).reset.feedLines second).finish.1) ↔
      settledLetters first = settledLetters second) ∧
      ('Σ' ∉ letters first.flatten → settledLetters first = settledLetters second) := by
  have hfirst := forall₂_settledLetters first
  have hsecond := forall₂_settledLetters second
  rw [← hsame] at hsecond
  refine ⟨⟨fun halike ↦ ?_, fun hsettled text id matcher hmade calls ↦ ?_⟩, fun hsigma ↦ ?_⟩
  · -- The first lines themselves, as a phrase, occur in what counts of them, so they occur in what
    -- counts of the second ones, which is as long.
    by_cases hempty : prunedLines first = []
    · refine eq_of_flatMap_lowerAlone hfirst hsecond ?_
      have hlength := length_flatMap_lowerAlone hfirst hsecond
      rw [← prunedLines_eq, ← prunedLines_eq, hempty, List.length_nil] at hlength
      rw [← prunedLines_eq, ← prunedLines_eq, hempty, List.eq_nil_of_length_eq_zero hlength.symm]
    · have hphrase : prune (String.ofList (settledLetters first)).toList = prunedLines first := by
        rw [String.toList_ofList, prune_settledLetters]
      obtain ⟨matcher, hmade⟩ : ∃ matcher,
          ofPhrase (String.ofList (settledLetters first)) none = .ok matcher :=
        ⟨_, ofPhrase_eq_ok_iff.mpr ⟨hphrase ▸ hempty, rfl⟩⟩
      have hverdict := halike _ none matcher hmade []
      rw [finish_feedLines_ofPhrase hmade, finish_feedLines_ofPhrase hmade, Verdict.ofBool_inj,
        hphrase, (occursIn_iff _ _).mpr (List.infix_refl _), eq_comm, occursIn_iff] at hverdict
      refine eq_of_flatMap_lowerAlone hfirst hsecond ?_
      rw [← prunedLines_eq, ← prunedLines_eq]
      refine hverdict.eq_of_length ?_
      rw [prunedLines_eq, prunedLines_eq]
      exact length_flatMap_lowerAlone hfirst hsecond
  · rw [finish_feedLines_ofPhrase hmade, finish_feedLines_ofPhrase hmade, prunedLines_eq,
      prunedLines_eq, hsettled]
  · rw [settledLetters_eq_letters hsigma, settledLetters_eq_letters (hsame ▸ hsigma), hsame]

/-- The first capital sigma starts a word and the second ends one, on one line and on two, with
comment signs between the letters or without. -/
theorem layout_unseen_wrapped :
    let first := [['Σ', 'ώ', 'ς', ' ', 'Ο', 'Σ', '!']]
    let second := [['#', 'Σ', '_', 'ώ', 'ς'], [' '], ['*', 'Ο', 'Σ']]
    letters first.flatten = letters second.flatten ∧
      ∀ text id matcher, ofPhrase text id = .ok matcher → ∀ calls,
        ((matcher.afterCalls calls).reset.feedLines first).finish.1 =
          ((matcher.afterCalls calls).reset.feedLines second).finish.1 := by
  have hsame : letters [['Σ', 'ώ', 'ς', ' ', 'Ο', 'Σ', '!']].flatten =
      letters [['#', 'Σ', '_', 'ώ', 'ς'], [' '], ['*', 'Ο', 'Σ']].flatten := by decide
  exact ⟨hsame, (layout_unseen_iff hsame).1.mpr (by decide)⟩

/-- A phrase with a capital sigma at the end of a word is found on one line and lost where the line
is broken behind the word. -/
theorem phrase_lost_at_break :
    letters [['Ο', 'Σ', ' ', 'Α']].flatten = letters [['Ο', 'Σ'], ['Α']].flatten ∧
      ∃ matcher, ofPhrase "ΟΣ Α" none = .ok matcher ∧
        (matcher.reset.feedLines [['Ο', 'Σ', ' ', 'Α']]).finish.1 = .holds ∧
        (matcher.reset.feedLines [['Ο', 'Σ'], ['Α']]).finish.1 = .fails :=
  ⟨by decide, _, ofPhrase_eq_ok_iff.mpr ⟨by decide, rfl⟩, by decide, by decide⟩

end LicenseHeaders.Matcher
