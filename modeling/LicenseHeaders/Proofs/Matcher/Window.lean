import LicenseHeaders.Proofs.Matcher.Calls
import Mathlib.Data.List.Infix
import Mathlib.Data.List.Induction

/-!
# The window of a phrase

A phrase keeps of what it was read only the end that could still be its start: one character less
than the phrase has. This module shows that it misses nothing by that and finds nothing that is not
there.

The step is a fact about texts: a text that does not occur in what was read occurs in it and a
continuation exactly if it occurs in the last characters and the continuation
(`infix_lastChars_append_iff`). `Matcher.HasSearched` is the invariant of a leaf that looks for a
phrase: it holds if the phrase occurs in what counts of the lines, joined to one text, and otherwise
it is unknown and its window holds the last characters of that text. Reading a line keeps it
(`Matcher.hasSearched_feed`), so it holds after every run (`Matcher.hasSearched_feedLines`).

A leaf that is made for a phrase, and the same leaf after any calls and a reset, is the leaf that
has read nothing (`Matcher.exists_ofPhrase`, `Matcher.reset_ofPhrase`), so the invariant says what
it finds in any lines (`Matcher.window_loses_nothing`).
-/

set_option autoImplicit false
set_option relaxedAutoImplicit false

namespace LicenseHeaders.Matcher

open Text

/-! ### The last characters of a text -/

theorem lastChars_suffix (count : Nat) (text : List Char) : lastChars count text <:+ text :=
  List.drop_suffix _ text

theorem length_lastChars (count : Nat) (text : List Char) :
    (lastChars count text).length = min count text.length := by
  rw [lastChars, List.length_drop]
  omega

/-- What ends a text and is short enough ends its last characters. -/
theorem suffix_lastChars {piece text : List Char} {count : Nat} (hsuffix : piece <:+ text)
    (hshort : piece.length ≤ count) : piece <:+ lastChars count text := by
  refine List.suffix_of_suffix_length_le hsuffix (lastChars_suffix count text) ?_
  rw [length_lastChars]
  exact Nat.le_min.mpr ⟨hshort, hsuffix.length_le⟩

/-- The last characters of a text are those of its last characters and what follows them. -/
theorem lastChars_lastChars_append (count : Nat) (text more : List Char) :
    lastChars count (lastChars count text ++ more) = lastChars count (text ++ more) := by
  obtain ⟨front, hfront⟩ := lastChars_suffix count text
  have hsuffix : lastChars count (lastChars count text ++ more) <:+ text ++ more := by
    refine (lastChars_suffix _ _).trans ⟨front, ?_⟩
    rw [← List.append_assoc, hfront]
  have hlength : (lastChars count (lastChars count text ++ more)).length =
      (lastChars count (text ++ more)).length := by
    simp only [length_lastChars, List.length_append]
    omega
  exact (List.suffix_of_suffix_length_le hsuffix (lastChars_suffix _ _) hlength.le).eq_of_length
    hlength

/-- A text that does not occur in what was read occurs in that and what follows exactly if it occurs
in the last characters and what follows. Assumes: at most the first character of the text is not
among as many as are kept. -/
theorem infix_lastChars_append_iff {piece text more : List Char} {count : Nat}
    (hcount : piece.length ≤ count + 1) (hmissing : ¬piece <:+: text) :
    piece <:+: lastChars count text ++ more ↔ piece <:+: text ++ more := by
  have hsuffix := lastChars_suffix count text
  rw [List.infix_append_iff_ne_nil, List.infix_append_iff_ne_nil]
  refine ⟨?_, ?_⟩
  · rintro (hkept | hmore | ⟨first, second, hfirst, hsecond, rfl, hends, hstarts⟩)
    · exact absurd (hkept.trans hsuffix.isInfix) hmissing
    · exact .inr (.inl hmore)
    · exact .inr (.inr ⟨first, second, hfirst, hsecond, rfl, hends.trans hsuffix, hstarts⟩)
  · rintro (htext | hmore | ⟨first, second, hfirst, hsecond, rfl, hends, hstarts⟩)
    · exact absurd htext hmissing
    · exact .inr (.inl hmore)
    · -- The piece crosses into what follows, so all but its last character at most were kept.
      have hshort : first.length ≤ count := by
        have hpositive := List.length_pos_of_ne_nil hsecond
        rw [List.length_append] at hcount
        omega
      exact .inr (.inr ⟨first, second, hfirst, hsecond, rfl, suffix_lastChars hends hshort,
        hstarts⟩)

/-! ### What a phrase has found -/

/-- What counts of lines, joined to one text. -/
def prunedLines (lines : List (List Char)) : List Char :=
  lines.flatMap prune

theorem prunedLines_concat (lines : List (List Char)) (line : List Char) :
    prunedLines (lines ++ [line]) = prunedLines lines ++ prune line := by
  simp only [prunedLines, List.flatMap_append, List.flatMap_cons, List.flatMap_nil,
    List.append_nil]

/-- A leaf that looks for a phrase after it was read lines: it holds if the phrase occurs in what
counts of them, and otherwise it is unknown and its window is the end of that. -/
inductive HasSearched (id : Option String) (pruned : List Char) (lines : List (List Char)) :
    Matcher → Prop where
  | found (window : List Char) (hfound : pruned <:+: prunedLines lines) :
      HasSearched id pruned lines (leaf id (.phrase ⟨pruned, window⟩) .holds)
  | missing (hmissing : ¬pruned <:+: prunedLines lines) :
      HasSearched id pruned lines
        (leaf id (.phrase ⟨pruned, lastChars (pruned.length - 1) (prunedLines lines)⟩) .unknown)

variable {id : Option String} {pruned : List Char} {lines : List (List Char)} {matcher : Matcher}

/-- Before anything was read nothing was found. -/
theorem hasSearched_nil (id : Option String) (hpruned : pruned ≠ []) :
    HasSearched id pruned [] (leaf id (.phrase ⟨pruned, []⟩) .unknown) := by
  have hmissing : ¬pruned <:+: prunedLines [] := fun hinfix ↦ hpruned (List.infix_nil.mp hinfix)
  have hwindow : lastChars (pruned.length - 1) (prunedLines []) = [] := List.drop_nil
  exact hwindow ▸ HasSearched.missing hmissing

/-- A line that is read is searched together with what was kept of the lines before it. -/
theorem hasSearched_feed (hsearched : HasSearched id pruned lines matcher) (line : List Char) :
    HasSearched id pruned (lines ++ [line]) (matcher.feed line).2 := by
  cases hsearched with
  | found window hfound =>
    refine .found window ?_
    rw [prunedLines_concat]
    exact hfound.trans (List.prefix_append _ _).isInfix
  | missing hmissing =>
    have hoccurs : occursIn pruned
        (lastChars (pruned.length - 1) (prunedLines lines) ++ prune line) = true ↔
          pruned <:+: prunedLines (lines ++ [line]) := by
      rw [occursIn_iff, prunedLines_concat]
      exact infix_lastChars_append_iff (by omega) hmissing
    simp only [feed, Criterion.read, Phrase.read]
    by_cases hfound : pruned <:+: prunedLines (lines ++ [line])
    · rw [if_pos (hoccurs.mpr hfound)]
      exact .found _ hfound
    · rw [if_neg (mt hoccurs.mp hfound), lastChars_lastChars_append, ← prunedLines_concat]
      exact .missing hfound

/-- After any lines a phrase is found exactly if it occurs in what counts of them. -/
theorem hasSearched_feedLines (id : Option String) (hpruned : pruned ≠ [])
    (lines : List (List Char)) :
    HasSearched id pruned lines
      ((leaf id (.phrase ⟨pruned, []⟩) .unknown).feedLines lines) := by
  induction lines using List.reverseRecOn with
  | nil => exact hasSearched_nil id hpruned
  | append_singleton lines line ih =>
    rw [feedLines_concat]
    exact hasSearched_feed ih line

/-- At the end of the header a phrase was there or was not. -/
theorem finish_of_hasSearched (hsearched : HasSearched id pruned lines matcher) :
    matcher.finish.1 = .ofBool (occursIn pruned (prunedLines lines)) := by
  cases hsearched with
  | found window hfound =>
    rw [(occursIn_iff _ _).mpr hfound]
    rfl
  | missing hmissing =>
    rw [Bool.eq_false_iff.mpr (mt (occursIn_iff _ _).mp hmissing)]
    rfl

/-! ### Leaves that are made for a phrase -/

variable {text : String}

/-- A phrase can be looked for if something of it counts, and it is looked for from nothing on. -/
theorem ofPhrase_eq_ok_iff :
    ofPhrase text id = .ok matcher ↔
      prune text.toList ≠ [] ∧
        leaf (identifier? id) (.phrase ⟨prune text.toList, []⟩) .unknown = matcher := by
  rw [ofPhrase, Phrase.ofText]
  by_cases hpruned : prune text.toList = []
  · rw [if_pos (List.isEmpty_iff.mpr hpruned)]
    exact ⟨nofun, fun h ↦ absurd hpruned h.1⟩
  · rw [if_neg (mt List.isEmpty_iff.mp hpruned), Except.ok.injEq]
    exact ⟨fun h ↦ ⟨hpruned, h⟩, fun h ↦ h.2⟩

/-- A leaf for a phrase is as it was made once it is reset, whatever was called before. -/
theorem reset_afterCalls_ofPhrase (hmade : ofPhrase text id = .ok matcher) (calls : List Call) :
    (matcher.afterCalls calls).reset = matcher := by
  obtain ⟨-, rfl⟩ := ofPhrase_eq_ok_iff.mp hmade
  exact reset_afterCalls rfl calls

/-- A phrase with something that counts can be looked for, and the bounded window loses no
occurrence and invents none. From the new leaf on, or from the leaf after any calls and a reset, and
after any lines, the leaf holds exactly if the phrase occurs in what counts of the lines, joined to
one text. Otherwise it is unknown, and what it keeps is the end of that text and shorter than the
phrase. -/
theorem window_loses_nothing (text : String) (id : Option String)
    (hpruned : prune text.toList ≠ []) :
    ∃ matcher, ofPhrase text id = .ok matcher ∧
      ∀ start, start = matcher ∨ (∃ calls, start = (matcher.afterCalls calls).reset) →
        ∀ lines : List (List Char), ∃ window verdict,
          start.feedLines lines =
              leaf (identifier? id) (.phrase ⟨prune text.toList, window⟩) verdict ∧
            (verdict = .holds ↔ prune text.toList <:+: lines.flatMap prune) ∧
            (verdict ≠ .holds →
              verdict = .unknown ∧
                window = lastChars ((prune text.toList).length - 1) (lines.flatMap prune) ∧
                window.length < (prune text.toList).length) := by
  obtain ⟨matcher, hmade⟩ : ∃ matcher, ofPhrase text id = .ok matcher :=
    ⟨_, ofPhrase_eq_ok_iff.mpr ⟨hpruned, rfl⟩⟩
  refine ⟨matcher, hmade, fun start hstart lines ↦ ?_⟩
  have hnew : start = matcher := by
    rcases hstart with hnew | ⟨calls, hreset⟩
    · exact hnew
    · rw [hreset, reset_afterCalls_ofPhrase hmade]
  obtain ⟨-, hmatcher⟩ := ofPhrase_eq_ok_iff.mp hmade
  have hsearched := hasSearched_feedLines (identifier? id) hpruned lines
  rw [hmatcher, ← hnew] at hsearched
  generalize start.feedLines lines = reached at hsearched
  cases hsearched with
  | found window hfound =>
    exact ⟨window, .holds, rfl, iff_of_true rfl hfound, fun hverdict ↦ absurd rfl hverdict⟩
  | missing hmissing =>
    refine ⟨_, .unknown, rfl, iff_of_false Verdict.noConfusion hmissing, fun _ ↦ ⟨rfl, rfl, ?_⟩⟩
    have hpositive := List.length_pos_of_ne_nil hpruned
    rw [length_lastChars]
    omega

/-- Finished and reset, the leaf finds the phrase over four lines, one of which counts for nothing;
the same characters with another one between them are no occurrence. -/
theorem window_loses_nothing_wrapped :
    prune "Ab c".toList ≠ [] ∧
      ∃ matcher, ofPhrase "Ab c" none = .ok matcher ∧
        ((matcher.afterCalls [.feed ['a', 'b'], .finish]).reset.feedLines
          [['#', 'A'], ['*'], ['B'], ['c', '.']]).verdict = .holds ∧
        (matcher.feedLines [['a', 'b'], ['b', 'c']]).verdict = .unknown := by
  have hpruned : prune "Ab c".toList ≠ [] := by decide
  obtain ⟨matcher, hmade, hlines⟩ := window_loses_nothing "Ab c" none hpruned
  refine ⟨hpruned, matcher, hmade, ?_, ?_⟩
  · obtain ⟨window, verdict, hfed, hholds, -⟩ :=
      hlines _ (.inr ⟨[.feed ['a', 'b'], .finish], rfl⟩) [['#', 'A'], ['*'], ['B'], ['c', '.']]
    rw [hfed]
    exact hholds.mpr (by decide)
  · obtain ⟨window, verdict, hfed, hholds, hmissing⟩ :=
      hlines _ (.inl rfl) [['a', 'b'], ['b', 'c']]
    rw [hfed]
    exact (hmissing (mt hholds.mp (by decide))).1

end LicenseHeaders.Matcher
