import LicenseHeaders.Proofs.Analysis.Reuse
import LicenseHeaders.Proofs.Text.Lines
import LicenseHeaders.Proofs.Text.Utf8

/-!
# A header in a file and in memory

The content of a file is the text that was written to it, but its lines are cut at fewer characters
than those of a text in memory. A form feed on its own, say, ends a line in memory only, so a text
with one can have lines in the window that the file does not have there, and the other way round
(`Analyser.form_feed_moves_header`). For a window of a given size the file and the text get the same
report of all analysers exactly if no such character stands in the window of the file
(`Analyser.file_agrees_with_text_iff`).
-/

set_option autoImplicit false
set_option relaxedAutoImplicit false

namespace LicenseHeaders

open Text

/-! ### Looking for one character -/

namespace Matcher

/-- The matcher of a text holds once a line has had the text in it. -/
theorem feedLines_literal (id : Option String) (text : String) (lines : List (List Char)) :
    (leaf id (.literal text) .unknown).feedLines lines =
      leaf id (.literal text) (Verdict.latch .unknown (lines.any (occursIn text.toList))) := by
  induction lines using List.reverseRecOn with
  | nil => rfl
  | append_singleton lines line ih =>
    rw [feedLines_concat, ih, List.any_append]
    cases lines.any (occursIn text.toList) with
    | true => rfl
    | false =>
      rw [List.any_cons, List.any_nil, Bool.or_false, Bool.false_or]
      rfl

end Matcher

namespace Analyser

/-- An analyser with one license, whose headers have a certain character in them. -/
def seeking (sought : Char) (window : Nat) : Analyser where
  licenses := [⟨⟨"A", "A"⟩, .leaf none (.literal (String.ofList [sought])) .unknown, none, none⟩]
  policy := {}
  window := window

theorem isBuiltIn_seeking (sought : Char) (window : Nat) : (seeking sought window).IsBuiltIn := by
  simp [IsBuiltIn, seeking, Matcher.isBuiltIn]

theorem families_seeking_ne_nil_iff {sought : Char} {window : Nat} {lines : List (List Char)}
    (hlines : ∀ line ∈ lines, ∀ c ∈ line, isFileLineEnd c = false) :
    (seeking sought window).families lines ≠ [] ↔ ∃ line ∈ lines.take window, sought ∈ line := by
  have hchomp : (lines.take window).map chomp = lines.take window :=
    (List.map_congr_left fun line hline ↦
      chomp_eq_self (hlines line (List.mem_of_mem_take hline))).trans (List.map_id _)
  have hsettle : ∀ hit, (Verdict.latch .unknown hit).settle = .holds ↔ hit = true := by decide
  have hfinish : ((Matcher.leaf none (.literal (String.ofList [sought])) .unknown).feedLines
      (lines.take window)).finish.1 = .holds ↔ ∃ line ∈ lines.take window, sought ∈ line := by
    rw [Matcher.feedLines_literal, Matcher.finish, hsettle, List.any_eq_true, String.toList_ofList]
    simp only [occursIn_iff, List.singleton_infix_iff]
  have hfamilies := families_eq (seeking sought window).licenses {} window
    (isBuiltIn_seeking sought window) lines
  rw [show (seeking sought window).families lines = _ from hfamilies, hchomp, ne_eq,
    List.map_eq_nil_iff, List.filter_eq_nil_iff, seeking, List.forall_mem_singleton, not_not]
  exact decide_eq_true_iff.trans hfinish

/-- What a report says beside its source is decided by the lines of the window. -/
theorem exists_reports_agree {analyser : Analyser} (hcountable : analyser.window ≤ maxWindow)
    {lines others : List (List Char)}
    (hlines : lines.take analyser.window = others.take analyser.window) (source other : String) :
    ∃ first second, analyser.analyse lines source = .ok first ∧
      analyser.analyse others other = .ok second ∧
      first.families = second.families ∧ first.approved = second.approved := by
  have hfamilies : analyser.families lines = analyser.families others := by
    simp only [families, hlines]
  refine ⟨_, _, analyse_eq hcountable lines source, analyse_eq hcountable others other,
    hfamilies, ?_⟩
  simp only [hfamilies]

theorem analyseBytes_encodeUtf8 (analyser : Analyser) (text : List Char) (source : String) :
    analyser.analyseBytes (encodeUtf8 text) source = analyser.analyse (fileLines text) source := by
  rw [analyseBytes, decodeUtf8Lossy_encodeUtf8]

/-- A text in a file gets the same families and the same approval as in memory, of all analysers
with a window of a certain size, exactly if no character that ends lines in memory only stands in
the window of the file. -/
theorem file_agrees_with_text_iff {window : Nat} (hcountable : window ≤ maxWindow)
    (text : List Char) :
    (∀ analyser : Analyser, analyser.IsBuiltIn → analyser.window = window → ∀ path source,
      ∃ fromFile fromText, analyser.analyseBytes (encodeUtf8 text) path = .ok fromFile ∧
        analyser.analyseText text source = .ok fromText ∧
        fromFile.families = fromText.families ∧ fromFile.approved = fromText.approved) ↔
    ∀ line ∈ (fileLines text).take window, ∀ c ∈ line, isLineEnd c = false := by
  simp only [analyseBytes_encodeUtf8, analyseText]
  constructor
  · intro hagree line hline c hc
    obtain ⟨fromFile, fromText, hfile, htext, hfamilies, -⟩ :=
      hagree (seeking c window) (isBuiltIn_seeking c window) rfl "" ""
    rw [analyse_eq hcountable] at hfile htext
    cases hfile
    cases htext
    have hfound := (families_seeking_ne_nil_iff
      fun line hline ↦ not_isFileLineEnd_of_mem_fileLines hline).mpr ⟨line, hline, hc⟩
    have hclean : ∀ line ∈ splitLines text, ∀ letter ∈ line, isFileLineEnd letter = false := by
      intro line hline letter hletter
      have hnone := not_isLineEnd_of_mem_splitLines hline letter hletter
      exact Bool.eq_false_iff.mpr fun hend ↦
        Bool.eq_false_iff.mp hnone (isLineEnd_of_isFileLineEnd hend)
    rw [show (seeking c window).families (fileLines text) = _ from hfamilies,
      families_seeking_ne_nil_iff hclean] at hfound
    obtain ⟨other, hother, hmem⟩ := hfound
    exact not_isLineEnd_of_mem_splitLines (List.mem_of_mem_take hother) c hmem
  · rintro hclean analyser - rfl path source
    exact exists_reports_agree hcountable (take_fileLines_eq_iff.mpr hclean) path source

/-- A form feed behind the window of the file does not matter. -/
theorem file_agrees_with_text_behind_window :
    let text := ['F', 'o', 'o', '\r', '\n', '\x0C', 'x']
    1 ≤ maxWindow ∧ ∃ fromFile fromText,
      (seeking 'o' 1).analyseBytes (encodeUtf8 text) "foo.c" = .ok fromFile ∧
      (seeking 'o' 1).analyseText text "foo.c" = .ok fromText ∧
      fromFile.families = fromText.families ∧ fromFile.approved = fromText.approved := by
  intro text
  have hcountable : 1 ≤ maxWindow := by decide
  have hclean : ∀ line ∈ (fileLines text).take 1, ∀ c ∈ line, isLineEnd c = false := by
    have hfirst : (fileLines text).take 1 = [['F', 'o', 'o']] := rfl
    rw [hfirst]
    simp [isLineEnd]
  exact ⟨hcountable, (file_agrees_with_text_iff hcountable text).mpr hclean (seeking 'o' 1)
    (isBuiltIn_seeking 'o' 1) rfl "foo.c" "foo.c"⟩

/-- A form feed moves what stands behind it out of the window in memory, but not in a file. -/
theorem form_feed_moves_header :
    let analyser : Analyser :=
      { licenses := [⟨⟨"A", "Alpha"⟩, .leaf none (.literal "Foo") .unknown, none, none⟩]
        policy := ⟨["A"]⟩
        window := 1 }
    let text := ['x', '\x0C', 'F', 'o', 'o']
    analyser.analyseBytes (encodeUtf8 text) "input" =
        .ok { source := "input", families := [⟨"A", "Alpha"⟩], approved := true } ∧
      analyser.analyseText text "input" =
        .ok { source := "input", families := [], approved := false } := by
  constructor
  · rfl
  · rfl

end Analyser

end LicenseHeaders
