import LicenseHeaders.Matcher.Basic
import LicenseHeaders.Proofs.Matcher.Expression
import LicenseHeaders.Proofs.Matcher.Layout

/-!
# License names that no tag names

A matcher for a license identifier is made for every name that is not blank. What it looks for among
the identifiers of a line is the name in lower case, and these identifiers are runs of letters and
digits of the basic alphabet, dots, dashes and colons, without the operators. So a tag with the very
name in it is found exactly for a name of such characters that is no operator
(`feed_own_name_iff`). A name with a plus sign at its end is never found, since a plus sign behind
an identifier is no part of it (`plus_name_unseen`).
-/

set_option autoImplicit false
set_option relaxedAutoImplicit false

namespace LicenseHeaders.Matcher

open Text Regex

/-! ### Lower case -/

theorem length_le_lowercase (text : List Char) : text.length ≤ (lowercase text).length := by
  have halone (c : Char) : 1 ≤ (lowerAlone c).length := by
    rw [lowerAlone]
    split_ifs
    · exact one_le_two
    · exact le_rfl
  have hflat (forms : List Char) : forms.length ≤ (forms.flatMap lowerAlone).length := by
    induction forms with
    | nil => exact le_rfl
    | cons c forms ih =>
      rw [List.flatMap_cons, List.length_append, List.length_cons]
      have hc := halone c
      omega
  rw [lowercase, lowercaseAfter_eq]
  exact (List.Forall₂.length_eq (forall₂_settle [] text)).le.trans (hflat _)

theorem lowercase_eq_map_toLower {text : List Char} (hascii : ∀ c ∈ text, c.toNat < 128) :
    lowercase text = text.map Char.toLower := by
  have hsigma : 'Σ' ∉ text := fun hmem ↦ absurd (hascii _ hmem) (by decide)
  have halone (c : Char) (hc : c ∈ text) : lowerAlone c = [c.toLower] := by
    have hdotted : c ≠ 'İ' := by
      rintro rfl
      exact absurd (hascii _ hc) (by decide)
    rw [lowerAlone, if_neg hdotted, lowerChar_eq_toLower (hascii c hc)]
  rw [lowercase, lowercaseAfter_eq, settle_eq_self [] hsigma, List.map_eq_flatMap]
  exact List.flatMap_congr halone

theorem isIdentifierChar_toLower (c : Char) : isIdentifierChar c.toLower = isIdentifierChar c := by
  by_cases hupper : c.isUpper = true
  · exact forall_ascii (fun c ↦ isIdentifierChar c.toLower = isIdentifierChar c) (by decide +kernel)
      (ascii_of_isUpper hupper)
  · rw [toLower_eq_self hupper]

/-! ### What can be found -/

/-- The words of a text are pieces of it. -/
theorem infix_of_mem_wordsAfter {word text found : List Char}
    (hfound : found ∈ wordsAfter word text)
    (hword : ∀ c ∈ word, isIdentifierChar c = true) :
    found <:+: word.reverse ++ text ∧ ∀ c ∈ found, isIdentifierChar c = true := by
  have hreverse : ∀ c ∈ word.reverse, isIdentifierChar c = true :=
    fun c hc ↦ hword c (List.mem_reverse.mp hc)
  induction text generalizing word with
  | nil =>
    rw [wordsAfter] at hfound
    split_ifs at hfound
    · cases hfound
    · rw [List.mem_singleton.mp hfound, List.append_nil]
      exact ⟨List.infix_rfl, hreverse⟩
  | cons c text ih =>
    rw [wordsAfter] at hfound
    have hrest (hfound : found ∈ wordsAfter [] text) :
        found <:+: word.reverse ++ c :: text ∧ ∀ c ∈ found, isIdentifierChar c = true := by
      obtain ⟨hinside, hchars⟩ := ih hfound (List.forall_mem_nil _) (List.forall_mem_nil _)
      exact ⟨hinside.trans
        ((List.suffix_cons c text).trans (List.suffix_append _ _)).isInfix, hchars⟩
    split_ifs at hfound with hc hempty
    · have hlonger : ∀ letter ∈ c :: word, isIdentifierChar letter = true :=
        List.forall_mem_cons.mpr ⟨hc, hword⟩
      have hread :=
        ih hfound hlonger fun letter hletter ↦ hlonger letter (List.mem_reverse.mp hletter)
      rwa [List.reverse_cons, List.append_assoc, List.singleton_append] at hread
    · exact hrest hfound
    · rcases List.mem_cons.mp hfound with rfl | hfound
      · exact ⟨(List.prefix_append _ _).isInfix, hreverse⟩
      · exact hrest hfound

theorem mem_expressionIdentifiers_iff {key expression : List Char} :
    key ∈ expressionIdentifiers expression ↔
      (∃ word ∈ wordsAfter [] expression, word.map Char.toLower = key) ∧ key ∉ operators := by
  rw [expressionIdentifiers, List.mem_filter, List.mem_map, Bool.not_eq_true', List.contains_eq_mem,
    decide_eq_false_iff_not]

/-- What is read behind a tag and a space is a piece of what stands there. -/
theorem expression?_isInfix {before tag own : List Char} (hbefore : ¬ HasTag before)
    (htag : tag.map Char.toLower = spdxTag.map Char.toLower) :
    ∃ expression, expression? (before ++ (tag ++ ' ' :: own)) = some expression ∧
      expression <:+: own := by
  rw [expression?, afterTag?_eq hbefore (mem_sameText_of_toLower_eq htag)]
  refine ⟨_, rfl,
    (upToPieces_isPrefix ..).isInfix.trans ((List.takeWhile_prefix _).isInfix.trans ?_)⟩
  rw [show trimStart (' ' :: own) = trimStart own from rfl]
  exact (List.dropWhile_suffix isBlank).isInfix

/-- Behind a tag a text of characters of identifiers is read as a whole. -/
theorem identifiersOf_of_identifierChars {before tag own : List Char} (hbefore : ¬ HasTag before)
    (htag : tag.map Char.toLower = spdxTag.map Char.toLower)
    (hown : ∀ c ∈ own, isIdentifierChar c = true) (hsome : own ≠ [])
    (hoperator : own.map Char.toLower ∉ operators) :
    identifiersOf (before ++ (tag ++ ' ' :: own)) = [own.map Char.toLower] := by
  have hchars : ∀ c ∈ own, isExpressionChar c = true :=
    fun c hc ↦ isExpressionChar_of_isIdentifierChar (hown c hc)
  have htrim : trimStart (' ' :: own) = own :=
    trimStart_eq_self_iff.mpr fun c hc ↦ isBlank_of_isIdentifierChar (hown c (List.mem_of_head? hc))
  have hexpression : expression? (before ++ (tag ++ ' ' :: own)) = some own := by
    rw [expression?, afterTag?_eq hbefore (mem_sameText_of_toLower_eq htag), htrim, Option.map_some,
      List.takeWhile_eq_self_iff.mpr fun c hc ↦ ne_newline_of_isExpressionChar (hchars c hc)]
    exact congrArg some (upToPieces_of_expressionChars hchars)
  have hread := @expressionIdentifiers_identifier own [] hown hsome (by rintro _ ⟨⟩) hoperator
  rw [List.append_nil] at hread
  rw [identifiersOf, hexpression]
  exact hread

section Names

variable {name : String} {id : Option String} {matcher : Matcher} {before tag own : List Char}

theorem ofIdentifier_eq_ok_iff : ofIdentifier name id = .ok matcher ↔ trim name.toList ≠ [] ∧
    matcher = .leaf (identifier? id) (.identifier (lowercase (trim name.toList))) .unknown := by
  simp only [ofIdentifier]
  split_ifs with hempty
  · exact iff_of_false nofun fun hmade ↦ hmade.1 (List.isEmpty_iff.mp hempty)
  · rw [Except.ok.injEq, eq_comm]
    exact (and_iff_right fun hnil ↦ hempty (List.isEmpty_iff.mpr hnil)).symm

/-- The matcher of a name holds on the lines whose tag names it. -/
theorem feed_ofIdentifier_eq_holds_iff (hmade : ofIdentifier name id = .ok matcher)
    (line : List Char) :
    (matcher.feed line).1 = .holds ↔ lowercase (trim name.toList) ∈ identifiersOf line := by
  obtain ⟨-, rfl⟩ := ofIdentifier_eq_ok_iff.mp hmade
  have hlatch : ∀ hit, Verdict.latch .unknown hit = .holds ↔ hit = true := by decide
  rw [feed, Criterion.read]
  exact (hlatch _).trans List.contains_iff_mem

/-- A tag with the very name in it makes the matcher of that name hold exactly if the name is made
of letters and digits of the basic alphabet, dots, dashes and colons, and is no operator. -/
theorem feed_own_name_iff (hmade : ofIdentifier name id = .ok matcher) (hbefore : ¬ HasTag before)
    (htag : tag.map Char.toLower = spdxTag.map Char.toLower)
    (hown : own.map Char.toLower = (trim name.toList).map Char.toLower) :
    (matcher.feed (before ++ (tag ++ ' ' :: own))).1 = .holds ↔
      (∀ c ∈ trim name.toList, isIdentifierChar c = true) ∧
        (trim name.toList).map Char.toLower ∉ operators := by
  have hchars : (∀ c ∈ trim name.toList, isIdentifierChar c = true) ↔
      ∀ c ∈ own, isIdentifierChar c = true := by
    have hlower (text : List Char) : (∀ c ∈ text, isIdentifierChar c = true) ↔
        ∀ c ∈ text.map Char.toLower, isIdentifierChar c = true := by
      simp only [List.forall_mem_map, isIdentifierChar_toLower]
    rw [hlower, ← hown, ← hlower]
  rw [feed_ofIdentifier_eq_holds_iff hmade]
  constructor
  · intro hfound
    obtain ⟨expression, hexpression, hpiece⟩ := @expression?_isInfix _ _ own hbefore htag
    simp only [identifiersOf, hexpression] at hfound
    obtain ⟨⟨word, hword, hkey⟩, hoperator⟩ := mem_expressionIdentifiers_iff.mp hfound
    obtain ⟨hinside, hletters⟩ := infix_of_mem_wordsAfter hword (List.forall_mem_nil _)
    have hlength : own.length ≤ word.length :=
      calc own.length = (trim name.toList).length := by
            simpa only [List.length_map] using congrArg List.length hown
        _ ≤ (lowercase (trim name.toList)).length := length_le_lowercase _
        _ = word.length := by rw [← hkey, List.length_map]
    have hwhole : word = own := (hinside.trans hpiece).eq_of_length_le hlength
    rw [← hkey, hwhole, hown] at hoperator
    exact ⟨hchars.mpr (hwhole ▸ hletters), hoperator⟩
  · rintro ⟨hname, hoperator⟩
    have hsome : own ≠ [] := by
      rintro rfl
      exact (ofIdentifier_eq_ok_iff.mp hmade).1 (List.map_eq_nil_iff.mp hown.symm)
    rw [identifiersOf_of_identifierChars hbefore htag (hchars.mp hname) hsome
      (hown ▸ hoperator), hown,
      lowercase_eq_map_toLower fun c hc ↦ ascii_of_isIdentifierChar (hname c hc)]
    exact List.mem_singleton_self _

/-- A name and a tag in other letters, with a dash at the end of the name. -/
theorem feed_own_name_other_case : ∃ matcher, ofIdentifier " MIT-" none = .ok matcher ∧
    (matcher.feed ("# ".toList ++ ("spdx-License-IDENTIFIER:".toList ++ ' ' :: "mIt-".toList))).1 =
      .holds := by
  have hname : trim " MIT-".toList = ['M', 'I', 'T', '-'] := by decide +kernel
  have hmade := @ofIdentifier_eq_ok_iff " MIT-" none _ |>.mpr ⟨by rw [hname]; exact nofun, rfl⟩
  refine ⟨_, hmade, (feed_own_name_iff hmade (fun htag ↦ ?_) (by decide +kernel) ?_).mpr ⟨?_, ?_⟩⟩
  · have hcolon := colon_mem_of_hasTag htag
    simp at hcolon
  · rw [hname]
    decide +kernel
  · rw [hname]
    exact List.all_eq_true.mp rfl
  · rw [hname]
    decide

/-- A plus sign in a name keeps the name from being found, also in a tag that names it. -/
theorem plus_name_unseen : ∃ matcher, ofIdentifier "GPL-2.0+" none = .ok matcher ∧
    (matcher.feed "SPDX-License-Identifier: GPL-2.0+".toList).1 = .unknown := by
  have hfed : (ofIdentifier "GPL-2.0+" none).toOption.map (fun matcher ↦
      (matcher.feed "SPDX-License-Identifier: GPL-2.0+".toList).1) = some .unknown := by
    decide +kernel
  cases hmade : ofIdentifier "GPL-2.0+" none with
  | error fault =>
    rw [hmade] at hfed
    cases hfed
  | ok matcher =>
    rw [hmade] at hfed
    exact ⟨matcher, rfl, Option.some.inj hfed⟩

end Names

end LicenseHeaders.Matcher
