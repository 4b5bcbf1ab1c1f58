import LicenseHeaders.Proofs.Matcher.Tag
import LicenseHeaders.Proofs.Text.Trimming

/-!
# License expressions

A license expression is a row of license identifiers and operators with blanks and brackets between
them, in which a plus sign may stand behind an identifier (`IsExpression`). Its words are read one
after another, each up to the blank or bracket behind it, and what is read are its identifiers
(`IsExpression.expressionIdentifiers_eq`).

A dash may stand in an identifier and also starts some of the signs that end a comment. But an
expression has the start of no such sign in it, since no dash stands at its end
(`IsExpression.foreign_commentEnds`). So a line with a tag, an expression and the end of a comment
names the identifiers of the expression, whatever stands behind that end
(`identifiersOf_expression`).
-/

set_option autoImplicit false
set_option relaxedAutoImplicit false

namespace LicenseHeaders.Matcher

open Text Regex

/-! ### The grammar -/

/-- Blanks and brackets, which stand between the words of an expression. -/
def isGap (c : Char) : Bool :=
  c == ' ' || c == '\t' || c == '(' || c == ')'

/-- A word that names a license: it starts and ends with a letter or a digit and is no operator. -/
structure IsIdentifier (word : List Char) : Prop where
  chars : ∀ c ∈ word, isIdentifierChar c = true
  first : ∃ c ∈ word.head?, c.isAlphanum = true
  last : ∃ c ∈ word.getLast?, c.isAlphanum = true
  noOperator : word.map Char.toLower ∉ operators

/-- A text starts with a blank or a bracket, if it is not empty. -/
def StartsWithGap (text : List Char) : Prop :=
  ∀ c ∈ text.head?, isGap c = true

/-- A license expression with the identifiers in it, in order. -/
inductive IsExpression : List Char → List (List Char) → Prop
  | nil : IsExpression [] []
  | gap {c : Char} {text : List Char} {identifiers : List (List Char)} :
    isGap c = true → IsExpression text identifiers → IsExpression (c :: text) identifiers
  | identifier {word plus text : List Char} {identifiers : List (List Char)} :
    IsIdentifier word → plus = [] ∨ plus = ['+'] → StartsWithGap text →
      IsExpression text identifiers → IsExpression (word ++ (plus ++ text)) (word :: identifiers)
  | operator {word text : List Char} {identifiers : List (List Char)} :
    word.map Char.toLower ∈ operators → StartsWithGap text →
      IsExpression text identifiers → IsExpression (word ++ text) identifiers

/-- What may stand behind an expression: nothing, or the end of a comment and anything behind it. -/
def EndsExpression (rest : List Char) : Prop :=
  rest = [] ∨ ∃ blanks sign more, rest = blanks ++ (sign ++ more) ∧ (∀ c ∈ blanks, c = ' ') ∧
    sign ∈ commentEnds

/-- A character of a license expression. -/
def isExpressionChar (c : Char) : Bool :=
  isIdentifierChar c || isGap c || c == '+'

/-! ### Words -/

theorem wordsAfter_append {chars : List Char} (hchars : ∀ c ∈ chars, isIdentifierChar c = true)
    (word text : List Char) :
    wordsAfter word (chars ++ text) = wordsAfter (chars.reverse ++ word) text := by
  induction chars generalizing word with
  | nil => rfl
  | cons c chars ih =>
    obtain ⟨hc, hchars⟩ := List.forall_mem_cons.mp hchars
    rw [List.cons_append, wordsAfter, if_pos hc, ih hchars, List.reverse_cons, List.append_assoc,
      List.singleton_append]

/-- A word ends where a text follows that does not go on with it. -/
theorem wordsAfter_of_break {word text : List Char} (hsome : word ≠ [])
    (hbreak : ∀ c ∈ text.head?, isIdentifierChar c = false) :
    wordsAfter word text = word.reverse :: wordsAfter [] text := by
  have hword : word.isEmpty ≠ true := fun hempty ↦ hsome (List.isEmpty_iff.mp hempty)
  rcases text with _ | ⟨c, text⟩
  · rw [wordsAfter, if_neg hword]
    rfl
  · have hc : ¬ isIdentifierChar c = true := Bool.eq_false_iff.mp (hbreak c rfl)
    rw [wordsAfter, if_neg hc, if_neg hword, wordsAfter, if_neg hc, if_pos List.isEmpty_nil]

section Words

variable {word text : List Char} (hchars : ∀ c ∈ word, isIdentifierChar c = true)
    (hsome : word ≠ [])
  (hbreak : ∀ c ∈ text.head?, isIdentifierChar c = false)
include hchars hsome hbreak

theorem wordsAfter_word : wordsAfter [] (word ++ text) = word :: wordsAfter [] text := by
  rw [wordsAfter_append hchars, List.append_nil,
    wordsAfter_of_break (List.reverse_ne_nil_iff.mpr hsome) hbreak, List.reverse_reverse]

theorem expressionIdentifiers_identifier (hoperator : word.map Char.toLower ∉ operators) :
    expressionIdentifiers (word ++ text) = word.map Char.toLower :: expressionIdentifiers text := by
  have hkept : (!operators.contains (word.map Char.toLower)) = true := by
    rwa [Bool.not_eq_true', List.contains_eq_mem, decide_eq_false_iff_not]
  rw [expressionIdentifiers, wordsAfter_word hchars hsome hbreak, List.map_cons,
    List.filter_cons, if_pos hkept]
  rfl

theorem expressionIdentifiers_operator (hoperator : word.map Char.toLower ∈ operators) :
    expressionIdentifiers (word ++ text) = expressionIdentifiers text := by
  have hleft : ¬ (!operators.contains (word.map Char.toLower)) = true := by
    rwa [Bool.not_eq_true', List.contains_eq_mem, decide_eq_false_iff_not, not_not]
  rw [expressionIdentifiers, wordsAfter_word hchars hsome hbreak, List.map_cons,
    List.filter_cons, if_neg hleft]
  rfl

end Words

theorem expressionIdentifiers_cons {c : Char} (hc : isIdentifierChar c = false) (text : List Char) :
    expressionIdentifiers (c :: text) = expressionIdentifiers text := by
  rw [expressionIdentifiers, wordsAfter, if_neg (Bool.eq_false_iff.mp hc), if_pos List.isEmpty_nil]
  rfl

/-! ### Characters -/

theorem isGap_iff {c : Char} : isGap c = true ↔ c = ' ' ∨ c = '\t' ∨ c = '(' ∨ c = ')' := by
  simp only [isGap, Bool.or_eq_true, beq_iff_eq, or_assoc]

theorem not_isIdentifierChar_of_isGap {c : Char} (hc : isGap c = true) :
    isIdentifierChar c = false := by
  rcases isGap_iff.mp hc with rfl | rfl | rfl | rfl <;> decide

theorem StartsWithGap.break {text : List Char} (hgap : StartsWithGap text) :
    ∀ c ∈ text.head?, isIdentifierChar c = false :=
  fun c hc ↦ not_isIdentifierChar_of_isGap (hgap c hc)

theorem ascii_of_isIdentifierChar {c : Char} (hc : isIdentifierChar c = true) : c.toNat < 128 := by
  simp only [isIdentifierChar, Bool.or_eq_true, beq_iff_eq] at hc
  rcases hc with ((hc | rfl) | rfl) | rfl
  · exact ascii_of_isAlphanum hc
  all_goals decide

theorem isBlank_of_isIdentifierChar {c : Char} (hc : isIdentifierChar c = true) :
    isBlank c = false :=
  forall_ascii (fun c ↦ isIdentifierChar c = true → isBlank c = false) (by decide +kernel)
    (ascii_of_isIdentifierChar hc) hc

theorem isAlphanum_of_mem_operator {word : List Char} (hword : word.map Char.toLower ∈ operators) :
    ∀ c ∈ word, c.isAlphanum = true := by
  have hoperators : ∀ operator ∈ operators, operator.all Char.isAlphanum = true := by decide
  intro c hc
  rw [← isAlphanum_toLower]
  exact List.all_eq_true.mp (hoperators _ hword) _ (List.mem_map_of_mem hc)

theorem ne_nil_of_mem_operator {word : List Char} (hword : word.map Char.toLower ∈ operators) :
    word ≠ [] := by
  rintro rfl
  have hoperators : [] ∉ operators := by decide
  exact hoperators hword

theorem isIdentifierChar_of_isAlphanum {c : Char} (hc : c.isAlphanum = true) :
    isIdentifierChar c = true := by
  rw [isIdentifierChar, hc, Bool.true_or, Bool.true_or, Bool.true_or]

theorem isExpressionChar_of_isIdentifierChar {c : Char} (hc : isIdentifierChar c = true) :
    isExpressionChar c = true := by
  rw [isExpressionChar, hc, Bool.true_or, Bool.true_or]

theorem isExpressionChar_of_isGap {c : Char} (hc : isGap c = true) : isExpressionChar c = true := by
  rw [isExpressionChar, hc, Bool.or_true, Bool.true_or]

/-- Every sign that ends a comment has a character in it that is none of an expression. -/
theorem not_prefix_of_expressionChars {sign text : List Char} (hsign : sign ∈ commentEnds)
    (hchars : ∀ c ∈ text, isExpressionChar c = true) : ¬ sign <+: text := by
  have hother : ∀ sign ∈ commentEnds, sign.any (fun c ↦ !isExpressionChar c) = true := by
    rw [commentEnds_eq]
    decide
  intro hstart
  obtain ⟨c, hc, hnone⟩ := List.any_eq_true.mp (hother sign hsign)
  rw [hchars c (hstart.subset hc)] at hnone
  cases hnone

theorem upToPieces_of_expressionChars {text : List Char}
    (hchars : ∀ c ∈ text, isExpressionChar c = true) : upToPieces commentEnds text = text := by
  refine upToPieces_eq_self fun sign hsign ending hending _ ↦ ?_
  exact not_prefix_of_expressionChars hsign fun c hc ↦
    hchars c (((List.mem_tails ..).mp hending).subset hc)

theorem ne_newline_of_isExpressionChar {c : Char} (hc : isExpressionChar c = true) :
    (c != '\n') = true := by
  rw [bne_iff_ne]
  rintro rfl
  cases hc

theorem IsIdentifier.ne_nil {word : List Char} (hword : IsIdentifier word) : word ≠ [] := by
  rintro rfl
  obtain ⟨c, hc, -⟩ := hword.first
  cases hc

/-! ### Expressions -/

namespace IsExpression

variable {text : List Char} {identifiers : List (List Char)}

/-- What is read of an expression are its identifiers. -/
theorem expressionIdentifiers_eq (hexpression : IsExpression text identifiers) :
    expressionIdentifiers text = identifiers.map (·.map Char.toLower) := by
  induction hexpression with
  | nil => rfl
  | gap hc _ ih => rw [expressionIdentifiers_cons (not_isIdentifierChar_of_isGap hc), ih]
  | identifier hword hplus hgap _ ih =>
    rw [List.map_cons, ← ih]
    rcases hplus with rfl | rfl
    · exact expressionIdentifiers_identifier hword.chars hword.ne_nil hgap.break hword.noOperator
    · have hplus : isIdentifierChar '+' = false := by decide
      rw [expressionIdentifiers_identifier hword.chars hword.ne_nil _ hword.noOperator,
        List.singleton_append, expressionIdentifiers_cons hplus]
      rintro c ⟨⟩
      exact hplus
  | operator hword hgap _ ih =>
    rw [expressionIdentifiers_operator
      (fun c hc ↦ isIdentifierChar_of_isAlphanum (isAlphanum_of_mem_operator hword c hc))
      (ne_nil_of_mem_operator hword) hgap.break hword, ih]

theorem chars (hexpression : IsExpression text identifiers) :
    ∀ c ∈ text, isExpressionChar c = true := by
  induction hexpression with
  | nil => exact nofun
  | gap hc _ ih => exact List.forall_mem_cons.mpr ⟨isExpressionChar_of_isGap hc, ih⟩
  | identifier hword hplus _ _ ih =>
    have hsign : isExpressionChar '+' = true := by decide
    refine List.forall_mem_append.mpr ⟨fun c hc ↦
      isExpressionChar_of_isIdentifierChar (hword.chars c hc), List.forall_mem_append.mpr ⟨?_, ih⟩⟩
    rcases hplus with rfl | rfl
    · exact nofun
    · exact List.forall_mem_singleton.mpr hsign
  | operator hword _ _ ih =>
    exact List.forall_mem_append.mpr ⟨fun c hc ↦ isExpressionChar_of_isIdentifierChar
      (isIdentifierChar_of_isAlphanum (isAlphanum_of_mem_operator hword c hc)), ih⟩

/-- No dash stands at the end of an expression. -/
theorem dash_notMem_getLast (hexpression : IsExpression text identifiers) :
    '-' ∉ text.getLast? := by
  have happend {before behind : List Char} (hbefore : '-' ∉ before.getLast?)
      (hbehind : '-' ∉ behind.getLast?) : '-' ∉ (before ++ behind).getLast? := by
    rw [List.getLast?_append]
    exact fun hlast ↦ (Option.or_eq_some_iff.mp hlast).elim hbehind fun hlast ↦ hbefore hlast.2
  induction hexpression with
  | nil => exact nofun
  | @gap c text _ hc _ ih =>
    refine @happend [c] text ?_ ih
    rintro ⟨⟩
    cases hc
  | identifier hword hplus _ _ ih =>
    refine happend ?_ (happend ?_ ih)
    · obtain ⟨c, hc, hlast⟩ := hword.last
      intro hdash
      cases Option.mem_unique hc hdash
      cases hlast
    · rcases hplus with rfl | rfl <;> decide
  | operator hword _ _ ih =>
    refine happend (fun hdash ↦ ?_) ih
    cases isAlphanum_of_mem_operator hword _ (List.mem_of_getLast? hdash)

/-- An expression has the start of no sign in it that ends a comment. -/
theorem foreign_commentEnds (hexpression : IsExpression text identifiers) :
    ∀ sign ∈ commentEnds, Foreign sign text := by
  have hdash : ∀ sign ∈ commentEnds, ∀ start ∈ sign.inits, start ≠ [] →
      start.all Matcher.isExpressionChar = true → start.getLast? = some '-' := by
    rw [commentEnds_eq]
    decide
  intro sign hsign ending hending hsome
  obtain ⟨before, rfl⟩ := (List.mem_tails ..).mp hending
  constructor
  · exact not_prefix_of_expressionChars hsign fun c hc ↦
      hexpression.chars c (List.mem_append_right before hc)
  · intro hprefix
    refine hexpression.dash_notMem_getLast ?_
    rw [List.getLast?_append_of_ne_nil before hsome]
    exact hdash sign hsign ending ((List.mem_inits ..).mpr hprefix) hsome
      (List.all_eq_true.mpr fun c hc ↦ hexpression.chars c (List.mem_append_right before hc))

theorem gaps_append {gaps : List Char} (hexpression : IsExpression text identifiers)
    (hgaps : ∀ c ∈ gaps, isGap c = true) : IsExpression (gaps ++ text) identifiers := by
  induction gaps with
  | nil => exact hexpression
  | cons c gaps ih =>
    obtain ⟨hc, hgaps⟩ := List.forall_mem_cons.mp hgaps
    exact .gap hc (ih hgaps)

theorem append_gaps {gaps : List Char} (hexpression : IsExpression text identifiers)
    (hgaps : ∀ c ∈ gaps, isGap c = true) : IsExpression (text ++ gaps) identifiers := by
  have hstarts {text : List Char} (htext : StartsWithGap text) : StartsWithGap (text ++ gaps) := by
    intro c hc
    rw [List.head?_append] at hc
    exact (Option.or_eq_some_iff.mp hc).elim (htext c) fun hc ↦ hgaps c (List.mem_of_head? hc.2)
  induction hexpression with
  | nil => exact List.append_nil gaps ▸ IsExpression.nil.gaps_append hgaps
  | gap hc _ ih => exact .gap hc ih
  | identifier hword hplus hgap _ ih =>
    rw [List.append_assoc, List.append_assoc]
    exact .identifier hword hplus (hstarts hgap) ih
  | operator hword hgap _ ih =>
    rw [List.append_assoc]
    exact .operator hword (hstarts hgap) ih

/-- An expression without the blanks at its start is one of the same identifiers. -/
theorem trimStart (hexpression : IsExpression text identifiers) :
    IsExpression (trimStart text) identifiers := by
  have hword {word behind : List Char} (hword : ∃ c ∈ word.head?, c.isAlphanum = true) :
      Text.trimStart (word ++ behind) = word ++ behind := by
    obtain ⟨c, hc, hletter⟩ := hword
    rw [trimStart_eq_self_iff, List.head?_append, hc]
    rintro c ⟨⟩
    exact isBlank_of_isIdentifierChar (isIdentifierChar_of_isAlphanum hletter)
  induction hexpression with
  | nil => exact .nil
  | gap hc hexpression ih =>
    rw [Text.trimStart, List.dropWhile_cons]
    split_ifs
    · exact ih
    · exact .gap hc hexpression
  | identifier hidentifier hplus hgap hexpression _ =>
    rw [hword hidentifier.first]
    exact .identifier hidentifier hplus hgap hexpression
  | @operator word _ _ hoperator hgap hexpression _ =>
    obtain ⟨c, rest, rfl⟩ := List.exists_cons_of_ne_nil (ne_nil_of_mem_operator hoperator)
    rw [hword ⟨c, rfl, isAlphanum_of_mem_operator hoperator c List.mem_cons_self⟩]
    exact .operator hoperator hgap hexpression

/-- Behind an expression the end of the comment is found, whatever stands behind that. -/
theorem upToPieces_commentEnds (hexpression : IsExpression text identifiers) {rest : List Char}
    (hrest : rest = [] ∨ ∃ sign ∈ commentEnds, ∃ more, rest = sign ++ more) :
    upToPieces commentEnds ((text ++ rest).takeWhile (· != '\n')) = text := by
  rw [List.takeWhile_append_of_pos fun c hc ↦
    ne_newline_of_isExpressionChar (hexpression.chars c hc)]
  rcases hrest with rfl | ⟨sign, hsign, more, rfl⟩
  · rw [List.takeWhile_nil, List.append_nil]
    exact upToPieces_of_expressionChars hexpression.chars
  · have hsigns : ∀ sign ∈ commentEnds, sign ≠ [] ∧ sign.all (· != '\n') = true := by
      rw [commentEnds_eq]
      decide
    obtain ⟨hsome, hsignLine⟩ := hsigns sign hsign
    rw [List.takeWhile_append_of_pos (List.all_eq_true.mp hsignLine)]
    exact upToPieces_append hsign hsome hexpression.foreign_commentEnds
      pairwise_foreign_commentEnds _

end IsExpression

/-! ### The identifiers of a line -/

theorem trimStart_append_of_sign {rest : List Char}
    (hrest : rest = [] ∨ ∃ sign ∈ commentEnds, ∃ more, rest = sign ++ more) (text : List Char) :
    trimStart (text ++ rest) = trimStart text ++ rest := by
  rcases hrest with rfl | ⟨sign, hsign, more, rfl⟩
  · rw [List.append_nil, List.append_nil]
  · have hblank : ∀ sign ∈ commentEnds, sign.head?.any (fun c ↦ !isBlank c) = true := by
      rw [commentEnds_eq]
      decide
    have hfirst := hblank sign hsign
    rcases sign with _ | ⟨c, sign⟩
    · cases hfirst
    · exact trimStart_append_cons (Bool.not_eq_true' .. ▸ hfirst) text (sign ++ more)

/-- A line with a tag, an expression and the end of a comment, or of the line, names the identifiers
of the expression. -/
theorem identifiersOf_expression {before tag blanks text rest : List Char}
    {identifiers : List (List Char)} (hbefore : ¬ HasTag before)
    (htag : tag.map Char.toLower = spdxTag.map Char.toLower)
    (hblanks : ∀ c ∈ blanks, c = ' ' ∨ c = '\t') (htext : IsExpression text identifiers)
    (hrest : EndsExpression rest) :
    identifiersOf (before ++ (tag ++ (blanks ++ (text ++ rest)))) =
      identifiers.map (·.map Char.toLower) := by
  have hgaps : ∀ c ∈ blanks, isGap c = true := fun c hc ↦
    isGap_iff.mpr ((hblanks c hc).elim .inl fun htab ↦ .inr (.inl htab))
  obtain ⟨expression, rest, hsplit, hexpression, hrest⟩ : ∃ expression behind,
      blanks ++ (text ++ rest) = expression ++ behind ∧ IsExpression expression identifiers ∧
        (behind = [] ∨ ∃ sign ∈ commentEnds, ∃ more, behind = sign ++ more) := by
    rcases hrest with rfl | ⟨spaces, sign, more, rfl, hspaces, hsign⟩
    · exact ⟨_, [], (List.append_assoc ..).symm, htext.gaps_append hgaps, .inl rfl⟩
    · refine ⟨blanks ++ (text ++ spaces), sign ++ more, ?_, ?_, .inr ⟨sign, hsign, more, rfl⟩⟩
      · rw [List.append_assoc, List.append_assoc]
      · exact (htext.append_gaps fun c hc ↦ isGap_iff.mpr (.inl (hspaces c hc))).gaps_append hgaps
  have hbehind :
      expression? (before ++ (tag ++ (expression ++ rest))) = some (trimStart expression) := by
    rw [expression?, afterTag?_eq hbefore (mem_sameText_of_toLower_eq htag),
      trimStart_append_of_sign hrest]
    exact congrArg some (hexpression.trimStart.upToPieces_commentEnds hrest)
  rw [hsplit, identifiersOf, hbehind]
  exact hexpression.trimStart.expressionIdentifiers_eq

/-- The sign that ends the comment shares characters with one behind it. -/
theorem identifiersOf_expression_in_comment :
    identifiersOf ("/* SPDX ".toList ++ ("spdx-LICENSE-Identifier:".toList ++ (['\t'] ++
        (['(', 'G', '-', '2', '+', ' ', 'o', 'R', ' ', 'B', ')'] ++
          ([' '] ++ (['-', '-', '%', '>'] ++ "A --> SPDX-License-Identifier: C */".toList)))))) =
      [['g', '-', '2'], ['b']] := by
  have hfirst : IsIdentifier ['G', '-', '2'] :=
    ⟨List.all_eq_true.mp rfl, ⟨'G', rfl, rfl⟩, ⟨'2', rfl, rfl⟩, by decide⟩
  have hsecond : IsIdentifier ['B'] :=
    ⟨List.all_eq_true.mp rfl, ⟨'B', rfl, rfl⟩, ⟨'B', rfl, rfl⟩, by decide⟩
  have hexpression : IsExpression ['(', 'G', '-', '2', '+', ' ', 'o', 'R', ' ', 'B', ')']
      [['G', '-', '2'], ['B']] := by
    have hend : IsExpression [')'] [] := .gap rfl .nil
    have hbehind : IsExpression [' ', 'B', ')'] [['B']] :=
      .gap rfl (@IsExpression.identifier _ [] _ _ hsecond (.inl rfl) (by rintro _ ⟨⟩; rfl) hend)
    have hjoin : IsExpression [' ', 'o', 'R', ' ', 'B', ')'] [['B']] :=
      .gap rfl (@IsExpression.operator ['o', 'R'] _ _ (by decide) (by rintro _ ⟨⟩; rfl) hbehind)
    exact .gap rfl
      (@IsExpression.identifier _ ['+'] _ _ hfirst (.inr rfl) (by rintro _ ⟨⟩; rfl) hjoin)
  refine identifiersOf_expression (fun htag ↦ ?_) (by decide +kernel) (by simp) hexpression
    (.inr ⟨[' '], _, _, rfl, by simp, by simp [commentEnds_eq]⟩)
  have hcolon := colon_mem_of_hasTag htag
  simp at hcolon

end LicenseHeaders.Matcher
