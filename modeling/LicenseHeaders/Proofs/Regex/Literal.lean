import LicenseHeaders.Proofs.Regex.Splicing
import LicenseHeaders.Proofs.Tables
import LicenseHeaders.Proofs.Text.Caseless

/-!
# Literal text in patterns

A text is put into a pattern for what it says by putting a backslash before each of its characters
that has a meaning there (`escaped`). Such a text is read as one part for each character
(`adds_escaped`), and what the parts match together are the texts that are the same without regard
to case (`reads_literal`). The other parts that patterns are put together from here are classes and
repetitions: a repetition sign applies to the last part, and is eager unless another sign follows
(`adds_repetition`).
-/

set_option autoImplicit false
set_option relaxedAutoImplicit false

namespace LicenseHeaders.Regex

open Text Reading

open scoped Computability

/-! ### Tokens of texts -/

/-- The characters that have a meaning in patterns. -/
def meaningful : List Char :=
  ['(', ')', '[', ']', '\x7b', '\x7d', '?', '*', '+', '-', '|', '^', '$', '\\', '.', '&',
    '~', '#', ' ', '\t', '\n', '\r', '\x0b', '\x0c']

/-- Whether a character is one of those that have a meaning in patterns. -/
def hasMeaning (c : Char) : Bool :=
  meaningful.contains c

/-- A text with a backslash before each character that has a meaning in patterns. -/
def escaped (text : List Char) : List Char :=
  text.flatMap fun c ↦ if hasMeaning c then ['\\', c] else [c]

/-- The tokens of a text with a backslash before each character that has a meaning in patterns. -/
def escapedTokens (text : List Char) : List Token :=
  text.map fun c ↦ if hasMeaning c then .escaped c else .plain c

theorem tokens?_cons {c : Char} (hc : c ≠ '\\') (text : List Char) :
    tokens? (c :: text) = (tokens? text).map (.plain c :: ·) := by
  rw [tokens?]
  · rintro _ _ rfl
    exact absurd rfl hc
  · rintro rfl
    exact absurd rfl hc

/-- A character with which neither an escape nor the end of the text begins is no backslash. -/
theorem ne_backslash {c : Char} {rest : List Char}
    (hescape : ∀ d behind, c = '\\' → rest = d :: behind → False)
    (hlast : c = '\\' → rest = [] → False) : c ≠ '\\' := by
  rintro rfl
  rcases rest with _ | ⟨d, behind⟩
  · exact hlast rfl rfl
  · exact hescape d behind rfl rfl

/-- Text behind a text that ends with no backslash is split on its own. -/
theorem tokens?_append_eq {first : List Char} {tokens : List Token}
    (hfirst : tokens? first = some tokens) (second : List Char) :
    tokens? (first ++ second) = (tokens? second).map (tokens ++ ·) := by
  induction first using tokens?.induct generalizing tokens with
  | case1 =>
    cases hfirst
    exact Option.map_id'.symm
  | case2 c rest ih =>
    obtain ⟨behind, hbehind, rfl⟩ := Option.map_eq_some_iff.mp hfirst
    rw [List.cons_append, List.cons_append, tokens?, ih hbehind, Option.map_map]
    rfl
  | case3 => cases hfirst
  | case4 c rest hescape hlast ih =>
    have hc := ne_backslash hescape hlast
    rw [tokens?_cons hc] at hfirst
    obtain ⟨behind, hbehind, rfl⟩ := Option.map_eq_some_iff.mp hfirst
    rw [List.cons_append, tokens?_cons hc, ih hbehind, Option.map_map]
    rfl

theorem tokens?_append {first second : List Char} {tokens others : List Token}
    (hfirst : tokens? first = some tokens) (hsecond : tokens? second = some others) :
    tokens? (first ++ second) = some (tokens ++ others) := by
  rw [tokens?_append_eq hfirst, hsecond, Option.map_some]

theorem tokens?_escaped (text : List Char) :
    tokens? (escaped text) = some (escapedTokens text) := by
  induction text with
  | nil => rfl
  | cons c text ih =>
    have hfirst : tokens? (if hasMeaning c then ['\\', c] else [c]) =
        some [if hasMeaning c then .escaped c else .plain c] := by
      by_cases hc : hasMeaning c = true
      · rw [if_pos hc, if_pos hc]
        rfl
      · have hplain : c ≠ '\\' := by
          rintro rfl
          exact hc rfl
        rw [if_neg hc, if_neg hc, tokens?_cons hplain]
        rfl
    exact tokens?_append hfirst ih

/-- A text of characters without a meaning is left as it is. -/
theorem escaped_of_plain {text : List Char} (hplain : ∀ c ∈ text, hasMeaning c = false) :
    escaped text = text := by
  induction text with
  | nil => rfl
  | cons c text ih =>
    obtain ⟨hc, hrest⟩ := List.forall_mem_cons.mp hplain
    rw [escaped, List.flatMap_cons, hc, if_neg Bool.false_ne_true]
    exact congrArg (c :: ·) (ih hrest)

theorem hasMeaning_digit {c : Char} (hc : c.isDigit = true) : hasMeaning c = false := by
  have hnone : (meaningful.all fun sign ↦ !sign.isDigit) = true := by decide
  rw [← Bool.not_eq_true, hasMeaning, List.contains_iff_mem]
  intro hmem
  have hdigit := List.all_eq_true.mp hnone c hmem
  rw [hc] at hdigit
  cases hdigit

/-! ### Parts -/

section Parts

variable {flags : Flags} {may : List Token → Prop} {tokens : List Token} {parts : List Item}

/-- Tokens that do not say how greedy a repetition before them is. -/
def Unrepeated (more : List Token) : Prop :=
  more.head? ≠ some (.plain '?') ∧ more.head? ≠ some (.plain '+')

/-- A part that is read from a token and those behind it. -/
theorem adds_part [CharacterNames] {token : Token} {rest : List Token} {part : Item}
    (hbar : token ≠ .plain '|') (hbracket : token ≠ .plain ')')
    (hpart : ∀ fuel items (progress : Progress) more, may more → progress.rest = rest ++ more →
      partFrom fuel flags items token progress =
        .ok (part :: items, { progress with rest := more })) :
    Adds flags may (token :: rest) [part] := by
  intro more hmore fuel items progress hfuel hrest
  rw [List.length_cons] at hfuel
  obtain ⟨fuel, rfl⟩ : ∃ less, fuel = less + 1 := ⟨fuel - 1, by omega⟩
  refine ⟨fuel, by rw [List.length_cons]; omega, ?_⟩
  rw [sequence_of_cons fuel flags items hrest hbar hbracket]
  exact bind_of_eq_ok (hpart fuel items _ more hmore rfl) _

/-- The part for a character. -/
def letterPart (flags : Flags) (c : Char) : Item :=
  (.plain, .one (letterTest flags c.toNat))

/-- A character without a meaning stands for itself. -/
theorem adds_plain [CharacterNames] (hverbose : flags.verbose = false) {c : Char}
    (hc : c ∉ ['|', ')', '[', '.', '^', '$', '(', '?', '*', '+', '\x7b']) :
    Adds flags (fun _ ↦ True) [.plain c] [letterPart flags c] := by
  simp only [List.mem_cons, List.not_mem_nil, or_false, not_or] at hc
  obtain ⟨hbar, hclose, hclass, hdot, hstart, hfinish, hopen, hoption, hstar, hplus, hbrace⟩ := hc
  refine adds_part (fun h ↦ hbar (Token.plain.inj h)) (fun h ↦ hclose (Token.plain.inj h)) ?_
  rintro fuel items progress more - rfl
  have hnone : repetition? c = pure none := by
    unfold repetition?
    split
    · exact absurd rfl hoption
    · exact absurd rfl hstar
    · exact absurd rfl hplus
    · exact absurd rfl hbrace
    · rfl
  simp only [partFrom, hverbose, hclass, hdot, hstart, hfinish, hopen, hnone, Bool.false_and,
    Bool.false_eq_true, if_false, pure_bind]
  rfl

/-- A character that has a meaning stands for itself behind a backslash. -/
theorem adds_escapedChar [CharacterNames] {c : Char} (hc : hasMeaning c = true) :
    Adds flags (fun _ ↦ True) [.escaped c] [letterPart flags c] := by
  have hescape :
      ∀ progress : Progress, escape flags c progress = .ok (letterPart flags c, progress) := by
    intro progress
    simp only [hasMeaning, meaningful, List.contains_iff_mem, List.mem_cons, List.not_mem_nil,
      or_false] at hc
    rcases hc with rfl | rfl | rfl | rfl | rfl | rfl | rfl | rfl | rfl | rfl | rfl |
      rfl | rfl | rfl | rfl | rfl | rfl | rfl | rfl | rfl | rfl | rfl | rfl | rfl <;> rfl
  refine adds_part nofun nofun ?_
  rintro fuel items progress more - rfl
  exact bind_of_eq_ok (hescape progress) _

/-- The parts for the characters of a text. -/
def literalParts (flags : Flags) (text : List Char) : List Item :=
  (text.map (letterPart flags)).reverse

/-- A text with backslashes is read for what it says. -/
theorem adds_escaped [CharacterNames] (hverbose : flags.verbose = false) (text : List Char) :
    Adds flags (fun _ ↦ True) (escapedTokens text) (literalParts flags text) := by
  induction text with
  | nil => exact adds_nil
  | cons c text ih =>
    have hfirst : Adds flags (fun _ ↦ True) [if hasMeaning c then .escaped c else .plain c]
        [letterPart flags c] := by
      by_cases hc : hasMeaning c = true
      · rw [if_pos hc]
        exact adds_escapedChar hc
      · rw [if_neg hc]
        refine adds_plain hverbose fun hmem ↦ hc ?_
        simp only [List.mem_cons, List.not_mem_nil, or_false] at hmem
        rcases hmem with rfl | rfl | rfl | rfl | rfl | rfl | rfl | rfl | rfl | rfl | rfl <;> rfl
    rw [literalParts, List.map_cons, List.reverse_cons]
    exact hfirst.append ih fun _ _ ↦ trivial

theorem greed_of_unrepeated {progress : Progress} (hmore : Unrepeated progress.rest) :
    greed progress = .ok (.eager, progress) :=
  (bind_of_eq_ok (accept_of_head hmore.1) _).trans (bind_of_eq_ok (accept_of_head hmore.2) _)

variable [CharacterNames]

/-- A repetition applies to the last part. -/
theorem partFrom_repetition (fuel : Nat) {items : List Item} {body : Pattern} {sign : Char}
    {progress left : Progress} {least : Nat} {most : Option Nat} (hverbose : flags.verbose = false)
    (hsign : sign ∉ ['[', '.', '^', '$', '('])
    (hbounds : repetition? sign progress = .ok (some (least, most), left))
    (hmore : Unrepeated left.rest) :
    partFrom fuel flags ((.plain, body) :: items) (.plain sign) progress =
      .ok ((.repetition, .repeated .eager least most body) :: items, left) := by
  simp only [List.mem_cons, List.not_mem_nil, or_false, not_or] at hsign
  obtain ⟨hclass, hdot, hstart, hfinish, hopen⟩ := hsign
  simp only [partFrom, hverbose, hclass, hdot, hstart, hfinish, hopen, Bool.false_and,
    Bool.false_eq_true, if_false]
  rw [bind_of_eq_ok hbounds]
  exact bind_of_eq_ok (greed_of_unrepeated hmore) _

theorem adds_repetition {body : Pattern} {sign : Char} {rest : List Token} {least : Nat}
    {most : Option Nat} (hverbose : flags.verbose = false)
    (hsign : sign ∉ ['|', ')', '[', '.', '^', '$', '('])
    (hbounds : ∀ more (progress : Progress), Unrepeated more → progress.rest = rest ++ more →
      repetition? sign progress = .ok (some (least, most), { progress with rest := more }))
    (hadds : Adds flags may tokens ((.plain, body) :: parts))
    (hmay : ∀ more, Unrepeated more → may (.plain sign :: rest ++ more)) :
    Adds flags Unrepeated (tokens ++ .plain sign :: rest)
      ((.repetition, .repeated .eager least most body) :: parts) := by
  rw [List.mem_cons, List.mem_cons, not_or, not_or] at hsign
  obtain ⟨hbar, hclose, hsign⟩ := hsign
  intro more hmore fuel items progress hfuel hrest
  rw [List.length_append, List.length_cons] at hfuel
  obtain ⟨bound, hbound, hread⟩ := hadds _ (hmay more hmore) fuel items progress (by omega)
    (by rw [hrest, List.append_assoc])
  obtain ⟨bound, rfl⟩ : ∃ less, bound = less + 1 := ⟨bound - 1, by omega⟩
  refine ⟨bound, by rw [List.length_append, List.length_cons]; omega, ?_⟩
  rw [hread, sequence_of_cons bound flags _ rfl (fun h ↦ hbar (Token.plain.inj h))
    fun h ↦ hclose (Token.plain.inj h)]
  exact bind_of_eq_ok
    (partFrom_repetition bound hverbose hsign (hbounds more _ hmore rfl) hmore) _

/-! ### Groups -/

/-- Parts that are followed by the end of their sequence. -/
theorem Adds.sequence_eq (hadds : Adds flags may tokens parts) {more : List Token}
    (hmore : may more)
    (hends : EndsSequence more) {fuel : Nat} (hfuel : 5 * tokens.length + 1 ≤ fuel)
    {progress : Progress} (hrest : progress.rest = tokens ++ more) :
    sequence fuel flags [] progress =
      .ok (sequencePattern parts, { progress with rest := more }) := by
  obtain ⟨bound, hbound, hread⟩ := hadds more hmore fuel [] progress (by omega) hrest
  obtain ⟨bound, rfl⟩ : ∃ less, bound = less + 1 := ⟨bound - 1, by omega⟩
  rw [hread, sequence_of_ends _ _ _ hends, List.append_nil]

theorem alternatives_of_sequence {fuel : Nat} {progress left : Progress} {first : Pattern}
    (hsequence : sequence fuel flags [] progress = .ok (first, left))
    (hbar : left.rest.head? ≠ some (.plain '|')) :
    alternatives (fuel + 1) flags progress = .ok (first, left) := by
  rw [alternatives, bind_of_eq_ok hsequence, bind_of_eq_ok (accept_of_head hbar)]
  rfl

theorem alternatives_of_bar {fuel : Nat} {progress middle left : Progress} {first second : Pattern}
    {rest : List Token} (hsequence : sequence fuel flags [] progress = .ok (first, middle))
    (hbar : middle.rest = .plain '|' :: rest)
    (hsecond : alternatives fuel flags { middle with rest := rest } = .ok (second, left)) :
    alternatives (fuel + 1) flags progress = .ok (.alt first second, left) := by
  have haccept : accept '|' middle = .ok (true, { middle with rest := rest }) := by
    rw [accept_apply, hbar]
    exact if_pos rfl
  rw [alternatives, bind_of_eq_ok hsequence, bind_of_eq_ok haccept, if_pos rfl,
    bind_of_eq_ok hsecond]
  rfl

/-- A group without a mark behind its bracket keeps its text under the next number. -/
theorem partFrom_group (hverbose : flags.verbose = false) (fuel : Nat) (items : List Item)
    (progress : Progress) {left : Progress} {pattern : Pattern} {rest : List Token}
    (hmark : progress.rest.head? ≠ some (.plain '?'))
    (halternatives : alternatives fuel flags { progress with nextGroup := progress.nextGroup + 1 } =
      .ok (pattern, left))
    (hclose : left.rest = .plain ')' :: rest) :
    ∃ width, partFrom (fuel + 3) flags items (.plain '(') progress =
      .ok ((.plain, .group progress.nextGroup pattern) :: items,
        { left with rest := rest, widths := (progress.nextGroup, width) :: left.widths }) := by
  have hexpect : expect ')' left = .ok ((), { left with rest := rest }) := by
    rw [expect_apply, hclose]
    exact if_pos rfl
  have hbody : body (fuel + 1) flags { progress with nextGroup := progress.nextGroup + 1 } =
      .ok (pattern, { left with rest := rest }) := by
    rw [body, bind_of_eq_ok halternatives, bind_of_eq_ok hexpect]
    rfl
  have hnumbered : ∃ width, numbered (fuel + 2) flags none progress =
      .ok (.group progress.nextGroup pattern,
        { left with rest := rest, widths := (progress.nextGroup, width) :: left.widths }) :=
    ⟨_, (bind_of_eq_ok rfl _).trans (bind_of_eq_ok hbody _)⟩
  obtain ⟨width, hnumbered⟩ := hnumbered
  have hbracket : bracket (fuel + 3) flags progress =
      .ok (some (.group progress.nextGroup pattern),
        { left with rest := rest, widths := (progress.nextGroup, width) :: left.widths }) := by
    rw [bracket, bind_of_eq_ok (accept_of_head hmark)]
    exact bind_of_eq_ok hnumbered _
  refine ⟨width, ?_⟩
  simp only [partFrom, hverbose, Bool.false_and, Bool.false_eq_true, if_false]
  exact bind_of_eq_ok hbracket _

/-- Blanks, at least as many as given. -/
def blanksPart (least : Nat) : Item :=
  (.repetition, .repeated .eager least none (.one (.oneOf .everyScript false false [.blank true])))

end Parts

/-! ### What the parts match -/

/-- The texts that are the same as a given one without regard to case. -/
def sameText (text : List Char) : Language Char :=
  {read | List.Forall₂ (fun expected found ↦ sameLetter expected found = true) text read}

section Languages

variable {parts items : List Item} {language other : Language Char}

theorem reads_sequencePattern_nil : Reads (sequencePattern []).run 1 :=
  reads_empty

theorem reads_sequencePattern_append (hparts : Reads (sequencePattern parts).run language)
    (hitems : Reads (sequencePattern items).run other) :
    Reads (sequencePattern (parts ++ items)).run (other * language) := by
  have hrun : (sequencePattern (parts ++ items)).run = fun place next ↦
      (sequencePattern items).run place fun reached ↦ (sequencePattern parts).run reached next := by
    funext place next
    rw [sequencePattern, List.foldl_append, run_foldl]
    rfl
  rw [hrun]
  exact reads_bind hitems hparts

theorem reads_sequencePattern_singleton {shape : Shape} {pattern : Pattern}
    (hpattern : Reads pattern.run language) :
    Reads (sequencePattern [(shape, pattern)]).run language := by
  have hseq := reads_seq hpattern reads_empty
  rwa [mul_one] at hseq

theorem letterTest_accepts {flags : Flags} (hfolding : flags.folding = .everyScript)
    (c found : Char) :
    (letterTest flags c.toNat).accepts found = sameLetter c found := by
  rw [letterTest, CharTest.accepts, List.any_cons, List.any_nil, Bool.or_false, Bool.bne_false,
    ClassItem.accepts, hfolding]
  rfl

theorem reads_letterPart {flags : Flags} (hfolding : flags.folding = .everyScript) (c : Char) :
    Reads (sequencePattern [letterPart flags c]).run (single (sameLetter c)) := by
  have hreads := reads_char (letterTest flags c.toNat)
  rw [funext (letterTest_accepts hfolding c)] at hreads
  exact reads_sequencePattern_singleton hreads

theorem sameText_nil : sameText [] = 1 := by
  ext read
  rw [Language.mem_one]
  exact List.forall₂_nil_left_iff

theorem sameText_cons (c : Char) (text : List Char) :
    sameText (c :: text) = single (sameLetter c) * sameText text := by
  ext read
  rw [Language.mem_mul]
  constructor
  · rintro (_ | ⟨hfirst, hrest⟩)
    exact ⟨_, ⟨_, hfirst, rfl⟩, _, hrest, rfl⟩
  · rintro ⟨_, ⟨found, hfound, rfl⟩, rest, hrest, rfl⟩
    exact .cons hfound hrest

/-- A text with backslashes matches the texts that are the same without regard to case. -/
theorem reads_literal {flags : Flags} (hfolding : flags.folding = .everyScript) (text : List Char) :
    Reads (sequencePattern (literalParts flags text)).run (sameText text) := by
  induction text with
  | nil =>
    rw [sameText_nil]
    exact reads_sequencePattern_nil
  | cons c text ih =>
    rw [sameText_cons, literalParts, List.map_cons, List.reverse_cons]
    exact reads_sequencePattern_append ih (reads_letterPart hfolding c)

/-- Digits match themselves. -/
theorem sameText_digits {text : List Char} (hdigits : ∀ c ∈ text, c.isDigit = true) :
    sameText text = {text} := by
  ext read
  have heq : read ∈ sameText text ↔ List.Forall₂ (· = ·) text read :=
    forall₂_congr_of_mem fun c hc found ↦ (sameLetter_digit (hdigits c hc) found).trans eq_comm
  rw [heq, List.forall₂_eq_eq_eq]
  exact eq_comm

theorem reads_blanks (least : Nat) :
    Reads (sequencePattern [blanksPart least]).run
    (single isBlank ^ least * (single isBlank)∗) := by
  have hblank := reads_char (.oneOf .everyScript false false [.blank true])
  rw [funext blank_accepts] at hblank
  rw [← between_none]
  exact reads_sequencePattern_singleton (reads_repeated hblank (nil_notMem_single isBlank) nofun)

end Languages

end LicenseHeaders.Regex
