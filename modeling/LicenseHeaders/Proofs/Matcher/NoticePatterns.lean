import LicenseHeaders.Matcher.Copyright
import LicenseHeaders.Proofs.Effects
import LicenseHeaders.Proofs.Regex.Composing

/-!
# The patterns of notices

The patterns of a notice are put together from a few texts. Here is what those are read as: the
blanks and the optional second sign in front of the notice (`sequence_lead`, `starts_lead`), the
separator (`follows_separator`), and a year of any digits (`adds_year`). The lead opens two groups,
so the groups of what stands behind it have numbers from three on. A notice has patterns exactly if
each of its pattern texts is one (`patterns_eq_ok_iff`).
-/

set_option autoImplicit false
set_option relaxedAutoImplicit false

namespace LicenseHeaders.Matcher.Notice

open Text Regex Reading

open scoped Computability

/-! ### Blanks -/

theorem adds_blank [CharacterNames] : Adds flags (fun _ ↦ True) [.escaped 's']
    [(.plain, .one (.oneOf .everyScript false false [.blank true]))] := by
  refine adds_part nofun nofun ?_
  rintro fuel items progress more - rfl
  rfl

theorem adds_blanks [CharacterNames] :
    Adds flags Unrepeated [.escaped 's', .plain '+'] [blanksPart 1] :=
  adds_repetition rfl (by decide) (by rintro more progress - rfl; rfl) adds_blank fun _ _ ↦ trivial

theorem adds_anyBlanks [CharacterNames] :
    Adds flags Unrepeated [.escaped 's', .plain '*'] [blanksPart 0] :=
  adds_repetition rfl (by decide) (by rintro more progress - rfl; rfl) adds_blank fun _ _ ↦ trivial

/-! ### Classes in brackets -/

/-- A class in brackets that is read alike whatever was read before it. -/
theorem adds_class [CharacterNames] {rest : List Token} {part : Item}
    (hread : ∀ fuel items (progress : Progress) more,
      partFrom fuel flags items (.plain '[') { progress with rest := rest ++ more } =
        .ok (part :: items, { progress with rest := more })) :
    Adds flags (fun _ ↦ True) (.plain '[' :: rest) [part] := by
  refine adds_part nofun nofun ?_
  intro fuel items progress more _ hrest
  have hpart := hread fuel items progress more
  rw [← hrest] at hpart
  exact hpart

/-! ### The second sign -/

/-- The letter of a sign. -/
def signLetter : Item :=
  (.plain, .one (.oneOf .everyScript false false [.code 'C'.toNat, .code 'c'.toNat]))

/-- The parts of a sign in brackets. -/
def bracketedSign : List Item :=
  [letterPart flags ')', signLetter, letterPart flags '(']

/-- The tokens of a sign in brackets. -/
def bracketedSignTokens : List Token :=
  [.escaped '('] ++ [.plain '[', .plain 'C', .plain 'c', .plain ']'] ++ [.escaped ')']

theorem adds_bracketedSign [CharacterNames] :
    Adds flags (fun _ ↦ True) bracketedSignTokens bracketedSign := by
  have hclass : Adds flags (fun _ ↦ True) [.plain '[', .plain 'C', .plain 'c', .plain ']']
      [signLetter] :=
    adds_class fun _ _ _ _ ↦ rfl
  exact ((adds_escapedChar rfl).append hclass fun _ _ ↦ trivial).append (adds_escapedChar rfl)
    fun _ _ ↦ trivial

/-- The second sign. -/
def secondSign : Pattern :=
  .alt (sequencePattern bracketedSign) (sequencePattern [letterPart flags '©'])

/-- The tokens of the second sign. -/
def secondSignTokens : List Token :=
  bracketedSignTokens ++ .plain '|' :: [.plain '©']

theorem alternatives_secondSign [CharacterNames] {fuel : Nat} (hfuel : 40 ≤ fuel)
    {progress : Progress} {more : List Token}
    (hrest : progress.rest = secondSignTokens ++ .plain ')' :: more) :
    alternatives fuel flags progress =
      .ok (secondSign, { progress with rest := .plain ')' :: more }) := by
  obtain ⟨fuel, rfl⟩ : ∃ less, fuel = less + 2 := ⟨fuel - 2, by omega⟩
  have hends : EndsSequence (.plain ')' :: more) := by
    rintro token ⟨⟩
    exact .inr rfl
  have hbar : EndsSequence (.plain '|' :: .plain '©' :: .plain ')' :: more) := by
    rintro token ⟨⟩
    exact .inl rfl
  have hlength : bracketedSignTokens.length = 6 := rfl
  refine alternatives_of_bar (adds_bracketedSign.sequence_eq trivial hbar (by omega) hrest) rfl
    (alternatives_of_sequence ((adds_plain rfl (by decide)).sequence_eq trivial hends ?_ rfl) nofun)
  rw [List.length_singleton]
  omega

/-- The second sign and the blanks behind it. -/
def signAndBlanks : List Item :=
  [blanksPart 1, (.plain, .group 2 secondSign)]

/-- The tokens of the second sign and the blanks behind it. -/
def signAndBlanksTokens : List Token :=
  .plain '(' :: (secondSignTokens ++ .plain ')' :: [.escaped 's', .plain '+'])

theorem alternatives_signAndBlanks [CharacterNames] {fuel : Nat} (hfuel : 60 ≤ fuel)
    {progress : Progress} (hnext : progress.nextGroup = 2) {more : List Token}
    (hrest : progress.rest = signAndBlanksTokens ++ .plain ')' :: more) :
    ∃ width, alternatives fuel flags progress = .ok (sequencePattern signAndBlanks,
      { progress with
        rest := .plain ')' :: more, nextGroup := 3, widths := (2, width) :: progress.widths }) := by
  obtain ⟨fuel, rfl⟩ : ∃ less, fuel = less + 5 := ⟨fuel - 5, by omega⟩
  have hbehind : progress.rest = .plain '(' :: (secondSignTokens ++
      .plain ')' :: ([.escaped 's', .plain '+'] ++ .plain ')' :: more)) := by
    rw [hrest, signAndBlanksTokens, List.cons_append, List.append_assoc, List.cons_append]
  obtain ⟨width, hgroup⟩ := partFrom_group rfl fuel []
    { progress with rest := (secondSignTokens ++
      .plain ')' :: ([.escaped 's', .plain '+'] ++ .plain ')' :: more)) } nofun
    (alternatives_secondSign (by omega) rfl) rfl
  have hunrepeated : Unrepeated (.plain ')' :: more) := ⟨nofun, nofun⟩
  have hends : EndsSequence (.plain ')' :: more) := by
    rintro token ⟨⟩
    exact .inr rfl
  obtain ⟨bound, hbound, hblanks⟩ := adds_blanks _ hunrepeated (fuel + 3)
    [(.plain, .group 2 secondSign)]
    { progress with
      rest := ([.escaped 's', .plain '+'] ++ .plain ')' :: more), nextGroup := 3,
      widths := (2, width) :: progress.widths }
    (by rw [List.length_cons, List.length_singleton]; omega) rfl
  rw [List.length_cons, List.length_singleton] at hbound
  obtain ⟨bound, rfl⟩ : ∃ less, bound = less + 1 := ⟨bound - 1, by omega⟩
  refine ⟨width, alternatives_of_sequence ?_ nofun⟩
  rw [sequence_of_cons _ flags [] hbehind (by decide) (by decide), bind_of_eq_ok hgroup, hnext]
  rw [hblanks]
  exact sequence_of_ends bound flags _ hends

/-- The second sign with blanks behind it, if there is one. -/
def secondSignPart : Item :=
  (.repetition, .repeated .eager 0 (some 1) (.group 1 (sequencePattern signAndBlanks)))

/-- The parts of what stands in front of a notice. -/
def leadParts : List Item :=
  [secondSignPart, blanksPart 1]

/-- The tokens of what stands in front of a notice. -/
def leadTokens : List Token :=
  [.escaped 's', .plain '+'] ++ .plain '(' :: (signAndBlanksTokens ++ [.plain ')', .plain '?'])

theorem tokens?_leadText : tokens? leadText = some leadTokens :=
  rfl

/-- The lead is read as its two parts, and then both of its groups are closed. -/
theorem sequence_lead [CharacterNames] {more : List Token} (hmore : Unrepeated more) {fuel : Nat}
    (hfuel : 89 ≤ fuel) :
    ∃ bound outer inner, fuel ≤ bound + 17 ∧
      sequence fuel flags [] (.start (leadTokens ++ more)) =
        sequence bound flags leadParts ⟨more, 3, [], [(1, outer), (2, inner)], 0, none⟩ := by
  have hsplit : leadTokens ++ more = [.escaped 's', .plain '+'] ++
      .plain '(' :: (signAndBlanksTokens ++ .plain ')' :: .plain '?' :: more) := by
    simp only [leadTokens, List.append_assoc, List.cons_append, List.nil_append]
  obtain ⟨bound, hbound, hblanks⟩ := adds_blanks
    (.plain '(' :: (signAndBlanksTokens ++ .plain ')' :: .plain '?' :: more)) ⟨nofun, nofun⟩ fuel []
    (.start (leadTokens ++ more)) (by rw [List.length_cons, List.length_singleton]; omega) hsplit
  rw [List.length_cons, List.length_singleton] at hbound
  obtain ⟨bound, rfl⟩ : ∃ less, bound = less + 4 := ⟨bound - 4, by omega⟩
  have hbehind : ∀ rest, ∃ outer inner, partFrom (bound + 3) flags [blanksPart 1] (.plain '(')
      (.start (signAndBlanksTokens ++ .plain ')' :: rest)) =
        .ok ([(.plain, .group 1 (sequencePattern signAndBlanks)), blanksPart 1],
          ⟨rest, 3, [], [(1, outer), (2, inner)], 0, none⟩) := by
    intro rest
    obtain ⟨inner, hinner⟩ : ∃ inner, alternatives bound flags
        ⟨signAndBlanksTokens ++ .plain ')' :: rest, 2, [], [], 0, none⟩ =
          .ok (sequencePattern signAndBlanks, ⟨.plain ')' :: rest, 3, [], [(2, inner)], 0, none⟩) :=
      alternatives_signAndBlanks (by omega) rfl rfl
    obtain ⟨outer, houter⟩ := partFrom_group rfl bound [blanksPart 1]
      (.start (signAndBlanksTokens ++ .plain ')' :: rest)) nofun hinner rfl
    exact ⟨outer, inner, houter⟩
  obtain ⟨outer, inner, hgroup⟩ := hbehind (.plain '?' :: more)
  refine ⟨bound + 2, outer, inner, by omega, ?_⟩
  rw [hblanks, sequence_of_cons (bound + 3) flags _ rfl (by decide) (by decide)]
  refine (bind_of_eq_ok hgroup _).trans ?_
  rw [sequence_of_cons (bound + 2) flags _ rfl (by decide) (by decide)]
  exact bind_of_eq_ok (partFrom_repetition (bound + 2) rfl (by decide) rfl hmore) _

theorem begins_lead [CharacterNames] :
    Begins flags Unrepeated leadTokens ⟨[], leadParts, 2, []⟩ := by
  intro more hmore fuel hfuel
  obtain ⟨bound, outer, inner, hbound, hread⟩ := sequence_lead hmore hfuel
  exact ⟨bound, fuel, ⟨more, 3, [], [(1, outer), (2, inner)], 0, none⟩, hbound,
    Nat.le_add_right _ _, rfl, rfl, nofun, rfl, readBranches_of_sequence hread fuel⟩

theorem starts_lead [CharacterNames] : Starts flags Unrepeated leadText ⟨[], leadParts, 2, []⟩ := by
  refine ⟨leadTokens, tokens?_leadText, begins_lead, List.forall_mem_singleton.mpr ?_⟩
  exact List.forall_mem_cons.mpr ⟨rfl, List.forall_mem_singleton.mpr rfl⟩

/-! ### What follows -/

/-- A comma, if there is one. -/
def optionalComma : Item :=
  (.repetition, .repeated .eager 0 (some 1) (letterPart flags ',').2)

/-- The tokens of what separates a date and an owner. -/
def separatorTokens : List Token :=
  [.plain ',', .plain '?'] ++ [.escaped 's', .plain '+']

theorem stops_separator (more : List Token) : Stops (separatorTokens ++ more) where
  mark := by
    rintro c hc ⟨⟩
    exact absurd hc (by decide)
  digit := by
    rintro c ⟨⟩
    rfl
  comma := by
    rintro - c ⟨⟩
    exact ⟨by decide, rfl⟩

theorem adds_comma [CharacterNames] : Adds flags Unrepeated [.plain ',', .plain '?']
    [optionalComma] :=
  adds_repetition rfl (by decide) (by rintro more progress - rfl; rfl) (adds_plain rfl (by decide))
    fun _ _ ↦ trivial

/-- What separates a date and an owner may stand behind whatever a comma may stand behind. -/
theorem follows_separator [CharacterNames] {may : List Token → Prop}
    (hmay : ∀ more, may (separatorTokens ++ more)) :
    Follows flags may separatorText [blanksPart 1, optionalComma] :=
  ⟨separatorTokens, rfl, adds_comma.append adds_blanks fun _ _ ↦ ⟨nofun, nofun⟩,
    List.forall_mem_cons.mpr ⟨rfl, List.forall_mem_singleton.mpr rfl⟩, fun more _ ↦ hmay more⟩

/-- A digit of a year. -/
def yearDigit : Pattern :=
  .one (.oneOf .everyScript false false [.range 0x30 0x39])

/-- The tokens of a year. -/
def yearTokens : List Token :=
  [.plain '[', .plain '0', .plain '-', .plain '9', .plain ']'] ++
    .plain '\x7b' :: [.plain '4', .plain '\x7d']

theorem tokens?_yearText : tokens? yearText = some yearTokens :=
  rfl

theorem adds_year [CharacterNames] : Adds flags Unrepeated yearTokens
    [(.repetition, .repeated .eager 4 (some 4) yearDigit)] := by
  have hdigit : Adds flags (fun _ ↦ True)
      [.plain '[', .plain '0', .plain '-', .plain '9', .plain ']'] [(.plain, yearDigit)] :=
    adds_class fun _ _ _ _ ↦ rfl
  have hbounds : ∀ more (progress : Progress), Unrepeated more →
      progress.rest = [.plain '4', .plain '\x7d'] ++ more →
      repetition? '\x7b' progress = .ok (some (4, some 4), { progress with rest := more }) := by
    intro more progress _ hrest
    obtain ⟨rest, nextGroup, names, widths, asked, lookingBack⟩ := progress
    cases hrest
    rfl
  exact adds_repetition rfl (by decide) hbounds hdigit fun _ _ ↦ trivial

/-! ### The patterns of a notice -/

section PatternTexts

variable {notice : Notice}

theorem patternTexts_of_date (howner : piece notice.owner = []) (hdate : notice.dateText ≠ []) :
    notice.patternTexts = [leadText ++ notice.dateText] := by
  simp only [patternTexts, howner, List.isEmpty_nil, if_true, List.isEmpty_eq_false_iff.mpr hdate,
    Bool.false_eq_true, if_false]

theorem patternTexts_of_owner (howner : piece notice.owner ≠ []) (hdate : notice.dateText = []) :
    notice.patternTexts = [leadText ++ piece notice.owner] := by
  simp only [patternTexts, List.isEmpty_eq_false_iff.mpr howner, Bool.false_eq_true,
    if_false, hdate, List.isEmpty_nil, if_true]

theorem patternTexts_of_both (howner : piece notice.owner ≠ []) (hdate : notice.dateText ≠ []) :
    notice.patternTexts =
      [leadText ++ notice.dateText ++ separatorText ++ piece notice.owner,
        leadText ++ piece notice.owner ++ separatorText ++ notice.dateText] := by
  simp only [patternTexts, List.isEmpty_eq_false_iff.mpr howner,
    List.isEmpty_eq_false_iff.mpr hdate, Bool.false_eq_true, if_false]

end PatternTexts

/-- A notice has patterns exactly if every one of its pattern texts is a pattern. -/
theorem patterns_eq_ok_iff [CharacterNames] {notice : Notice} {patterns : List Pattern} :
    notice.patterns = .ok patterns ↔
      List.Forall₂ (fun text pattern ↦ Pattern.parse flags text = .ok pattern)
        notice.patternTexts patterns := by
  rw [Notice.patterns, mapM_eq_ok_iff]
  refine ⟨fun hread ↦ hread.imp fun text pattern hpattern ↦ ?_,
    fun hread ↦ hread.imp fun text pattern hpattern ↦ ?_⟩
  · rcases hparse : Pattern.parse flags text with cause | read <;> rw [hparse] at hpattern
    · cases hpattern
    · exact congrArg Except.ok (Except.ok.inj hpattern)
  · rw [hpattern]

end LicenseHeaders.Matcher.Notice
