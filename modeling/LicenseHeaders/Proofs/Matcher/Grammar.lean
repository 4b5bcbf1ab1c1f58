import LicenseHeaders.Proofs.Matcher.NoticePatterns
import LicenseHeaders.Proofs.Matcher.Sign
import LicenseHeaders.Proofs.Text.Trimming
import LicenseHeaders.Sample

/-!
# The grammar of notices

Behind the first copyright sign of a line a notice has a `lead`, which is blanks and possibly a
second sign, and then one of the `bodies` that its date and its owner allow. An owner who is meant
by the very characters of a text has a backslash before every character that has a meaning in
patterns, and is compared without regard to case (`ofLiteral`).

Every piece of the texts of the patterns spells its part of the grammar, so that the texts spell the
lead and the bodies (`patternTexts_open`), and a matcher holds exactly for the lines of the grammar
(`accepts_exactly_grammar`).
-/

set_option autoImplicit false
set_option relaxedAutoImplicit false

namespace LicenseHeaders.Matcher.Notice

open Text Regex Reading

open scoped Computability

/-! ### The grammar -/

/-- Blanks, at least one. -/
def blanks : Language Char :=
  single isBlank * (single isBlank)∗

/-- The sign in brackets or the sign ©. -/
def embeddedSign : Language Char :=
  sameText "(c)".toList + {['©']}

/-- What stands in front of a date or an owner: blanks, and once more a sign with blanks behind it,
if there is another sign. -/
def lead : Language Char :=
  blanks * (1 + embeddedSign * blanks)

/-- What separates a date and an owner: blanks, with or without a comma in front of them. -/
def separator : Language Char :=
  (1 + {[',']}) * blanks

/-- A dash with or without blanks around it. -/
def dash : Language Char :=
  (single isBlank)∗ * {['-']} * (single isBlank)∗

/-- The characters of a text that was given, or none. -/
def given (text : Option String) : List Char :=
  (text.getD "").toList

/-- The dates that are meant by the given years. A last year alone means none. -/
def date? (start stop : List Char) : Option (Language Char) :=
  match start, stop with
  | [], _ => none
  | start, [] => some {start}
  | start, stop => some ({start} * dash * {stop})

/-- What may stand behind the lead: a date and an owner in either order, or the one that was given,
or any year. -/
def bodies : Option (Language Char) → Option (Language Char) → List (Language Char)
  | none, none => [single Char.isDigit ^ 4]
  | some date, none => [date]
  | none, some owner => [owner]
  | some date, some owner => [date * separator * owner, owner * separator * date]

/-- A notice with an owner who is meant by the very characters of a text. -/
def ofLiteral (start stop : Option String) (owner : Option (List Char)) : Notice :=
  ⟨start, stop, owner.map fun owner ↦ String.ofList (escaped owner)⟩

/-! ### Pieces of pattern text -/

/-- A character that has no other case reads itself. -/
theorem single_sameLetter {c : Char} (hapart : lowerRuns.apart [(c.toNat, c.toNat)] = true)
    (htwins : twinsOf c.toNat = []) : single (sameLetter c) = {[c]} := by
  ext read
  constructor
  · rintro ⟨found, hfound, rfl⟩
    exact congrArg ([·]) ((sameLetter_iff_eq hapart htwins found).mp hfound)
  · rintro rfl
    exact ⟨c, (sameLetter_iff_eq hapart htwins c).mpr rfl, rfl⟩

theorem reads_blanksPart : Reads (sequencePattern [blanksPart 1]).run blanks := by
  have hreads := reads_blanks 1
  rwa [pow_one] at hreads

theorem spells_anyBlanks [CharacterNames] : Spells flags "\\s*".toList (single isBlank)∗ := by
  have hreads := reads_blanks 0
  rw [pow_zero, one_mul] at hreads
  exact ⟨_,
    ⟨_, rfl, adds_anyBlanks, List.forall_mem_singleton.mpr rfl, fun _ _ ↦ ⟨nofun, nofun⟩⟩, hreads⟩

theorem spells_dash [CharacterNames] : Spells flags "\\s*-\\s*".toList dash := by
  have hsign : Spells flags ['-'] {['-']} := by
    refine ⟨_, ⟨_, rfl, fun more _ ↦ adds_plain rfl (by decide) more trivial,
      List.forall_mem_singleton.mpr rfl, fun _ _ ↦ ⟨nofun, nofun⟩⟩, ?_⟩
    rw [← single_sameLetter (by decide) (by decide)]
    exact reads_letterPart rfl '-'
  exact (spells_anyBlanks.append hsign).append spells_anyBlanks

theorem spells_separator [CharacterNames] : Spells flags separatorText separator := by
  have hcomma : Reads (sequencePattern [optionalComma]).run (1 + {[',']}) := by
    rw [← between_optional, ← single_sameLetter (by decide) (by decide),
      ← funext (@letterTest_accepts flags rfl ',')]
    exact reads_sequencePattern_singleton
      (reads_repeated (reads_char _) (nil_notMem_single _) fun bound hbound ↦ Nat.zero_le bound)
  exact ⟨_, follows_separator fun _ ↦ ⟨nofun, nofun⟩,
    reads_sequencePattern_append reads_blanksPart hcomma⟩

theorem spells_year [CharacterNames] : Spells flags yearText (single Char.isDigit ^ 4) := by
  refine ⟨_, ⟨_, tokens?_yearText, adds_year, List.forall_mem_singleton.mpr rfl,
    fun _ _ ↦ ⟨nofun, nofun⟩⟩, ?_⟩
  have hdigit := reads_char (.oneOf .everyScript false false [.range 0x30 0x39])
  rw [funext digits_accept] at hdigit
  rw [← between_same]
  exact reads_sequencePattern_singleton (reads_repeated hdigit (nil_notMem_single _)
    fun bound hbound ↦ by cases hbound; exact le_rfl)

theorem spells_digits [CharacterNames] {text : List Char} (hdigits : ∀ c ∈ text, c.isDigit = true) :
    Spells flags text {text} := by
  have hspells : Spells flags (escaped text) (sameText text) := spells_escaped rfl rfl text
  rwa [escaped_of_plain fun c hc ↦ hasMeaning_digit (hdigits c hc),
    sameText_digits hdigits] at hspells

theorem signLetter_accepts (c : Char) :
    (CharTest.oneOf .everyScript false false [.code 'C'.toNat, .code 'c'.toNat]).accepts c =
      sameLetter 'c' c := by
  have hcapital : lowerRuns.image 'C'.toNat = lowerRuns.image 'c'.toNat := by decide
  simp only [CharTest.accepts, List.any_cons, List.any_nil, ClassItem.accepts,
    Folding.same, sameLetter, sameLetterCode, hcapital, Bool.or_false, Bool.or_self, Bool.bne_false]

theorem reads_bracketedSign :
    Reads (sequencePattern bracketedSign).run (sameText "(c)".toList) := by
  have hletter := reads_char (.oneOf .everyScript false false [.code 'C'.toNat, .code 'c'.toNat])
  rw [funext signLetter_accepts] at hletter
  have hrest : Reads (sequencePattern [letterPart flags ')', signLetter]).run
      (single (sameLetter 'c') * single (sameLetter ')')) :=
    reads_sequencePattern_append (reads_letterPart rfl ')')
      (reads_sequencePattern_singleton hletter)
  rw [show "(c)".toList = ['(', 'c', ')'] from rfl, sameText_cons, sameText_cons, sameText_cons,
    sameText_nil, mul_one]
  exact reads_sequencePattern_append hrest (@reads_letterPart flags rfl '(')

/-- The lead of every pattern of a notice spells what the grammar has in front of a body. -/
theorem opens_lead [CharacterNames] : Opens flags leadText lead := by
  have hsign : Reads secondSign.run embeddedSign := by
    rw [embeddedSign, ← single_sameLetter (c := '©') (by decide) (by decide)]
    exact reads_alt reads_bracketedSign (reads_letterPart rfl '©')
  have hsignAndBlanks : Reads (sequencePattern signAndBlanks).run (embeddedSign * blanks) :=
    reads_sequencePattern_append reads_blanksPart
      (reads_sequencePattern_singleton (reads_group 2 hsign))
  have hnonempty : [] ∉ embeddedSign * blanks := by
    rw [Language.mem_mul]
    rintro ⟨sign, -, text, ⟨first, ⟨c, -, rfl⟩, rest, -, rfl⟩, hnil⟩
    cases (List.append_eq_nil_iff.mp hnil).2
  have hoptional : Reads (sequencePattern [secondSignPart]).run (1 + embeddedSign * blanks) := by
    rw [← between_optional]
    exact reads_sequencePattern_singleton (reads_repeated (reads_group 1 hsignAndBlanks) hnonempty
      fun bound hbound ↦ Nat.zero_le bound)
  exact ⟨leadParts, 2, starts_lead, reads_sequencePattern_append hoptional reads_blanksPart⟩

/-! ### The texts of the patterns -/

/-- No digit is blank. -/
theorem isBlank_digit {c : Char} (hc : c.isDigit = true) : isBlank c = false := by
  have hranges : (blankRanges.all fun range ↦
      decide (range.2 < 0x30) || decide (0x39 < range.1)) = true := by
    decide
  obtain ⟨hleast, hmost⟩ := (isDigit_iff c).mp hc
  by_contra hblank
  obtain ⟨low, high, hrange, hlow, hhigh⟩ :=
    CodeRanges.exists_of_includes (Bool.not_eq_false _ ▸ hblank)
  have houtside := List.all_eq_true.mp hranges _ hrange
  simp only [Bool.or_eq_true, decide_eq_true_eq] at houtside
  omega

theorem trim_digits {text : List Char} (hdigits : ∀ c ∈ text, c.isDigit = true) :
    trim text = text :=
  trim_eq_self_iff.mpr ⟨fun c hc ↦ isBlank_digit (hdigits c (List.mem_of_head? hc)),
    fun c hc ↦ isBlank_digit (hdigits c (List.mem_of_getLast? hc))⟩

/-- A text without blanks around it gets none by the backslashes in it. -/
theorem trim_escaped {text : List Char} (htrim : trim text = text) :
    trim (escaped text) = escaped text := by
  obtain ⟨hhead, hlast⟩ := trim_eq_self_iff.mp htrim
  refine trim_eq_self_iff.mpr ⟨?_, ?_⟩
  · rcases text with _ | ⟨first, text⟩
    · rintro _ ⟨⟩
    · rw [escaped, List.flatMap_cons]
      split_ifs with hmeaning
      · rintro c ⟨⟩
        decide
      · rintro c ⟨⟩
        exact hhead first rfl
  · rcases text.eq_nil_or_concat with rfl | ⟨text, last, rfl⟩
    · rintro _ ⟨⟩
    · rw [List.concat_eq_append] at hlast ⊢
      rw [List.getLast?_concat] at hlast
      rw [escaped, List.flatMap_append, List.flatMap_singleton, List.getLast?_append]
      split_ifs <;> exact hlast

/-- Texts that spell languages have patterns, and some pattern matches where some language starts.
-/
theorem exists_patterns_of_opens [CharacterNames] {texts : List (List Char)}
    {around : Language Char} {languages : List (Language Char)}
    (hopens : List.Forall₂ (fun text language ↦ Opens flags text (around * language))
      texts languages) :
    ∃ patterns, List.Forall₂ (fun text pattern ↦ Pattern.parse flags text = .ok pattern)
      texts patterns ∧ ∀ line, (∃ pattern ∈ patterns, pattern.matchesStart line = true) ↔
        ∃ language ∈ languages, ∃ read ∈ around * language, read <+: line := by
  induction hopens with
  | nil => exact ⟨[], .nil, fun line ↦ iff_of_false nofun nofun⟩
  | cons hfirst _ ih =>
    obtain ⟨pattern, hparse, hmatches⟩ := hfirst.parse
    obtain ⟨patterns, hpatterns, hrest⟩ := ih
    refine ⟨pattern :: patterns, .cons hparse hpatterns, fun line ↦ ?_⟩
    rw [List.exists_mem_cons_iff, List.exists_mem_cons_iff, hmatches, hrest]

/-- A text spells a language, or it is empty and there is none to spell. -/
def SpellsIfAny [CharacterNames] (text : List Char) : Option (Language Char) → Prop
  | none => text = []
  | some language => text ≠ [] ∧ Spells flags text language

/-- The text of the date spells the dates that are meant by the years. -/
theorem dateText_spells [CharacterNames] {notice : Notice}
    (hstart : ∀ c ∈ piece notice.start, c.isDigit = true)
    (hstop : ∀ c ∈ piece notice.stop, c.isDigit = true) :
    SpellsIfAny notice.dateText (date? (piece notice.start) (piece notice.stop)) := by
  unfold dateText date?
  rcases hgiven : piece notice.start with _ | ⟨c, rest⟩
  · rfl
  · rw [hgiven] at hstart
    rcases hgivenStop : piece notice.stop with _ | ⟨d, others⟩
    · exact ⟨nofun, spells_digits hstart⟩
    · rw [hgivenStop] at hstop
      exact ⟨nofun, ((spells_digits hstart).append spells_dash).append (spells_digits hstop)⟩

/-- The owner of a literal notice is the text that was meant. -/
theorem owner_spells [CharacterNames] (start stop : Option String) {owner : Option (List Char)}
    (howner : ∀ text ∈ owner, text ≠ [] ∧ trim text = text) :
    SpellsIfAny (piece (ofLiteral start stop owner).owner) (owner.map sameText) := by
  rcases owner with _ | owner
  · rfl
  · obtain ⟨hsome, htrim⟩ := howner owner rfl
    have hpiece : piece (ofLiteral start stop (some owner)).owner = escaped owner := by
      rw [piece, ofLiteral, Option.map_some, Option.getD_some, String.toList_ofList]
      exact trim_escaped htrim
    refine hpiece ▸ ⟨?_, spells_escaped rfl rfl owner⟩
    rcases owner with _ | ⟨c, owner⟩
    · exact absurd rfl hsome
    · rw [escaped, List.flatMap_cons]
      split_ifs <;> exact List.cons_ne_nil _ _

/-- The texts of the patterns spell the lead and the bodies that may stand behind it. -/
theorem patternTexts_open [CharacterNames] {notice : Notice} {date owner : Option (Language Char)}
    (hdate : SpellsIfAny notice.dateText date) (howner : SpellsIfAny (piece notice.owner) owner) :
    List.Forall₂ (fun text body ↦ Opens flags text (lead * body)) notice.patternTexts
      (bodies date owner) := by
  rcases owner with _ | owner <;> rcases date with _ | date
  · rw [patternTexts, show piece notice.owner = [] from howner,
      show notice.dateText = [] from hdate]
    exact .cons (opens_lead.append spells_year) .nil
  · rw [patternTexts_of_date howner hdate.1]
    exact .cons (opens_lead.append hdate.2) .nil
  · rw [patternTexts_of_owner howner.1 hdate]
    exact .cons (opens_lead.append howner.2) .nil
  · have hdateFirst := ((opens_lead.append hdate.2).append spells_separator).append howner.2
    have hownerFirst := ((opens_lead.append howner.2).append spells_separator).append hdate.2
    rw [mul_assoc, mul_assoc, ← mul_assoc _ separator] at hdateFirst hownerFirst
    rw [patternTexts_of_both howner.1 hdate.1]
    exact .cons hdateFirst (.cons hownerFirst .nil)

/-- With years of digits and a literal owner, a notice has patterns, and a line makes its matcher
hold exactly if behind the first sign of the line stands the lead and a body of the grammar. Every
other line leaves the matcher as it is. -/
theorem accepts_exactly_grammar [CharacterNames] {start stop : Option String}
    {owner : Option (List Char)} (hstart : ∀ c ∈ given start, c.isDigit = true)
    (hstop : ∀ c ∈ given stop, c.isDigit = true)
    (howner : ∀ text ∈ owner, text ≠ [] ∧ trim text = text) :
    ∃ patterns, (ofLiteral start stop owner).patterns = .ok patterns ∧ ∀ line,
      (stepNotice patterns .unknown line = .holds ↔
        ∃ behind, FirstSign line behind ∧
          ∃ body ∈ bodies (date? (given start) (given stop)) (owner.map sameText),
            ∃ read ∈ lead * body, read <+: behind) ∧
      (stepNotice patterns .unknown line ≠ .holds →
        stepNotice patterns .unknown line = .unknown) := by
  have hfirst : piece (ofLiteral start stop owner).start = given start := trim_digits hstart
  have hlast : piece (ofLiteral start stop owner).stop = given stop := trim_digits hstop
  rw [← hfirst] at hstart ⊢
  rw [← hlast] at hstop ⊢
  obtain ⟨patterns, hpatterns, hmatches⟩ := exists_patterns_of_opens
    (patternTexts_open (dateText_spells hstart hstop) (owner_spells start stop howner))
  refine ⟨patterns, patterns_eq_ok_iff.mpr hpatterns,
    fun line ↦ ⟨?_, stepNotice_eq_unknown_iff.mpr⟩⟩
  rw [stepNotice_eq_holds_iff]
  exact exists_congr fun behind ↦ and_congr_right fun _ ↦ hmatches behind

section Sample

open Sample

/-- An owner with a plus sign is looked for as it is written, but for the case of its letters. -/
theorem accepts_exactly_grammar_plus_sign :
    ∃ patterns, (ofLiteral (some "2010") none (some ['A', '+'])).patterns = .ok patterns ∧
      stepNotice patterns .unknown "(C) 2010 a+".toList = .holds := by
  have hstart : ∀ c ∈ given (some "2010"), c.isDigit = true := List.all_eq_true.mp (by rfl)
  obtain ⟨patterns, hpatterns, hlines⟩ :=
    @accepts_exactly_grammar _ _ none (some ['A', '+']) hstart nofun (by rintro text ⟨⟩; decide)
  have hblank : [' '] ∈ single isBlank := ⟨' ', by decide, rfl⟩
  have hblanks : [' '] ∈ blanks := Language.append_mem_mul hblank (Language.nil_mem_kstar _)
  have hnone : ∀ language : Language Char, [] ∈ 1 + language := fun _ ↦ .inl rfl
  have hlead : [' '] ∈ lead := Language.append_mem_mul hblanks (hnone _)
  have hseparator : [' '] ∈ separator := Language.append_mem_mul (hnone _) hblanks
  have howner : ['a', '+'] ∈ sameText ['A', '+'] :=
    .cons (by decide +kernel) (.cons (by decide +kernel) .nil)
  have hread : " 2010 a+".toList ∈ lead * ({"2010".toList} * separator * sameText ['A', '+']) :=
    Language.append_mem_mul hlead
      (Language.append_mem_mul (Language.append_mem_mul (Set.mem_singleton _) hseparator) howner)
  have hbehind : FirstSign "(C) 2010 a+".toList " 2010 a+".toList :=
    afterSign?_eq_some_iff.mp (by decide +kernel)
  exact ⟨patterns, hpatterns,
    (hlines _).1.mpr ⟨_, hbehind, _, List.mem_cons_self, _, hread, List.prefix_rfl⟩⟩

end Sample

end LicenseHeaders.Matcher.Notice
