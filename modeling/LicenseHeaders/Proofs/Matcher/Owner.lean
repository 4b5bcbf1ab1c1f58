import LicenseHeaders.Proofs.Matcher.Grammar
import LicenseHeaders.Sample

/-!
# A bar in the owner

The owner of a notice is put into the texts of the patterns as it is given. A bar in it therefore
separates two alternatives of the whole pattern and not two owners: what stands before the bar is
the last that is asked for behind the lead, and what stands behind the bar is asked for directly
behind the sign. So a notice with two owners is found where a notice with the first one is found,
with its date or without, and where the second one follows the sign (`owner_bar_splits_patterns`).
-/

set_option autoImplicit false
set_option relaxedAutoImplicit false

namespace LicenseHeaders.Matcher.Notice

open Text Regex

/-- A text is a pattern on its own which asks for no group. -/
structure IsFragment [CharacterNames] (text : List Char) (pattern : Pattern) : Prop where
  parse : Pattern.parse flags text = .ok pattern
  asks : pattern.asksForGroup = false

/-- A text with backslashes is a fragment without groups. -/
theorem isFragment_escaped [CharacterNames] (text : List Char) :
    ∃ pattern, IsFragment (escaped text) pattern ∧ groupNames flags (escaped text) = [] ∧
      ∀ line, pattern.matchesStart line = true ↔ ∃ read ∈ sameText text, read <+: line := by
  have hstarts : Starts flags Unrepeated (escaped text) ⟨[], literalParts flags text, 0, []⟩ := by
    have happend := starts_nil.append (@follows_escaped _ flags rfl text)
    rwa [Beginning.extended, List.append_nil] at happend
  refine ⟨_, ⟨hstarts.parse ⟨nofun, nofun⟩, ?_⟩, ?_,
    matchesStart_iff_of_reads (reads_literal rfl text)⟩
  · refine (asksForGroup_sequencePattern _).mpr fun item hitem ↦ ?_
    obtain ⟨c, -, rfl⟩ := List.mem_map.mp (List.mem_reverse.mp hitem)
    rfl
  · exact List.eq_nil_iff_forall_not_mem.mpr fun name hname ↦
      List.not_mem_nil (hstarts.mem_names ⟨nofun, nofun⟩ name hname)

section Owners

variable {first second : List Char} {pattern other : Pattern} [CharacterNames]

/-- Two owners behind the start of a pattern text are an alternative that ends with the first one
and those of the second one. -/
theorem starts_owners (hfirst : IsFragment first pattern) (hsecond : IsFragment second other)
    (hapart : ∀ name ∈ groupNames flags first, name ∉ groupNames flags second)
    {text : List Char} {read : Beginning} (hstarts : Starts flags Unrepeated text read)
    (hnames : read.names = []) :
    ∃ alone both, Starts flags Stops (text ++ first) alone ∧
      Starts flags Stops (text ++ (first ++ '|' :: second)) both ∧
      (∃ more, both.closed = alone.closed ++ alone.last :: more) ∧
      ∀ line, both.pattern.matchesStart line = true ↔
        alone.pattern.matchesStart line = true ∨ other.matchesStart line = true := by
  obtain ⟨closed, last, groups, -, halone⟩ :=
    hstarts.fragment rfl (fun _ ↦ id) hfirst.parse hfirst.asks
    (by rw [hnames]; exact nofun)
  rw [hnames, List.nil_append] at halone
  obtain ⟨both, hboth, hclosed, hmatches⟩ :=
    halone.bar_fragment rfl hsecond.parse hsecond.asks hapart
  rw [List.append_assoc] at hboth
  exact ⟨_, both, halone, hboth, hclosed, hmatches⟩

/-- A notice of two owners, the same notice of the first owner only, and one of the first owner
without a date: where a line starts with a pattern of the first, it starts with one of the others or
with the second owner. -/
theorem exists_patterns_of_owners (both alone undated : Notice) (hfirst : IsFragment first pattern)
    (hsecond : IsFragment second other)
    (hapart : ∀ name ∈ groupNames flags first, name ∉ groupNames flags second)
    {date : Option (Language Char)}
    (hdate : SpellsIfAny both.dateText date) (halone : alone.dateText = both.dateText)
    (hundated : undated.dateText = []) (hboth : piece both.owner = first ++ '|' :: second)
    (hsome : first ≠ []) (hownerAlone : piece alone.owner = first)
    (hownerUndated : piece undated.owner = first) :
    ∃ patterns patternsAlone patternsUndated, both.patterns = .ok patterns ∧
      alone.patterns = .ok patternsAlone ∧ undated.patterns = .ok patternsUndated ∧
      ∀ line, (∃ pattern ∈ patterns, pattern.matchesStart line = true) ↔
        (∃ pattern ∈ patternsAlone, pattern.matchesStart line = true) ∨
        (∃ pattern ∈ patternsUndated, pattern.matchesStart line = true) ∨
        other.matchesStart line = true := by
  simp only [patterns_eq_ok_iff]
  obtain ⟨ended, split, hended, hsplit, ⟨more, hmore⟩, hmatches⟩ :=
    starts_owners hfirst hsecond hapart starts_lead rfl
  have hbothOwner : piece both.owner ≠ [] := by
    rw [hboth]
    exact List.append_ne_nil_of_right_ne_nil first nofun
  rw [patternTexts_of_owner (hownerUndated ▸ hsome) hundated, hownerUndated]
  have hparseEnded := hended.parse stops_bare
  rcases date with _ | date
  · rw [patternTexts_of_owner hbothOwner hdate, hboth,
      patternTexts_of_owner (hownerAlone ▸ hsome) (halone.trans hdate), hownerAlone]
    refine ⟨[split.pattern], [ended.pattern], [ended.pattern], .cons (hsplit.parse stops_bare) .nil,
      .cons hparseEnded .nil, .cons hparseEnded .nil, fun line ↦ ?_⟩
    simp only [List.mem_singleton, exists_eq_left, hmatches]
    exact (or_self_left ..).symm
  · obtain ⟨hdateText, dateParts, hfollows, -⟩ := hdate
    obtain ⟨datedEnded, datedSplit, hdatedEnded, hdatedSplit, -, hdatedMatches⟩ :=
      starts_owners hfirst hsecond hapart
        ((starts_lead.append hfollows).append (follows_separator fun _ ↦ ⟨nofun, nofun⟩)) rfl
    have hbehind {read : Beginning} {text : List Char} (hstarts : Starts flags Stops text read) :=
      ((hstarts.append (follows_separator stops_separator)).append hfollows).parse ⟨nofun, nofun⟩
    rw [patternTexts_of_both hbothOwner hdateText, hboth,
      patternTexts_of_both (hownerAlone ▸ hsome) (halone ▸ hdateText), halone, hownerAlone]
    refine ⟨_, _, _, .cons (hdatedSplit.parse stops_bare) (.cons (hbehind hsplit) .nil),
      .cons (hdatedEnded.parse stops_bare) (.cons (hbehind hended) .nil), .cons hparseEnded .nil,
      fun line ↦ ?_⟩
    simp only [List.exists_mem_cons_iff, List.not_mem_nil, false_and, exists_false, or_false,
      hdatedMatches]
    constructor
    · rintro ((hline | hline) | hline)
      · exact .inl (.inl hline)
      · exact .inr (.inr hline)
      · -- The date behind the second owner asks for more than the second owner alone.
        exact .inr ((hmatches line).mp
          (Beginning.matchesStart_of_extended (Beginning.matchesStart_of_extended hline)))
    · have hclosed : ((split.extended [blanksPart 1, optionalComma]).extended dateParts).closed =
          ended.closed ++ ended.last :: more := hmore
      have hundated (hline : ended.pattern.matchesStart line = true) :=
        Beginning.matchesStart_of_closed hclosed hline
      rintro ((hline | hline) | hline | hline)
      · exact .inl (.inl hline)
      · exact .inr (hundated
          (Beginning.matchesStart_of_extended (Beginning.matchesStart_of_extended hline)))
      · exact .inr (hundated hline)
      · exact .inl (.inr hline)

/-- A bar in the owner separates two alternatives of every pattern of a notice. A line makes the
matcher hold exactly if the matcher of the first owner holds, with the date or without one, or if
the second owner stands directly behind the first sign. Assumes: the two owners are patterns on
their own that ask for no group and give no two groups the same name, and no blank stands before the
bar. -/
theorem owner_bar_splits_patterns {start stop : Option String}
    (hstart : ∀ c ∈ piece start, c.isDigit = true) (hstop : ∀ c ∈ piece stop, c.isDigit = true)
    (hfirst : IsFragment (trimStart first) pattern) (hsecond : IsFragment (trimEnd second) other)
    (hapart : ∀ name ∈ groupNames flags (trimStart first), name ∉ groupNames flags (trimEnd second))
    (hsome : first ≠ []) (htrim : trimEnd first = first) :
    ∃ patterns alone undated,
      (⟨start, stop, some (String.ofList (first ++ '|' :: second))⟩ : Notice).patterns =
        .ok patterns ∧
      (⟨start, stop, some (String.ofList first)⟩ : Notice).patterns = .ok alone ∧
      (⟨none, none, some (String.ofList first)⟩ : Notice).patterns = .ok undated ∧
      ∀ line, stepNotice patterns .unknown line = .holds ↔
        stepNotice alone .unknown line = .holds ∨ stepNotice undated .unknown line = .holds ∨
          ∃ behind, FirstSign line behind ∧ other.matchesStart behind = true := by
  have howner : piece (some (String.ofList first)) = trimStart first := by
    rw [piece, Option.getD_some, String.toList_ofList, trim_of_trimEnd htrim]
  have howners : piece (some (String.ofList (first ++ '|' :: second))) =
      trimStart first ++ '|' :: trimEnd second := by
    rw [piece, Option.getD_some, String.toList_ofList, trim_append_cons (by decide)]
  obtain ⟨patterns, alone, undated, hpatterns, halone, hundated, hmatches⟩ :=
    exists_patterns_of_owners ⟨start, stop, some (String.ofList (first ++ '|' :: second))⟩
      ⟨start, stop, some (String.ofList first)⟩ ⟨none, none, some (String.ofList first)⟩
      hfirst hsecond hapart (dateText_spells hstart hstop) rfl rfl howners
      (trimStart_ne_nil htrim hsome) howner howner
  refine ⟨patterns, alone, undated, hpatterns, halone, hundated, fun line ↦ ?_⟩
  simp only [stepNotice_eq_holds_iff, hmatches, and_or_left, exists_or]

end Owners

section Sample

open Sample

/-- The date and the blank behind the sign are not asked for in front of the second owner. -/
theorem owner_bar_splits_patterns_undated :
    ∃ patterns alone undated pattern,
      IsFragment "Bar".toList pattern ∧
      (⟨some "2010", none, some "Foo|Bar"⟩ : Notice).patterns = .ok patterns ∧
      (⟨some "2010", none, some "Foo"⟩ : Notice).patterns = .ok alone ∧
      (⟨none, none, some "Foo"⟩ : Notice).patterns = .ok undated ∧
      stepNotice patterns .unknown "(c)Bar".toList = .holds := by
  obtain ⟨first, hfirst, hnames, -⟩ := isFragment_escaped "Foo".toList
  obtain ⟨second, hsecond, -, hmatches⟩ := isFragment_escaped "Bar".toList
  have hstart : ∀ c ∈ piece (some "2010"), c.isDigit = true := List.all_eq_true.mp (by rfl)
  obtain ⟨patterns, alone, undated, hpatterns, halone, hundated, hlines⟩ :=
    @owner_bar_splits_patterns "Foo".toList "Bar".toList first second _ (some "2010") none hstart
      nofun hfirst hsecond
      (by rw [show groupNames flags (trimStart "Foo".toList) = [] from hnames]; exact nofun)
      (by decide) (by decide)
  have hbehind : FirstSign "(c)Bar".toList "Bar".toList :=
    afterSign?_eq_some_iff.mp (by decide +kernel)
  have hread : "Bar".toList ∈ sameText "Bar".toList :=
    List.forall₂_same.mpr fun c _ ↦ sameLetterCode_refl c.toNat
  exact ⟨patterns, alone, undated, second, hsecond, hpatterns, halone, hundated,
    (hlines _).mpr (.inr (.inr ⟨_, hbehind, (hmatches _).mpr ⟨_, hread, List.prefix_rfl⟩⟩))⟩

/-- Two owners with a bar between them are found where neither of them is: the blank behind the sign
is not asked for in front of the second. -/
theorem bar_finds_more_than_owners :
    (Pattern.parse flags "Foo".toList).isOk = true ∧
    (Pattern.parse flags "Bar".toList).isOk = true ∧
      (["Foo|Bar", "Foo", "Bar"].map fun owner ↦
        (⟨none, none, some owner⟩ : Notice).patterns.toOption.map fun patterns ↦
          stepNotice patterns .unknown "(c)Bar".toList) =
        [some .holds, some .unknown, some .unknown] := by
  decide +kernel

end Sample

end LicenseHeaders.Matcher.Notice
