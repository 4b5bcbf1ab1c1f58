import LicenseHeaders.Proofs.Regex.Literal

/-!
# Pattern texts put together

The text of a pattern is put together from pieces. Of its start one knows what it is read as
(`Starts`), and of a piece which parts it adds behind anything that it may follow (`Follows`). A bar
closes the alternative that is under way, and a fragment that is a pattern on its own goes on with
it (`Starts.fragment`): its first alternative becomes the end of the open one, and the end of its
last alternative is left open. So a piece behind a fragment with a bar in it says nothing about the
alternatives before the bar (`Starts.bar_fragment`).

Where the parts match the texts of a language whatever comes after them, so do parts put together
(`Spells`, `Opens`).
-/

set_option autoImplicit false
set_option relaxedAutoImplicit false

namespace LicenseHeaders.Regex

open Text Reading

open scoped Computability

/-! ### Starts and pieces -/

/-- A sequence whose parts look back over texts of one width only. -/
def LooksBackFixed (parts : List Item) : Prop :=
  ∀ item ∈ parts, item.2.looksBackFixed = true

/-- The pattern that a beginning is, if nothing stands behind it. -/
def Beginning.pattern (read : Beginning) : Pattern :=
  branched read.closed read.last

/-- A beginning with more parts in the open alternative. -/
def Beginning.extended (read : Beginning) (parts : List Item) : Beginning :=
  { read with last := parts ++ read.last }

/-- The start of a pattern text is read as the given beginning, whatever stands behind it, as far as
it `may` stand there. -/
def Starts [CharacterNames] (flags : Flags) (may : List Token → Prop) (text : List Char)
    (read : Beginning) : Prop :=
  ∃ tokens, tokens? text = some tokens ∧ Begins flags may tokens read ∧
    ∀ items ∈ read.closed ++ [read.last], LooksBackFixed items

/-- A piece of pattern text that `may` stand behind others is read as the given parts, unless a
repetition sign follows. -/
def Follows [CharacterNames] (flags : Flags) (may : List Token → Prop) (text : List Char)
    (parts : List Item) : Prop :=
  ∃ tokens, tokens? text = some tokens ∧ Adds flags Unrepeated tokens parts ∧ LooksBackFixed parts ∧
    ∀ more, Unrepeated more → may (tokens ++ more)

section Composition

variable {flags : Flags} {may : List Token → Prop} {text piece : List Char} {read : Beginning}
  {parts items : List Item}

theorem LooksBackFixed.append (hparts : LooksBackFixed parts) (hitems : LooksBackFixed items) :
    LooksBackFixed (parts ++ items) :=
  List.forall_mem_append.mpr ⟨hparts, hitems⟩

/-- A beginning that matches with more parts in it matches without them. -/
theorem Beginning.matchesStart_of_extended {line : List Char}
    (hmatches : (read.extended parts).pattern.matchesStart line = true) :
    read.pattern.matchesStart line = true := by
  obtain ⟨items, hitems, hline⟩ := (matchesStart_branched line).mp hmatches
  rw [Beginning.pattern, matchesStart_branched]
  rcases List.mem_append.mp hitems with hclosed | hlast
  · exact ⟨items, List.mem_append_left _ hclosed, hline⟩
  · cases List.mem_singleton.mp hlast
    exact ⟨read.last, List.mem_append_right _ List.mem_cons_self, matchesStart_of_append hline⟩

/-- A beginning that has closed all that another one has read matches where that one does. -/
theorem Beginning.matchesStart_of_closed {further : Beginning} {more : List (List Item)}
    (hclosed : further.closed = read.closed ++ read.last :: more) {line : List Char}
    (hmatches : read.pattern.matchesStart line = true) :
    further.pattern.matchesStart line = true := by
  obtain ⟨items, hitems, hline⟩ := (matchesStart_branched line).mp hmatches
  rw [Beginning.pattern, matchesStart_branched, hclosed]
  refine ⟨items, List.mem_append_left _ ?_, hline⟩
  rcases List.mem_append.mp hitems with hbefore | hlast
  · exact List.mem_append_left _ hbefore
  · cases List.mem_singleton.mp hlast
    exact List.mem_append_right _ List.mem_cons_self

variable [CharacterNames]

theorem Starts.append (hstarts : Starts flags may text read)
    (hfollows : Follows flags may piece parts) :
    Starts flags Unrepeated (text ++ piece) (read.extended parts) := by
  obtain ⟨tokens, htokens, hbegins, hfixed⟩ := hstarts
  obtain ⟨behind, hbehind, hadds, hpiece, hmay⟩ := hfollows
  obtain ⟨hclosed, hlast⟩ := List.forall_mem_append.mp hfixed
  exact ⟨tokens ++ behind, tokens?_append htokens hbehind, hbegins.add hadds hmay,
    List.forall_mem_append.mpr ⟨hclosed, List.forall_mem_singleton.mpr
      (hpiece.append (List.forall_mem_singleton.mp hlast))⟩⟩

theorem Follows.append (hfollows : Follows flags may text parts)
    (hpiece : Follows flags Unrepeated piece items) :
    Follows flags may (text ++ piece) (items ++ parts) := by
  obtain ⟨tokens, htokens, hadds, hfixed, hmay⟩ := hfollows
  obtain ⟨behind, hbehind, haddsPiece, hfixedPiece, hbefore⟩ := hpiece
  refine ⟨tokens ++ behind, tokens?_append htokens hbehind, hadds.append haddsPiece hbefore,
    hfixedPiece.append hfixed, fun more hmore ↦ ?_⟩
  rw [List.append_assoc]
  exact hmay _ (hbefore more hmore)

/-- A start with nothing behind it is a pattern. -/
theorem Starts.parse (hstarts : Starts flags may text read) (hmay : may []) :
    Pattern.parse flags text = .ok read.pattern := by
  obtain ⟨tokens, htokens, hbegins, hfixed⟩ := hstarts
  exact hbegins.parse hmay htokens (looksBackFixed_branched.mpr fun items hitems ↦
    (looksBackFixed_sequencePattern items).mpr (hfixed items hitems))

/-- A start with nothing behind it opens the groups that it has read. -/
theorem Starts.mem_names (hstarts : Starts flags may text read) (hmay : may []) :
    ∀ name ∈ groupNames flags text, name ∈ read.names := by
  obtain ⟨tokens, htokens, hbegins, -⟩ := hstarts
  exact hbegins.mem_names hmay htokens

theorem starts_nil : Starts flags may [] ⟨[], [], 0, []⟩ :=
  ⟨[], rfl, begins_nil, List.forall_mem_singleton.mpr nofun⟩

/-- A bar closes the alternative that is under way. -/
theorem Starts.bar (hstarts : Starts flags may text read)
    (hmay : ∀ more, may (.plain '|' :: more)) :
    Starts flags (fun _ ↦ True) (text ++ ['|'])
      { read with closed := read.closed ++ [read.last], last := [] } := by
  obtain ⟨tokens, htokens, hbegins, hfixed⟩ := hstarts
  exact ⟨tokens ++ [.plain '|'], tokens?_append htokens rfl, hbegins.bar hmay,
    List.forall_mem_append.mpr ⟨hfixed, List.forall_mem_singleton.mpr nofun⟩⟩

end Composition

/-! ### Fragments -/

section Fragments

variable {flags : Flags} {may : List Token → Prop} {text piece : List Char} {read : Beginning}
  {pattern : Pattern}

/-- A repetition sign without a part before it is refused. -/
theorem partFrom_sign_nil [CharacterNames] (hverbose : flags.verbose = false) {sign : Char}
    (hsign : sign ∈ ['?', '+'])
    (fuel : Nat) (progress : Progress) :
    partFrom fuel flags [] (.plain sign) progress = .error .invalid := by
  simp only [partFrom, hverbose, Bool.false_and, Bool.false_eq_true, if_false]
  rw [List.mem_cons, List.mem_singleton] at hsign
  rcases hsign with rfl | rfl <;> rfl

/-- A pattern does not start with a repetition sign. -/
theorem unrepeated_of_parse [CharacterNames] (hverbose : flags.verbose = false)
    {tokens more : List Token} (hparse : Pattern.parse flags piece = .ok pattern)
    (htokens : tokens? piece = some tokens) (hmore : Unrepeated more) :
    Unrepeated (tokens ++ more) := by
  obtain ⟨_, left, hpiece, halternatives, -⟩ := parse_eq_ok hparse
  cases htokens.symm.trans hpiece
  rcases tokens with _ | ⟨token, rest⟩
  · exact hmore
  have hnone : ∀ sign ∈ ['?', '+'], token ≠ .plain sign := by
    rintro sign hsign rfl
    obtain ⟨first, middle, hsequence, -⟩ := bind_eq_ok_iff.mp halternatives
    have hrest : (Progress.start (.plain sign :: rest)).rest = .plain sign :: rest := rfl
    have hplain : (Token.plain sign ≠ .plain '|') ∧ Token.plain sign ≠ .plain ')' := by
      rw [List.mem_cons, List.mem_singleton] at hsign
      rcases hsign with rfl | rfl <;> exact ⟨nofun, nofun⟩
    rw [sequence_of_cons _ flags [] hrest hplain.1 hplain.2] at hsequence
    obtain ⟨items, reached, hpart, -⟩ := bind_eq_ok_iff.mp hsequence
    rw [partFrom_sign_nil hverbose hsign] at hpart
    cases hpart
  exact ⟨fun h ↦ hnone '?' List.mem_cons_self (Option.some.inj h),
    fun h ↦ hnone '+' (List.mem_cons_of_mem _ List.mem_cons_self) (Option.some.inj h)⟩

/-- A sequence behind others looks back over texts of one width only if both do. -/
theorem LooksBackFixed.behind {before items : List Item} (hbefore : LooksBackFixed before)
    (hitems : LooksBackFixed items) (shift : Nat) : LooksBackFixed (behind shift before items) := by
  refine LooksBackFixed.append (fun item hitem ↦ ?_) hbefore
  obtain ⟨item, hmem, rfl⟩ := List.mem_map.mp hitem
  exact (item.2.looksBackFixed_renumbered shift).trans (hitems item hmem)

theorem looksBackFixed_spliced {closed : List (List Item)} {last : List Item}
    (hread : ∀ items ∈ read.closed ++ [read.last], LooksBackFixed items)
    (hpiece : ∀ items ∈ closed ++ [last], LooksBackFixed items) (shift : Nat) :
    ∀ items ∈ (spliced shift read.closed read.last closed last).1 ++
      [(spliced shift read.closed read.last closed last).2], LooksBackFixed items := by
  obtain ⟨hclosed, hlast⟩ := List.forall_mem_append.mp hread
  have hlast : LooksBackFixed read.last := List.forall_mem_singleton.mp hlast
  have hnil : LooksBackFixed [] := nofun
  rcases closed with _ | ⟨first, closed⟩
  · exact List.forall_mem_append.mpr ⟨hclosed, List.forall_mem_singleton.mpr
      (hlast.behind (List.forall_mem_singleton.mp hpiece) shift)⟩
  · obtain ⟨hfirst, hrest⟩ := List.forall_mem_cons.mp hpiece
    obtain ⟨hrest, hend⟩ := List.forall_mem_append.mp hrest
    refine List.forall_mem_append.mpr ⟨List.forall_mem_append.mpr ⟨hclosed,
      List.forall_mem_cons.mpr
      ⟨hlast.behind hfirst shift, List.forall_mem_map.mpr fun items hitems ↦ ?_⟩⟩,
      List.forall_mem_singleton.mpr (hnil.behind (List.forall_mem_singleton.mp hend) shift)⟩
    exact hnil.behind (hrest items hitems) shift

/-- A pattern that asks for no group is read as a fragment behind the start of a text. -/
theorem Starts.fragment [CharacterNames] (hverbose : flags.verbose = false)
    (hstarts : Starts flags may text read) (hmay : ∀ more, Unrepeated more → may more)
    (hparse : Pattern.parse flags piece = .ok pattern) (hasks : pattern.asksForGroup = false)
    (hapart : ∀ name ∈ read.names, name ∉ groupNames flags piece) :
    ∃ closed last groups, pattern = branched closed last ∧
      Starts flags Stops (text ++ piece)
        ⟨(spliced read.groups read.closed read.last closed last).1,
          (spliced read.groups read.closed read.last closed last).2, groups,
          read.names ++ groupNames flags piece⟩ := by
  obtain ⟨tokens, htokens, hbegins, hfixed⟩ := hstarts
  obtain ⟨behind, closed, last, groups, hbehind, rfl, hfragment⟩ :=
    Begins.fragment hverbose hparse hasks
  obtain ⟨_, _, _, _, _, _, hfixedPiece⟩ := parse_eq_ok hparse
  refine ⟨closed, last, _, rfl, tokens ++ behind, tokens?_append htokens hbehind,
    hfragment may tokens read hbegins (fun more hmore ↦ hmay _ ?_) hapart,
    looksBackFixed_spliced hfixed (fun items hitems ↦ ?_) _⟩
  · exact unrepeated_of_parse hverbose hparse hbehind
      ⟨hmore.mark '?' List.mem_cons_self, hmore.mark '+' (by decide)⟩
  · exact (looksBackFixed_sequencePattern items).mp
      (looksBackFixed_branched.mp hfixedPiece items hitems)

/-- A bar goes on with nothing. -/
theorem stops_bar (more : List Token) : Stops (.plain '|' :: more) where
  mark := by
    rintro c hc ⟨⟩
    exact absurd hc (by decide)
  digit := by rintro c ⟨⟩; rfl
  comma := nofun

/-- What stands behind a bar is matched on its own. -/
theorem Starts.bar_fragment [CharacterNames] (hverbose : flags.verbose = false)
    (hstarts : Starts flags Stops text read)
    (hparse : Pattern.parse flags piece = .ok pattern) (hasks : pattern.asksForGroup = false)
    (hapart : ∀ name ∈ read.names, name ∉ groupNames flags piece) :
    ∃ further, Starts flags Stops (text ++ '|' :: piece) further ∧
      (∃ more, further.closed = read.closed ++ read.last :: more) ∧
      ∀ line, further.pattern.matchesStart line = true ↔
        read.pattern.matchesStart line = true ∨ pattern.matchesStart line = true := by
  obtain ⟨closed, last, groups, rfl, hfurther⟩ :=
    (hstarts.bar stops_bar).fragment hverbose (fun _ _ ↦ trivial) hparse hasks hapart
  rw [List.append_assoc, List.singleton_append] at hfurther
  refine ⟨_, hfurther, ?_, fun line ↦ ?_⟩
  · rw [spliced_nil]
    exact ⟨closed.map (behind read.groups []), List.append_assoc ..⟩
  · have hmap : (spliced read.groups (read.closed ++ [read.last]) [] closed last).1 ++
        [(spliced read.groups (read.closed ++ [read.last]) [] closed last).2] =
          (read.closed ++ [read.last]) ++ (closed ++ [last]).map (behind read.groups []) := by
      rw [spliced_nil, List.map_append, List.map_singleton, List.append_assoc]
    rw [Beginning.pattern, Beginning.pattern, matchesStart_branched, matchesStart_branched,
      matchesStart_branched, hmap]
    simp only [List.mem_append (s := read.closed ++ [read.last]), List.mem_map,
      or_and_right, exists_or, exists_exists_and_eq_and]
    refine or_congr_right (exists_congr fun items ↦ and_congr_right fun hitems ↦ ?_)
    rw [matchesStart_behind (asksForGroup_branched.mp hasks items hitems)]

end Fragments

/-! ### Languages -/

variable [CharacterNames]

/-- A piece of pattern text is read as parts which together match the texts of a language. -/
def Spells (flags : Flags) (text : List Char) (language : Language Char) : Prop :=
  ∃ parts, Follows flags Unrepeated text parts ∧ Reads (sequencePattern parts).run language

/-- The start of a pattern text is read as parts which together match the texts of a language. -/
def Opens (flags : Flags) (text : List Char) (language : Language Char) : Prop :=
  ∃ parts groups, Starts flags Unrepeated text ⟨[], parts, groups, []⟩ ∧
    Reads (sequencePattern parts).run language

section Languages

variable {flags : Flags} {text piece : List Char} {language other : Language Char}

theorem Spells.append (hspells : Spells flags text language) (hpiece : Spells flags piece other) :
    Spells flags (text ++ piece) (language * other) := by
  obtain ⟨parts, hfollows, hreads⟩ := hspells
  obtain ⟨items, hfollowsPiece, hreadsPiece⟩ := hpiece
  exact ⟨items ++ parts, hfollows.append hfollowsPiece,
    reads_sequencePattern_append hreadsPiece hreads⟩

theorem Opens.append (hopens : Opens flags text language) (hpiece : Spells flags piece other) :
    Opens flags (text ++ piece) (language * other) := by
  obtain ⟨parts, groups, hstarts, hreads⟩ := hopens
  obtain ⟨items, hfollows, hreadsPiece⟩ := hpiece
  exact ⟨items ++ parts, groups, hstarts.append hfollows,
    reads_sequencePattern_append hreadsPiece hreads⟩

/-- A pattern text that spells a language matches the texts that start with a text of it. -/
theorem Opens.parse (hopens : Opens flags text language) :
    ∃ pattern, Pattern.parse flags text = .ok pattern ∧
      ∀ line, pattern.matchesStart line = true ↔ ∃ read ∈ language, read <+: line := by
  obtain ⟨parts, groups, hstarts, hreads⟩ := hopens
  exact ⟨_, hstarts.parse ⟨nofun, nofun⟩, matchesStart_iff_of_reads hreads⟩

/-- A text with backslashes is a piece of pattern text. -/
theorem follows_escaped (hverbose : flags.verbose = false) (text : List Char) :
    Follows flags Unrepeated (escaped text) (literalParts flags text) := by
  refine ⟨escapedTokens text, tokens?_escaped text,
    fun more _ ↦ adds_escaped hverbose text more trivial, ?_, ?_⟩
  · intro item hitem
    obtain ⟨c, -, rfl⟩ := List.mem_map.mp (List.mem_reverse.mp hitem)
    rfl
  · rintro more hmore
    rcases text with _ | ⟨c, text⟩
    · exact hmore
    · rw [escapedTokens, List.map_cons, List.cons_append, Unrepeated, List.head?_cons]
      by_cases hc : hasMeaning c = true
      · rw [if_pos hc]
        exact ⟨nofun, nofun⟩
      · rw [if_neg hc]
        constructor <;> rintro ⟨⟩ <;> exact hc rfl

/-- A text with backslashes spells the texts that are the same without regard to case. -/
theorem spells_escaped (hverbose : flags.verbose = false) (hfolding : flags.folding = .everyScript)
    (text : List Char) : Spells flags (escaped text) (sameText text) :=
  ⟨_, follows_escaped hverbose text, reads_literal hfolding text⟩

end Languages

end LicenseHeaders.Regex
