import LicenseHeaders.Proofs.Regex.Sequences
import LicenseHeaders.Proofs.Regex.Spelling
import Mathlib.Data.List.Basic

/-!
# Fragments put into a pattern

A pattern text is read from its start: some alternatives are closed, and one is under way
(`readBranches`). A fragment that stands there goes on with the alternative that is under way, and
its own last alternative is then the open one (`spliced`, `readBranches_of_alternatives`). `Begins`
and `Adds` say of the start of a text and of a piece of it what they are read as, whatever stands
behind. So what a text is read as can be put together from what its pieces are (`Begins.add`,
`Begins.bar`, `Begins.fragment`).

Alternatives match where one of them does (`matchesStart_branched`), and a sequence that matches
does so without its last parts (`matchesStart_of_append`).
-/

set_option autoImplicit false
set_option relaxedAutoImplicit false

namespace LicenseHeaders.Regex

open Reading

/-! ### Alternatives under way -/

/-- Alternatives that are closed, before the rest of a pattern. -/
def beforeRest (closed : List (List Item)) (rest : Pattern) : Pattern :=
  closed.foldr (fun items rest ↦ .alt (sequencePattern items) rest) rest

/-- The alternatives with the given parts. -/
def branched (closed : List (List Item)) (last : List Item) : Pattern :=
  beforeRest closed (sequencePattern last)

/-- Reads alternatives from where some of them are closed and the next has the parts `last`. The
first bound is for what is left of the open alternative, the second for those after it. -/
def readBranches [Text.CharacterNames] (fuel further : Nat) (flags : Flags)
    (closed : List (List Item)) (last : List Item) : Reading Pattern := do
  let first ← sequence fuel flags last
  if ← accept '|' then
    return beforeRest closed (.alt first (← alternatives further flags))
  else return beforeRest closed first

theorem beforeRest_concat (closed : List (List Item)) (items : List Item) (rest : Pattern) :
    beforeRest (closed ++ [items]) rest = beforeRest closed (.alt (sequencePattern items) rest) :=
  List.foldr_append

theorem alternatives_succ [Text.CharacterNames] (fuel : Nat) (flags : Flags) :
    alternatives (fuel + 1) flags = readBranches fuel fuel flags [] [] :=
  rfl

section Branches

variable {flags : Flags} {closed : List (List Item)} {last : List Item} {progress : Progress}
  [Text.CharacterNames]

theorem readBranches_of_sequence {fuel bound : Nat} {items : List Item} {reached : Progress}
    (hsequence : sequence fuel flags last progress = sequence bound flags items reached)
    (further : Nat) :
    readBranches fuel further flags closed last progress =
      readBranches bound further flags closed items reached := by
  change (sequence fuel flags last progress).bind _ = (sequence bound flags items reached).bind _
  rw [hsequence]

theorem readBranches_of_nil (fuel further : Nat) (hrest : progress.rest = []) :
    readBranches (fuel + 1) further flags closed last progress =
      .ok (branched closed last, progress) := by
  have hends : EndsSequence progress.rest := by
    rw [hrest]
    exact nofun
  rw [readBranches, bind_of_eq_ok (sequence_of_ends fuel flags last hends),
    bind_of_eq_ok (accept_of_head (by rw [hrest]; exact nofun))]
  rfl

theorem readBranches_of_bar (fuel further : Nat) {rest : List Token}
    (hrest : progress.rest = .plain '|' :: rest) :
    readBranches (fuel + 1) (further + 1) flags closed last progress =
      readBranches further further flags (closed ++ [last]) [] { progress with rest := rest } := by
  have hends : EndsSequence progress.rest := by
    rw [hrest]
    rintro token ⟨⟩
    exact .inl rfl
  have hbar : accept '|' progress = .ok (true, { progress with rest := rest }) := by
    rw [accept_apply, hrest]
    exact if_pos rfl
  rw [readBranches, bind_of_eq_ok (sequence_of_ends fuel flags last hends), bind_of_eq_ok hbar,
    if_pos rfl, alternatives_succ]
  simp only [readBranches, bind_assoc, beforeRest_concat]
  refine congrArg (fun reader ↦ (sequence further flags [] >>= reader) _)
    (funext fun first ↦ congrArg (accept '|' >>= ·) (funext fun bar ↦ ?_))
  cases bar with
  | false => rw [if_neg Bool.false_ne_true, if_neg Bool.false_ne_true, pure_bind]; rfl
  | true =>
    rw [if_pos rfl, if_pos rfl, bind_assoc]
    refine congrArg (alternatives further flags >>= ·) (funext fun rest ↦ ?_)
    rw [pure_bind]
    rfl

end Branches

/-! ### A fragment inside a pattern -/

/-- The alternatives of a fragment behind what was read before it: its first alternative goes on
with the open one there. -/
def spliced (shift : Nat) (done : List (List Item)) (before : List Item) :
    List (List Item) → List Item → List (List Item) × List Item
  | [], last => (done, behind shift before last)
  | first :: closed, last =>
    (done ++ behind shift before first :: closed.map (behind shift []), behind shift [] last)

theorem spliced_concat (shift : Nat) (done : List (List Item)) (before first : List Item)
    (closed : List (List Item)) (last : List Item) :
    spliced shift (done ++ [behind shift before first]) [] closed last =
      spliced shift done before (first :: closed) last := by
  cases closed with
  | nil => rfl
  | cons second closed =>
    simp only [spliced, List.append_assoc, List.singleton_append, List.map_cons]

theorem spliced_nil (shift : Nat) (done closed : List (List Item)) (last : List Item) :
    spliced shift done [] closed last =
      (done ++ closed.map (behind shift []), behind shift [] last) := by
  cases closed with
  | nil => rw [spliced, List.map_nil, List.append_nil]
  | cons first closed => rfl

/-- Alternatives that are a fragment of their own are read alike inside a longer pattern, up to the
end of the last one, which stays open there. -/
theorem readBranches_of_alternatives [Text.CharacterNames] {flags : Flags}
    (hverbose : flags.verbose = false) (fuel : Nat) :
    ∀ inner pattern left, alternatives (fuel + 1) flags inner = .ok (pattern, left) →
      left.rest = [] → Grows inner left ∧ ∃ closed last, pattern = branched closed last ∧
        ∀ (around : Surroundings) (outer : Progress) (bound further : Nat)
          (done : List (List Item)) (before : List Item),
          Stops around.more → StandsIn around inner outer → Fits around pattern left →
            fuel ≤ bound → fuel ≤ further →
            ∃ bound' further' reached, StandsIn around left reached ∧
              min bound further ≤ bound' + inner.rest.length ∧
              min bound further ≤ further' + inner.rest.length ∧
              readBranches bound further flags done before outer =
                readBranches bound' further' flags (spliced around.groups done before closed last).1
                  (spliced around.groups done before closed last).2 reached := by
  induction fuel with
  | zero =>
    intro inner pattern left h
    obtain ⟨first, middle, hfirst, -⟩ := bind_eq_ok_iff.mp h
    cases hfirst
  | succ fuel ih =>
    intro inner pattern left h hrest
    obtain ⟨first, middle, hfirst, hbranch⟩ := bind_eq_ok_iff.mp h
    obtain ⟨bar, behindBar, hbar, hlast⟩ := bind_eq_ok_iff.mp hbranch
    obtain ⟨hgrows, hends, final, spent, rfl, hspent, hlength, -, hcarries⟩ :=
      sequenceCarries (fuel + 1) flags [] inner first middle hfirst
    rcases accept_eq_ok hbar with ⟨rfl, rfl⟩ | ⟨rfl, tail, htail, rfl⟩
    · cases hlast
      refine ⟨hgrows, [], final, rfl, ?_⟩
      intro around outer bound further done before hstops hstands hfits hbound hfurther
      obtain ⟨reached, hleft, heq⟩ := hcarries around outer bound before hstops hstands hbound
        ⟨⟨(asksForGroup_sequencePattern final).mp hfits.1, hfits.2⟩, .inl hverbose⟩
      exact ⟨bound - spent, further, reached, hleft, by omega, by omega,
        readBranches_of_sequence heq further⟩
    · obtain ⟨rest, _, halternatives, hpattern⟩ := bind_eq_ok_iff.mp hlast
      cases hpattern
      obtain ⟨hgrowsRest, closed, last, rfl, hrestCarries⟩ := ih _ rest left halternatives hrest
      have hgrowsBar := accept_grows hbar
      refine ⟨(hgrows.trans hgrowsBar).trans hgrowsRest, final :: closed, last, rfl, ?_⟩
      intro around outer bound further done before hstops hstands hfits hbound hfurther
      obtain ⟨hasksFirst, hasksRest⟩ := Bool.or_eq_false_iff.mp hfits.1
      obtain ⟨reached, hmiddle, heq⟩ := hcarries around outer bound before hstops hstands hbound
        ⟨⟨(asksForGroup_sequencePattern final).mp hasksFirst,
          hfits.2.of_grows (hgrowsBar.trans hgrowsRest)⟩, .inl hverbose⟩
      obtain ⟨bound₁, hbound₁⟩ : ∃ less, bound - spent = less + 1 := ⟨bound - spent - 1, by omega⟩
      obtain ⟨further, rfl⟩ : ∃ less, further = less + 1 := ⟨further - 1, by omega⟩
      have hreached : reached.rest = .plain '|' :: (tail ++ around.more) := by
        rw [hmiddle.rest, htail, List.cons_append]
      obtain ⟨bound', further', final', hfinal, hbound', hfurther', hread⟩ :=
        hrestCarries around _ further further (done ++ [behind around.groups before final]) []
          hstops (hmiddle.read tail) ⟨hasksRest, hfits.2⟩ (by omega) (by omega)
      rw [htail, List.length_cons] at hlength
      refine ⟨bound', further', final', hfinal, ?_, ?_, ?_⟩
      · dsimp only at hbound'
        omega
      · dsimp only at hfurther'
        omega
      · refine (readBranches_of_sequence heq _).trans ?_
        rw [hbound₁, readBranches_of_bar _ _ hreached, ← spliced_concat]
        exact hread

/-! ### The beginning of a pattern -/

/-- The progress at the start of a pattern. -/
def Progress.start (tokens : List Token) : Progress :=
  ⟨tokens, 1, [], [], 0, none⟩

/-- What the beginning of a pattern is read as. -/
structure Beginning where
  /-- The parts of the alternatives that are closed. -/
  closed : List (List Item)
  /-- The parts of the open alternative. -/
  last : List Item
  /-- How many groups have opened. -/
  groups : Nat
  /-- The names of those groups. -/
  names : List String

/-- At the start of a pattern the tokens are read as the given beginning, whatever stands behind
them, as far as it `may` stand there. -/
def Begins [Text.CharacterNames] (flags : Flags) (may : List Token → Prop) (tokens : List Token)
    (read : Beginning) :
    Prop :=
  ∀ more, may more → ∀ fuel, 5 * tokens.length + 4 ≤ fuel →
    ∃ bound further reached, fuel ≤ bound + tokens.length ∧ fuel ≤ further + tokens.length ∧
      reached.rest = more ∧ reached.nextGroup = 1 + read.groups ∧
      (∀ name, (reached.names.lookup name).isSome = true → name ∈ read.names) ∧
      reached.asked = 0 ∧
      readBranches fuel fuel flags [] [] (.start (tokens ++ more)) =
        readBranches bound further flags read.closed read.last reached

/-- Behind any parts of a sequence the tokens are read as the given parts, whatever stands behind
them, as far as it `may` stand there. -/
def Adds [Text.CharacterNames] (flags : Flags) (may : List Token → Prop) (tokens : List Token)
    (parts : List Item) : Prop :=
  ∀ more, may more → ∀ fuel items (progress : Progress), 5 * tokens.length ≤ fuel →
    progress.rest = tokens ++ more →
    ∃ bound, fuel ≤ bound + tokens.length ∧
      sequence fuel flags items progress =
        sequence bound flags (parts ++ items) { progress with rest := more }

section Beginnings

variable {flags : Flags} {may mayBehind : List Token → Prop} {tokens piece : List Token}
  {parts other : List Item} {read : Beginning}

theorem adds_nil [Text.CharacterNames] : Adds flags may [] [] := by
  rintro more - fuel items progress - rfl
  exact ⟨fuel, Nat.le_refl _, rfl⟩

theorem Adds.append [Text.CharacterNames] (hadds : Adds flags may tokens parts)
    (hother : Adds flags mayBehind piece other)
    (hmay : ∀ more, mayBehind more → may (piece ++ more)) :
    Adds flags mayBehind (tokens ++ piece) (other ++ parts) := by
  intro more hmore fuel items progress hfuel hrest
  rw [List.length_append] at hfuel
  obtain ⟨middle, hmiddle, hfirst⟩ := hadds (piece ++ more) (hmay more hmore) fuel items progress
    (by omega) (by rw [hrest, List.append_assoc])
  obtain ⟨bound, hbound, hsecond⟩ := hother more hmore middle (parts ++ items)
    { progress with rest := piece ++ more } (by omega) rfl
  refine ⟨bound, by rw [List.length_append]; omega, ?_⟩
  rw [hfirst, hsecond, List.append_assoc]

theorem begins_nil [Text.CharacterNames] : Begins flags may [] ⟨[], [], 0, []⟩ :=
  fun more _ fuel _ ↦
    ⟨fuel, fuel, .start more, Nat.le_refl _, Nat.le_refl _, rfl, rfl, nofun, rfl, rfl⟩

theorem Begins.add [Text.CharacterNames] (hbegins : Begins flags may tokens read)
    (hadds : Adds flags mayBehind piece parts)
    (hmay : ∀ more, mayBehind more → may (piece ++ more)) :
    Begins flags mayBehind (tokens ++ piece) { read with last := parts ++ read.last } := by
  intro more hmore fuel hfuel
  rw [List.length_append] at hfuel
  obtain ⟨bound, further, reached, hbound, hfurther, hrest, hgroups, hnames, hasked, hread⟩ :=
    hbegins (piece ++ more) (hmay more hmore) fuel (by omega)
  obtain ⟨bound', hbound', hsequence⟩ := hadds more hmore bound read.last reached (by omega) hrest
  refine ⟨bound', further, { reached with rest := more }, ?_, ?_, rfl, hgroups, hnames, hasked, ?_⟩
  · rw [List.length_append]
    omega
  · rw [List.length_append]
    omega
  · rw [List.append_assoc, hread]
    exact readBranches_of_sequence hsequence further

/-- A bar closes the open alternative. -/
theorem Begins.bar [Text.CharacterNames] (hbegins : Begins flags may tokens read)
    (hmay : ∀ more, may (.plain '|' :: more)) :
    Begins flags (fun _ ↦ True) (tokens ++ [.plain '|'])
      { read with closed := read.closed ++ [read.last], last := [] } := by
  intro more _ fuel hfuel
  rw [List.length_append, List.length_singleton] at hfuel
  obtain ⟨bound, further, reached, hbound, hfurther, hrest, hgroups, hnames, hasked, hread⟩ :=
    hbegins (.plain '|' :: more) (hmay more) fuel (by omega)
  obtain ⟨bound, rfl⟩ : ∃ less, bound = less + 1 := ⟨bound - 1, by omega⟩
  obtain ⟨further, rfl⟩ : ∃ less, further = less + 1 := ⟨further - 1, by omega⟩
  refine ⟨further, further, { reached with rest := more }, ?_, ?_, rfl, hgroups, hnames, hasked, ?_⟩
  · rw [List.length_append, List.length_singleton]
    omega
  · rw [List.length_append, List.length_singleton]
    omega
  · rw [List.append_assoc, List.singleton_append, hread]
    exact readBranches_of_bar bound further hrest

theorem parse_apply [Text.CharacterNames] {text : List Char}
    (htokens : tokens? text = some tokens) :
    Pattern.parse flags text =
      (alternatives (5 * tokens.length + 5) flags (.start tokens)).bind fun (pattern, left) ↦
        if (!left.rest.isEmpty || decide (left.nextGroup ≤ left.asked)) = true then .error .invalid
        else if (!pattern.looksBackFixed) = true then .error .invalid
        else .ok pattern := by
  simp only [Pattern.parse, htokens, StateT.run, Progress.start, bind, Except.bind]
  rcases alternatives (5 * tokens.length + 5) flags ⟨tokens, 1, [], [], 0, none⟩ with
    _ | ⟨pattern, left⟩
  · rfl
  · dsimp only
    split
    · rfl
    split <;> rfl

/-- A text that is the beginning of a pattern and has nothing behind it is a pattern. -/
theorem Begins.parse [Text.CharacterNames] (hbegins : Begins flags may tokens read) (hmay : may [])
    {text : List Char} (htokens : tokens? text = some tokens)
    (hfixed : (branched read.closed read.last).looksBackFixed = true) :
    Pattern.parse flags text = .ok (branched read.closed read.last) := by
  obtain ⟨bound, further, reached, hbound, hfurther, hrest, hgroups, hnames, hasked, hread⟩ :=
    hbegins [] hmay (5 * tokens.length + 4) (Nat.le_refl _)
  obtain ⟨bound, rfl⟩ : ∃ less, bound = less + 1 := ⟨bound - 1, by omega⟩
  rw [readBranches_of_nil bound further hrest, List.append_nil] at hread
  rw [parse_apply htokens, alternatives_succ, hread]
  simp only [Except.bind, hrest, hgroups, hasked, hfixed, List.isEmpty_nil, Bool.not_true,
    Bool.false_or, decide_eq_true_eq, Bool.false_eq_true, if_false]
  exact if_neg (by omega)

/-- The names of the groups that open in a pattern text. -/
def groupNames [Text.CharacterNames] (flags : Flags) (text : List Char) : List String :=
  match tokens? text with
  | some tokens =>
    match alternatives (5 * tokens.length + 5) flags (.start tokens) with
    | .ok (_, left) => left.names.map Prod.fst
    | .error _ => []
  | none => []

theorem isSome_lookup_iff {names : List (String × Nat)} {name : String} :
    (names.lookup name).isSome = true ↔ name ∈ names.map Prod.fst := by
  induction names with
  | nil => exact ⟨nofun, nofun⟩
  | cons pair names ih =>
    obtain ⟨first, number⟩ := pair
    rw [isSome_lookup_cons, ih, List.map_cons, List.mem_cons]

variable [Text.CharacterNames]

/-- All groups that open in a pattern text are known from what it begins with, if that is all of it.
-/
theorem Begins.mem_names (hbegins : Begins flags may tokens read) (hmay : may []) {text : List Char}
    (htokens : tokens? text = some tokens) : ∀ name ∈ groupNames flags text, name ∈ read.names := by
  obtain ⟨bound, further, reached, hbound, hfurther, hrest, -, hnames, -, hread⟩ :=
    hbegins [] hmay (5 * tokens.length + 4) (Nat.le_refl _)
  obtain ⟨bound, rfl⟩ : ∃ less, bound = less + 1 := ⟨bound - 1, by omega⟩
  rw [readBranches_of_nil bound further hrest, List.append_nil] at hread
  intro name hname
  simp only [groupNames, htokens, alternatives_succ, hread] at hname
  exact hnames name (isSome_lookup_iff.mpr hname)

theorem parse_eq_ok {text : List Char} {pattern : Pattern}
    (hparse : Pattern.parse flags text = .ok pattern) :
    ∃ tokens left, tokens? text = some tokens ∧
      alternatives (5 * tokens.length + 5) flags (.start tokens) = .ok (pattern, left) ∧
      left.rest = [] ∧ groupNames flags text = left.names.map Prod.fst ∧
      pattern.looksBackFixed = true := by
  rcases htokens : tokens? text with _ | tokens
  · rw [Pattern.parse, htokens] at hparse
    cases hparse
  · rw [parse_apply htokens] at hparse
    rcases hread : alternatives (5 * tokens.length + 5) flags (.start tokens) with
      _ | ⟨found, left⟩ <;> rw [hread] at hparse
    · cases hparse
    · simp only [Except.bind] at hparse
      split at hparse
      · cases hparse
      next hend =>
        split at hparse
        · cases hparse
        next hfixed =>
          cases hparse
          refine ⟨tokens, left, rfl, hread, ?_, ?_, ?_⟩
          · by_contra hrest
            refine hend (Bool.or_eq_true_iff.mpr (.inl ?_))
            rwa [Bool.not_eq_true', List.isEmpty_eq_false_iff]
          · simp only [groupNames, htokens, hread]
          · simpa only [Bool.not_eq_true', Bool.not_eq_false] using hfixed

/-- A pattern text that asks for no group is read alike behind the beginning of another. -/
theorem Begins.fragment (hverbose : flags.verbose = false) {text : List Char} {pattern : Pattern}
    (hparse : Pattern.parse flags text = .ok pattern) (hasks : pattern.asksForGroup = false) :
    ∃ piece closed last groups, tokens? text = some piece ∧ pattern = branched closed last ∧
      ∀ may tokens read, Begins flags may tokens read →
        (∀ more, Stops more → may (piece ++ more)) →
        (∀ name ∈ read.names, name ∉ groupNames flags text) →
        Begins flags Stops (tokens ++ piece)
          ⟨(spliced read.groups read.closed read.last closed last).1,
            (spliced read.groups read.closed read.last closed last).2,
            read.groups + groups, read.names ++ groupNames flags text⟩ := by
  obtain ⟨piece, left, hpiece, halternatives, hleft, hnames, -⟩ := parse_eq_ok hparse
  obtain ⟨hgrows, closed, last, rfl, hcarries⟩ :=
    readBranches_of_alternatives hverbose _ _ _ _ halternatives hleft
  have hgroups : 1 ≤ left.nextGroup := hgrows.nextGroup
  refine ⟨piece, closed, last, left.nextGroup - 1, hpiece, rfl, ?_⟩
  intro may tokens read hbegins hmay hapart more hmore fuel hfuel
  rw [List.length_append] at hfuel
  obtain ⟨bound, further, reached, hbound, hfurther, hrest, hnext, htaken, hasked, hread⟩ :=
    hbegins (piece ++ more) (hmay more hmore) fuel (by omega)
  have hstands : StandsIn ⟨more, read.groups, read.names⟩ (.start piece) reached :=
    ⟨hrest, hnext, fun name hname ↦ .inr (htaken name hname), hasked⟩
  have hfits : Fits ⟨more, read.groups, read.names⟩ (branched closed last) left := by
    refine ⟨hasks, fun name hname ↦ ?_⟩
    rw [← Bool.not_eq_true, isSome_lookup_iff, ← hnames]
    exact hapart name hname
  obtain ⟨bound', further', reached', hleft', hbound', hfurther', hread'⟩ :=
    hcarries _ reached bound further read.closed read.last hmore hstands hfits (by omega) (by omega)
  have hlength : (Progress.start piece).rest.length = piece.length := rfl
  rw [hlength] at hbound' hfurther'
  refine ⟨bound', further', reached', ?_, ?_, ?_, ?_, ?_, hleft'.asked, ?_⟩
  · rw [List.length_append]
    omega
  · rw [List.length_append]
    omega
  · rw [hleft'.rest, hleft, List.nil_append]
  · rw [hleft'.nextGroup]
    dsimp only
    omega
  · intro name hname
    rw [List.mem_append, hnames, ← isSome_lookup_iff]
    exact (hleft'.names name hname).symm
  · rw [List.append_assoc, hread, hread']

end Beginnings

/-! ### What alternatives match -/

section Matches

variable {closed : List (List Item)} {last : List Item}

theorem matchesStart_branched (text : List Char) :
    (branched closed last).matchesStart text = true ↔
      ∃ items ∈ closed ++ [last], (sequencePattern items).matchesStart text = true := by
  induction closed with
  | nil =>
    simp only [branched, beforeRest, List.foldr_nil, List.nil_append, List.mem_singleton,
      exists_eq_left]
  | cons items closed ih =>
    have hcons : (branched (items :: closed) last).matchesStart text = true ↔
        (sequencePattern items).matchesStart text = true ∨
          (branched closed last).matchesStart text = true :=
      orElse_isSome _ _
    rw [hcons, ih, List.cons_append, List.exists_mem_cons_iff]

theorem looksBackFixed_branched :
    (branched closed last).looksBackFixed = true ↔
      ∀ items ∈ closed ++ [last], (sequencePattern items).looksBackFixed = true := by
  induction closed with
  | nil =>
    simp only [branched, beforeRest, List.foldr_nil, List.nil_append, List.mem_singleton,
      forall_eq]
  | cons items closed ih =>
    have hcons : (branched (items :: closed) last).looksBackFixed = true ↔
        (sequencePattern items).looksBackFixed = true ∧
          (branched closed last).looksBackFixed = true :=
      Bool.and_eq_true_iff
    rw [hcons, ih, List.cons_append, List.forall_mem_cons]

theorem asksForGroup_branched :
    (branched closed last).asksForGroup = false ↔ ∀ items ∈ closed ++ [last], AskForNone items := by
  induction closed with
  | nil =>
    simp only [branched, beforeRest, List.foldr_nil, List.nil_append, List.mem_singleton, forall_eq,
      asksForGroup_sequencePattern]
  | cons items closed ih =>
    have hcons : (branched (items :: closed) last).asksForGroup = false ↔
        (sequencePattern items).asksForGroup = false ∧
        (branched closed last).asksForGroup = false :=
      Bool.or_eq_false_iff
    rw [hcons, ih, List.cons_append, List.forall_mem_cons, asksForGroup_sequencePattern]

theorem looksBackFixed_foldl (items : List Item) (pattern : Pattern) :
    (items.foldl (fun pattern item ↦ .seq item.2 pattern) pattern).looksBackFixed = true ↔
      (∀ item ∈ items, item.2.looksBackFixed = true) ∧ pattern.looksBackFixed = true := by
  induction items generalizing pattern with
  | nil => simp only [List.foldl_nil, List.not_mem_nil, false_imp_iff, implies_true, true_and]
  | cons item items ih =>
    rw [List.foldl_cons, ih, List.forall_mem_cons, Pattern.looksBackFixed, Bool.and_eq_true]
    exact ⟨fun h ↦ ⟨⟨h.2.1, h.1⟩, h.2.2⟩, fun h ↦ ⟨h.1.2, h.1.1, h.2⟩⟩

theorem looksBackFixed_sequencePattern (items : List Item) :
    (sequencePattern items).looksBackFixed = true ↔
      ∀ item ∈ items, item.2.looksBackFixed = true := by
  rw [sequencePattern, looksBackFixed_foldl]
  exact and_iff_left rfl

/-- Parts before others are matched before them. -/
theorem run_foldl (items : List Item) (pattern : Pattern) (place : Place) (next : Continuation) :
    (items.foldl (fun pattern item ↦ .seq item.2 pattern) pattern).run place next =
      (sequencePattern items).run place fun reached ↦ pattern.run reached next := by
  induction items generalizing pattern place next with
  | nil => rfl
  | cons item items ih =>
    have hcons : sequencePattern (item :: items) =
        items.foldl (fun pattern item ↦ .seq item.2 pattern) (.seq item.2 .empty) := rfl
    rw [List.foldl_cons, ih, hcons, ih]
    rfl

/-- A sequence that matches does so without its last parts. -/
theorem matchesStart_of_append {parts items : List Item} {text : List Char}
    (hmatches : (sequencePattern (parts ++ items)).matchesStart text = true) :
    (sequencePattern items).matchesStart text = true := by
  rw [Pattern.matchesStart, sequencePattern, List.foldl_append, run_foldl] at hmatches
  exact (sequencePattern items).mono_run _ some (fun _ _ ↦ rfl) _ hmatches

/-- A sequence that asks for no group matches the same texts with the numbers of its groups moved
up. -/
theorem matchesStart_behind {items : List Item} (hasks : AskForNone items) (shift : Nat)
    (text : List Char) :
    (sequencePattern (behind shift [] items)).matchesStart text =
      (sequencePattern items).matchesStart text := by
  rw [behind, List.append_nil, ← renumbered_sequencePattern,
    Pattern.matchesStart_renumbered ((asksForGroup_sequencePattern items).mpr hasks)]

end Matches

end LicenseHeaders.Regex
