import LicenseHeaders.Proofs.Regex.Fragment

/-!
# Sequences inside a longer pattern

A sequence reads one part after the other (`sequence_of_cons`), and each part of a fragment is read
alike behind other parts (`carries_partFrom`). A sequence that ends the fragment does not end in the
longer pattern, where the tokens behind the fragment go on with it; so what is known of it is how
far it comes with the parts it has read (`SequenceCarries`). Alternatives and groups inside the
fragment do end there and are read alike as a whole. All of it holds for any bound on the work, by
induction on that bound (`readersCarry`).
-/

set_option autoImplicit false
set_option relaxedAutoImplicit false

namespace LicenseHeaders.Regex

open Reading

/-! ### The parts of a sequence -/

/-- None of the parts of a sequence asks for a group. -/
def AskForNone (items : List Item) : Prop :=
  ∀ item ∈ items, item.2.asksForGroup = false

theorem asksForGroup_foldl (items : List Item) (pattern : Pattern) :
    (items.foldl (fun pattern item ↦ .seq item.2 pattern) pattern).asksForGroup = false ↔
      AskForNone items ∧ pattern.asksForGroup = false := by
  induction items generalizing pattern with
  | nil =>
    simp only [List.foldl_nil, AskForNone, List.not_mem_nil, false_imp_iff, implies_true, true_and]
  | cons item items ih =>
    rw [List.foldl_cons, ih, AskForNone, AskForNone, List.forall_mem_cons, Pattern.asksForGroup,
      Bool.or_eq_false_iff]
    exact ⟨fun h ↦ ⟨⟨h.2.1, h.1⟩, h.2.2⟩, fun h ↦ ⟨h.1.2, h.1.1, h.2⟩⟩

theorem asksForGroup_sequencePattern (items : List Item) :
    (sequencePattern items).asksForGroup = false ↔ AskForNone items := by
  rw [sequencePattern, asksForGroup_foldl]
  exact and_iff_left rfl

theorem renumbered_foldl (shift : Nat) (items : List Item) (pattern : Pattern) :
    (items.foldl (fun pattern item ↦ .seq item.2 pattern) pattern).renumbered shift =
      (items.map (Item.renumbered shift)).foldl (fun pattern item ↦ .seq item.2 pattern)
        (pattern.renumbered shift) := by
  induction items generalizing pattern with
  | nil => rfl
  | cons item items ih => exact ih _

theorem renumbered_sequencePattern (shift : Nat) (items : List Item) :
    (sequencePattern items).renumbered shift =
      sequencePattern (items.map (Item.renumbered shift)) :=
  renumbered_foldl shift items .empty

/-- Reads one part of a sequence from its first token on and puts it to the parts before it. -/
def partFrom [Text.CharacterNames] (fuel : Nat) (flags : Flags) (items : List Item) :
    Token → Reading (List Item)
  | .escaped c => return (← escape flags c) :: items
  | .plain c =>
    if flags.verbose && isSkipped c then return items
    else if flags.verbose && c = '#' then do
      skipRemark
      return items
    else if c = '[' then return (.plain, .one (← charClass flags)) :: items
    else if c = '.' then return (.plain, .one (.any flags.dotAll)) :: items
    else if c = '^' then return (.anchor, .anchor (.start flags.everyLine)) :: items
    else if c = '$' then return (.anchor, .anchor (.finish flags.everyLine)) :: items
    else if c = '(' then do
      match ← bracket fuel flags with
      | some body => return (.plain, body) :: items
      | none => return items
    else do
      match ← repetition? c with
      | some (least, most) => repeatLast least most items
      | none => return (.plain, .one (letterTest flags c.toNat)) :: items

/-- A sequence ends before a bar, before a closing bracket, and with the text. -/
def EndsSequence (tokens : List Token) : Prop :=
  ∀ token ∈ tokens.head?, token = .plain '|' ∨ token = .plain ')'

theorem exists_cons_of_not_endsSequence {tokens : List Token} (hends : ¬ EndsSequence tokens) :
    ∃ token rest, tokens = token :: rest ∧ token ≠ .plain '|' ∧ token ≠ .plain ')' := by
  rcases tokens with _ | ⟨token, rest⟩
  · exact absurd nofun hends
  · refine ⟨token, rest, rfl, ?_⟩
    rw [← not_or]
    intro htoken
    refine hends fun other hother ↦ ?_
    rw [List.head?_cons] at hother
    cases hother
    exact htoken

theorem sequence_of_ends [Text.CharacterNames] (fuel : Nat) (flags : Flags) (items : List Item)
    {progress : Progress} (hends : EndsSequence progress.rest) :
    sequence (fuel + 1) flags items progress = .ok (sequencePattern items, progress) := by
  have hpeek : peek progress = .ok (progress.rest.head?, progress) := rfl
  rw [sequence, bind_of_eq_ok hpeek]
  rcases hhead : progress.rest.head? with _ | token
  · rfl
  · rcases hends token hhead with rfl | rfl <;> rfl

/-- A sequence reads one part after the other. -/
theorem sequence_of_cons [Text.CharacterNames] (fuel : Nat) (flags : Flags) (items : List Item)
    {progress : Progress} {token : Token} {rest : List Token}
    (hrest : progress.rest = token :: rest) (hbar : token ≠ .plain '|')
    (hbracket : token ≠ .plain ')') :
    sequence (fuel + 1) flags items progress =
      (partFrom fuel flags items token >>= sequence fuel flags) { progress with rest := rest } := by
  have hpeek : peek progress = .ok (some token, progress) :=
    congrArg
      (fun tokens : List Token ↦ (Except.ok (tokens.head?, progress) : Except PatternFault _)) hrest
  rw [sequence, bind_of_eq_ok hpeek]
  cases token with
  | escaped c =>
    dsimp only [partFrom]
    rw [next_bind_of_cons hrest]
    simp only [bind_assoc, pure_bind]
  | plain c =>
    have hstop : (decide (c = '|') || decide (c = ')')) = false := by
      rw [Bool.or_eq_false_iff, decide_eq_false_iff_not, decide_eq_false_iff_not]
      exact ⟨fun hc ↦ hbar (congrArg _ hc), fun hc ↦ hbracket (congrArg _ hc)⟩
    dsimp only [partFrom]
    rw [hstop, if_neg Bool.false_ne_true, next_bind_of_cons hrest]
    split
    · rw [pure_bind]
    split
    · rw [bind_assoc]; simp only [pure_bind]
    split
    · simp only [bind_assoc, pure_bind]
    split
    · rw [pure_bind]
    split
    · rw [pure_bind]
    split
    · rw [pure_bind]
    split
    · rw [bind_assoc]
      refine congrArg (fun further ↦ (bracket fuel flags >>= further) _) (funext fun found ↦ ?_)
      cases found with
      | none => rw [pure_bind]
      | some body => rw [pure_bind]
    · rw [bind_assoc]
      refine congrArg (fun further ↦ (repetition? c >>= further) _) (funext fun found ↦ ?_)
      cases found with
      | none => rw [pure_bind]
      | some bounds => rfl

/-- What is sound to assume of a pattern that is read on a fragment: it asks for no group, and the
names of its groups are not taken. -/
def Fits (around : Surroundings) (pattern : Pattern) (left : Progress) : Prop :=
  pattern.asksForGroup = false ∧ Apart around left

/-- The same of the parts of a sequence. -/
def PartsFit (around : Surroundings) (items : List Item) (left : Progress) : Prop :=
  AskForNone items ∧ Apart around left

/-- The parts of a sequence with the numbers of their groups moved up, behind other parts. -/
def behind (shift : Nat) (before items : List Item) : List Item :=
  items.map (Item.renumbered shift) ++ before

section Parts

variable {around : Surroundings}

theorem carries_repeatLast (hstops : Stops around.more) (least : Nat) (most : Option Nat)
    (items before : List Item) :
    Carries around (fun items _ ↦ AskForNone items) (behind around.groups before)
      (repeatLast least most items)
      (repeatLast least most (behind around.groups before items)) := by
  rcases items with _ | ⟨⟨shape, body⟩, items⟩
  · exact .of_refuse
  · cases shape with
    | plain => exact (carriedRelation hstops).greed.bind fun greed ↦ .of_pure rfl
    | anchor => exact .of_refuse
    | repetition => exact .of_refuse

/-- A part that is repeated is one of the sequence. -/
theorem askForNone_of_repeatLast {least : Nat} {most : Option Nat} {items repeated : List Item}
    {inner left : Progress} (h : repeatLast least most items inner = .ok (repeated, left))
    (hrepeated : AskForNone repeated) : AskForNone items := by
  rcases items with _ | ⟨⟨shape, body⟩, items⟩
  · cases h
  · cases shape with
    | plain =>
      obtain ⟨greed, middle, -, h⟩ := bind_eq_ok_iff.mp h
      cases h
      exact List.forall_mem_cons.mpr (List.forall_mem_cons.mp hrepeated)
    | anchor => cases h
    | repetition => cases h

/-- Without blanks to skip no remark is skipped, and a remark that is followed by something ends
within the fragment. -/
theorem carries_skipRemark :
    Carries around (fun _ left ↦ left.rest ≠ []) id skipRemark skipRemark := by
  have hread : ∀ inner left, skipRemark inner = .ok ((), left) →
      (∃ text rest, splitAt? '\n' inner.rest = some (text, rest) ∧
        left = { inner with rest := rest }) ∨
        left = { inner with rest := [] } := by
    intro inner left h
    obtain ⟨seen, middle, hget, h⟩ := bind_eq_ok_iff.mp h
    cases hget
    rcases hsplit : splitAt? '\n' inner.rest with _ | ⟨text, rest⟩ <;> rw [hsplit] at h <;> cases h
    · exact .inr rfl
    · exact .inl ⟨text, rest, rfl, rfl⟩
  refine ⟨fun inner value left h ↦ ?_, fun inner outer value left hstands h hrest ↦ ?_⟩
  · rcases hread inner left h with ⟨text, rest, hsplit, rfl⟩ | rfl
    · exact .read (length_le_of_splitAt? hsplit)
    · exact .read (Nat.zero_le _)
  · rcases hread inner left h with ⟨text, rest, hsplit, rfl⟩ | rfl
    · refine ⟨_, (bind_of_eq_ok rfl _).trans ?_, hstands.read rest⟩
      rw [hstands.rest, splitAt?_append hsplit]
      rfl
    · exact absurd rfl hrest

variable [Text.CharacterNames]

/-- What is known of an opening bracket with a given bound on the work. -/
def BracketCarries (fuel : Nat) : Prop :=
  ∀ around : Surroundings, Stops around.more → ∀ bound, fuel ≤ bound → ∀ flags,
    Carries around (fun found left ↦ ∀ pattern ∈ found, Fits around pattern left)
      (Option.map (Pattern.renumbered around.groups)) (bracket fuel flags) (bracket bound flags)

/-- What is assumed of the parts of a sequence and what is left behind them. -/
def PartsSound (around : Surroundings) (flags : Flags) (items : List Item)
    (left : Progress) : Prop :=
  PartsFit around items left ∧ (flags.verbose = false ∨ left.rest ≠ [])

/-- A part of a sequence is read alike behind other parts. -/
theorem carries_partFrom (hstops : Stops around.more) {fuel bound : Nat} (hfuel : fuel ≤ bound)
    (hbracket : BracketCarries fuel) (flags : Flags) (items before : List Item) (token : Token) :
    Carries around (PartsSound around flags) (behind around.groups before)
      (partFrom fuel flags items token)
      (partFrom bound flags (behind around.groups before items) token) := by
  cases token with
  | escaped c =>
    refine (carries_escape hstops flags c).bind_of (fun item ↦ .of_pure rfl) ?_
    intro item middle items left h hsound
    cases h
    exact (List.forall_mem_cons.mp hsound.1.1).1
  | plain c =>
    dsimp only [partFrom]
    split
    · exact .of_pure rfl
    split
    next hverbose =>
      refine carries_skipRemark.bind_of (fun _ ↦ .of_pure rfl) ?_
      intro _ middle items left h hsound
      cases h
      refine hsound.2.resolve_left fun hfalse ↦ ?_
      rw [hfalse] at hverbose
      cases hverbose
    split
    · exact ((carriedRelation hstops).charClass flags).bind fun test ↦ .of_pure rfl
    split
    · exact .of_pure rfl
    split
    · exact .of_pure rfl
    split
    · exact .of_pure rfl
    split
    · refine (hbracket around hstops bound hfuel flags).bind_of (fun found ↦ ?_) ?_
      · cases found with
        | none => exact .of_pure rfl
        | some body => exact .of_pure rfl
      · intro found middle items left h hsound pattern hpattern
        cases hpattern
        cases h
        exact ⟨(List.forall_mem_cons.mp hsound.1.1).1, hsound.1.2⟩
    · refine (carried_repetition? hstops c).bind fun found ↦ ?_
      cases found with
      | none => exact .of_pure rfl
      | some bounds =>
        refine ⟨(carries_repeatLast hstops _ _ items before).grows, ?_⟩
        intro inner outer items left hstands h hsound
        exact (carries_repeatLast hstops _ _ _ before).carries _ _ _ _ hstands h hsound.1.1

/-- The parts before a part stay in the sequence. -/
theorem askForNone_of_partFrom {fuel : Nat} {flags : Flags} {items extended : List Item}
    {token : Token} {inner left : Progress}
    (h : partFrom fuel flags items token inner = .ok (extended, left))
    (hextended : AskForNone extended) : AskForNone items := by
  have hcons : ∀ item, extended = item :: items → AskForNone items := by
    rintro item rfl
    exact (List.forall_mem_cons.mp hextended).2
  cases token with
  | escaped c =>
    obtain ⟨item, middle, -, h⟩ := bind_eq_ok_iff.mp h
    cases h
    exact hcons item rfl
  | plain c =>
    dsimp only [partFrom] at h
    split at h
    · cases h
      exact hextended
    split at h
    · obtain ⟨_, middle, -, h⟩ := bind_eq_ok_iff.mp h
      cases h
      exact hextended
    split at h
    · obtain ⟨test, middle, -, h⟩ := bind_eq_ok_iff.mp h
      cases h
      exact hcons _ rfl
    split at h
    · cases h
      exact hcons _ rfl
    split at h
    · cases h
      exact hcons _ rfl
    split at h
    · cases h
      exact hcons _ rfl
    split at h
    · obtain ⟨found, middle, -, h⟩ := bind_eq_ok_iff.mp h
      cases found with
      | none =>
        cases h
        exact hextended
      | some body =>
        cases h
        exact hcons _ rfl
    · obtain ⟨found, middle, -, h⟩ := bind_eq_ok_iff.mp h
      cases found with
      | none =>
        cases h
        exact hcons _ rfl
      | some bounds => exact askForNone_of_repeatLast h hextended

end Parts

/-! ### Sequences -/

/-- What is known of a sequence with a given bound on the work. It ends where a sequence ends, with
the parts it had and those it read, and inside a longer pattern the reader comes to the same parts,
behind the parts that it has there, with the tokens behind the fragment still to be read. -/
def SequenceCarries [Text.CharacterNames] (fuel : Nat) : Prop :=
  ∀ flags items inner pattern left, sequence fuel flags items inner = .ok (pattern, left) →
    Grows inner left ∧ EndsSequence left.rest ∧ ∃ final spent, pattern = sequencePattern final ∧
      spent < fuel ∧ spent + left.rest.length ≤ inner.rest.length ∧
      (AskForNone final → AskForNone items) ∧
      ∀ (around : Surroundings) (outer : Progress) (bound : Nat) (before : List Item),
        Stops around.more → StandsIn around inner outer → fuel ≤ bound →
          PartsSound around flags final left →
          ∃ reached, StandsIn around left reached ∧
            sequence bound flags (behind around.groups before items) outer =
              sequence (bound - spent) flags (behind around.groups before final) reached

theorem sequenceCarries_zero [Text.CharacterNames] : SequenceCarries 0 :=
  nofun

theorem sequenceCarries_succ [Text.CharacterNames] {fuel : Nat} (hbracket : BracketCarries fuel)
    (hsequence : SequenceCarries fuel) : SequenceCarries (fuel + 1) := by
  intro flags items inner pattern left h
  by_cases hends : EndsSequence inner.rest
  · rw [sequence_of_ends fuel flags items hends] at h
    cases h
    exact ⟨.refl inner, hends, items, 0, rfl, Nat.succ_pos _, Nat.le_of_eq (Nat.zero_add _), id,
      fun around outer bound before _ hstands _ _ ↦ ⟨outer, hstands, rfl⟩⟩
  · obtain ⟨token, rest, hrest, hbar, hclose⟩ := exists_cons_of_not_endsSequence hends
    rw [sequence_of_cons fuel flags items hrest hbar hclose] at h
    obtain ⟨extended, middle, hpart, h⟩ := bind_eq_ok_iff.mp h
    obtain ⟨hgrows, hend, final, spent, rfl, hspent, hlength, hasks, hcarries⟩ :=
      hsequence flags extended middle pattern left h
    have hgrowsPart := (carries_partFrom stops_bare (Nat.le_refl fuel) hbracket flags items []
      token).grows _ _ _ hpart
    have hread : middle.rest.length + 1 ≤ inner.rest.length := by
      rw [hrest, List.length_cons]
      exact Nat.succ_le_succ hgrowsPart.rest
    refine ⟨?_, hend, final, spent + 1, rfl, Nat.succ_lt_succ hspent, by omega,
      fun hfinal ↦ askForNone_of_partFrom hpart (hasks hfinal), ?_⟩
    · exact ((Grows.read (by rw [hrest]; exact Nat.le_succ _)).trans hgrowsPart).trans hgrows
    · intro around outer bound before hstops hstands hbound hsound
      obtain ⟨bound, rfl⟩ : ∃ further, bound = further + 1 := ⟨bound - 1, by omega⟩
      have hbound := Nat.le_of_succ_le_succ hbound
      have houter : outer.rest = token :: (rest ++ around.more) := by
        rw [hstands.rest, hrest, List.cons_append]
      obtain ⟨between, hother, hmiddle⟩ :=
        (carries_partFrom hstops hbound hbracket flags items before token).carries _ _ _ _
          (hstands.read rest) hpart
          ⟨⟨hasks hsound.1.1, hsound.1.2.of_grows hgrows⟩, hsound.2.imp_right hgrows.rest_ne_nil⟩
      obtain ⟨reached, hleft, heq⟩ :=
        hcarries around between bound before hstops hmiddle hbound hsound
      refine ⟨reached, hleft, ?_⟩
      rw [sequence_of_cons bound flags _ houter hbar hclose, bind_of_eq_ok hother, heq,
        Nat.add_sub_add_right]

/-- A sequence that is followed by something inside the fragment is read alike in the longer
pattern. -/
theorem SequenceCarries.nested [Text.CharacterNames] {fuel : Nat} (hsequence : SequenceCarries fuel)
    {around : Surroundings} (hstops : Stops around.more) {bound : Nat} (hbound : fuel ≤ bound)
    (flags : Flags) :
    Carries around (fun pattern left ↦ Fits around pattern left ∧ left.rest ≠ [])
      (Pattern.renumbered around.groups) (sequence fuel flags []) (sequence bound flags []) := by
  refine ⟨fun inner pattern left h ↦ (hsequence flags [] inner pattern left h).1, ?_⟩
  intro inner outer pattern left hstands h hsound
  obtain ⟨-, hend, final, spent, rfl, hspent, -, -, hcarries⟩ :=
    hsequence flags [] inner pattern left h
  obtain ⟨⟨hasks, hapart⟩, hrest⟩ := hsound
  obtain ⟨reached, hleft, heq⟩ := hcarries around outer bound [] hstops hstands hbound
    ⟨⟨(asksForGroup_sequencePattern final).mp hasks, hapart⟩, .inr hrest⟩
  refine ⟨reached, ?_, hleft⟩
  obtain ⟨further, hfurther⟩ :
    ∃ further, bound - spent = further + 1 := ⟨bound - spent - 1, by omega⟩
  have hends : EndsSequence reached.rest := by
    obtain ⟨token, rest, hcons⟩ := List.exists_cons_of_ne_nil hrest
    rw [hleft.rest, hcons]
    rwa [hcons] at hend
  rw [behind, behind, List.map_nil, List.nil_append, List.append_nil, hfurther,
    sequence_of_ends _ _ _ hends] at heq
  rw [heq, renumbered_sequencePattern]

/-! ### Alternatives and groups -/

/-- What is known of alternatives with a given bound on the work: followed by something inside the
fragment, they are read alike in the longer pattern. -/
def AlternativesCarry [Text.CharacterNames] (fuel : Nat) : Prop :=
  ∀ around : Surroundings, Stops around.more → ∀ bound, fuel ≤ bound → ∀ flags,
    Carries around (fun pattern left ↦ Fits around pattern left ∧ left.rest ≠ [])
      (Pattern.renumbered around.groups) (alternatives fuel flags) (alternatives bound flags)

/-- What is known of a reader of a pattern with a given bound on the work: it reads alike in the
longer pattern. -/
def PatternCarries (reader : Nat → Flags → Reading Pattern) (fuel : Nat) : Prop :=
  ∀ around : Surroundings, Stops around.more → ∀ bound, fuel ≤ bound → ∀ flags,
    Carries around (Fits around) (Pattern.renumbered around.groups)
      (reader fuel flags) (reader bound flags)

theorem alternativesCarry_succ [Text.CharacterNames] {fuel : Nat} (hsequence : SequenceCarries fuel)
    (halternatives : AlternativesCarry fuel) : AlternativesCarry (fuel + 1) := by
  intro around hstops bound hbound flags
  obtain ⟨bound, rfl⟩ : ∃ further, bound = further + 1 := ⟨bound - 1, by omega⟩
  have hbound := Nat.le_of_succ_le_succ hbound
  have hrest : ∀ (first : Pattern) (bar : Bool),
      Carries around (fun pattern left ↦ Fits around pattern left ∧ left.rest ≠ [])
        (Pattern.renumbered around.groups)
        (if bar = true then do return .alt first (← alternatives fuel flags) else return first)
        (if bar = true then do
          return .alt (first.renumbered around.groups) (← alternatives bound flags)
        else return first.renumbered around.groups) := by
    intro first bar
    split
    · refine (halternatives around hstops bound hbound flags).bind_of (fun rest ↦ .of_pure rfl) ?_
      intro rest middle pattern left h hfits
      cases h
      exact ⟨⟨(Bool.or_eq_false_iff.mp hfits.1.1).2, hfits.1.2⟩, hfits.2⟩
    · exact .of_pure rfl
  unfold alternatives
  refine (hsequence.nested hstops hbound flags).bind_of
    (fun first ↦ (carries_accept '|').bind_of (fun bar ↦ hrest first bar) ?_) ?_
  · intro bar middle pattern left h hfits
    exact ((hrest first bar).grows _ _ _ h).rest_ne_nil hfits.2
  · intro first middle pattern left h hfits
    obtain ⟨bar, last, hbar, h⟩ := bind_eq_ok_iff.mp h
    have hgrows := (accept_grows hbar).trans ((hrest first bar).grows _ _ _ h)
    refine ⟨⟨?_, hfits.1.2.of_grows hgrows⟩, hgrows.rest_ne_nil hfits.2⟩
    cases bar with
    | false =>
      cases h
      exact hfits.1.1
    | true =>
      obtain ⟨rest, _, -, h⟩ := bind_eq_ok_iff.mp h
      cases h
      exact (Bool.or_eq_false_iff.mp hfits.1.1).1

theorem bodyCarries_succ [Text.CharacterNames] {fuel : Nat}
    (halternatives : AlternativesCarry fuel) :
    PatternCarries body (fuel + 1) := by
  intro around hstops bound hbound flags
  obtain ⟨bound, rfl⟩ : ∃ further, bound = further + 1 := ⟨bound - 1, by omega⟩
  have hbound := Nat.le_of_succ_le_succ hbound
  unfold body
  refine (halternatives around hstops bound hbound flags).bind_of
    (fun pattern ↦ (carried_expect _).bind fun _ ↦ .of_pure rfl) ?_
  intro pattern middle result left h hfits
  obtain ⟨_, last, hexpect, h⟩ := bind_eq_ok_iff.mp h
  cases h
  obtain ⟨rest, hrest, rfl⟩ := expect_eq_ok hexpect
  refine ⟨⟨hfits.1, hfits.2⟩, ?_⟩
  rw [hrest]
  exact List.cons_ne_nil _ _

theorem numberedCarries_succ [Text.CharacterNames] {fuel : Nat} (hbody : PatternCarries body fuel)
    (name : Option (List Char)) :
    PatternCarries (fun fuel flags ↦ numbered fuel flags name) (fuel + 1) := by
  intro around hstops bound hbound flags
  obtain ⟨bound, rfl⟩ : ∃ further, bound = further + 1 := ⟨bound - 1, by omega⟩
  have hbound := Nat.le_of_succ_le_succ hbound
  dsimp only
  unfold numbered
  refine (carries_openGroup name).bind_of
    (fun number ↦ (hbody around hstops bound hbound flags).bind_of
    (fun pattern ↦ (carried_closeGroup number pattern).bind fun _ ↦ .of_pure rfl) ?_) ?_
  · intro pattern middle result left h hfits
    obtain ⟨_, last, hclose, h⟩ := bind_eq_ok_iff.mp h
    cases h
    cases hclose
    exact hfits
  · intro number middle result left h hfits
    obtain ⟨pattern, last, hpattern, h⟩ := bind_eq_ok_iff.mp h
    obtain ⟨_, _, hclose, h⟩ := bind_eq_ok_iff.mp h
    cases h
    cases hclose
    have hgrows := (hbody around hstops bound hbound flags).grows _ _ _ hpattern
    have hapart : Apart around last := hfits.2
    exact hapart.of_grows hgrows

/-- Where a condition on preceding text begins and ends, no token is read and no group opens. -/
theorem carried_modify_lookingBack {around : Surroundings} (f g : Progress → Option Nat) :
    Carried around (modify fun progress ↦ { progress with lookingBack := f progress })
      (modify fun progress ↦ { progress with lookingBack := g progress }) := by
  refine ⟨fun inner value left h ↦ ?_, fun inner outer value left hstands h _ ↦ ?_⟩
  · cases h
    exact ⟨Nat.le_refl _, fun _ ↦ id, Nat.le_refl _⟩
  · cases h
    exact ⟨_, rfl, hstands.rest, hstands.nextGroup, hstands.names, hstands.asked⟩

theorem lookingBackCarries_succ [Text.CharacterNames] {fuel : Nat}
    (hbody : PatternCarries body fuel) (wanted : Bool) :
    PatternCarries (fun fuel flags ↦ lookingBack fuel flags wanted) (fuel + 1) := by
  intro around hstops bound hbound flags
  obtain ⟨bound, rfl⟩ : ∃ further, bound = further + 1 := ⟨bound - 1, by omega⟩
  have hbound := Nat.le_of_succ_le_succ hbound
  dsimp only
  unfold lookingBack
  refine .get_bind fun seen seenOuter _ ↦ (carried_modify_lookingBack _ _).bind fun _ ↦
    (hbody around hstops bound hbound flags).bind_of (fun pattern ↦
      (carried_modify_lookingBack _ _).bind fun _ ↦ .get_bind fun last _ _ ↦ .of_pure_of ?_) ?_
  · -- The width hangs on no group, so it is the same under the numbers moved up.
    intro left hfits
    have hasks : pattern.asksForGroup = false := hfits.1
    rw [pattern.width_renumbered hasks around.groups last.groupWidth]
    rfl
  · intro pattern middle result left h hfits
    obtain ⟨_, last, hmodify, h⟩ := bind_eq_ok_iff.mp h
    obtain ⟨seen, _, hget, h⟩ := bind_eq_ok_iff.mp h
    cases hget
    cases hmodify
    cases h
    exact hfits

theorem askedGroup_grows {inner left : Progress} {number : Nat}
    (h : askedGroup inner = .ok (number, left)) : Grows inner left := by
  obtain ⟨text, middle, htext, h⟩ := bind_eq_ok_iff.mp h
  refine ((carried_textUntil ')' : Carried .bare _ _).grows _ _ _ htext).trans ?_
  split at h
  · rw [get_bind_apply] at h
    rcases hlookup : middle.names.lookup (String.ofList text) with _ | known <;>
      simp only [hlookup] at h <;> cases h
    exact .refl _
  · rcases hwhole : Text.wholeNumber? text with _ | whole | whole <;> simp only [hwhole] at h
    · cases h
    · split at h
      · cases h
      · obtain ⟨_, last, hmodify, h⟩ := bind_eq_ok_iff.mp h
        cases hmodify
        cases h
        exact ⟨Nat.le_refl _, fun _ ↦ id, Nat.le_refl _⟩
    · cases h

/-- A choice by a group asks for that group. -/
theorem choice_eq_ok [Text.CharacterNames] {fuel : Nat} (hsequence : SequenceCarries fuel)
    {flags : Flags} {found : Option Pattern} {inner left : Progress}
    (h : (do
      let number ← askedGroup
      checkLookingBack number
      let present ← sequence fuel flags []
      let absent ← if ← accept '|' then sequence fuel flags [] else pure .empty
      expect ')'
      return some (Pattern.ifGroup number present absent) : Reading (Option Pattern)) inner =
        .ok (found, left)) :
    Grows inner left ∧ ∃ number present absent, found = some (.ifGroup number present absent) := by
  obtain ⟨number, first, hnumber, h⟩ := bind_eq_ok_iff.mp h
  obtain ⟨_, second, hcheck, h⟩ := bind_eq_ok_iff.mp h
  obtain ⟨present, third, hpresent, h⟩ := bind_eq_ok_iff.mp h
  obtain ⟨bar, fourth, hbar, h⟩ := bind_eq_ok_iff.mp h
  obtain rfl := checkLookingBack_eq_ok hcheck
  have hgrows := ((askedGroup_grows hnumber).trans (hsequence _ _ _ _ _ hpresent).1).trans
    (accept_grows hbar)
  have hclose : ∀ (absent : Pattern) (middle : Progress), Grows inner middle →
      (expect ')' >>= fun _ ↦ pure (some (Pattern.ifGroup number present absent)) :
        Reading (Option Pattern)) middle = .ok (found, left) →
      Grows inner left ∧
      ∃ number present absent, found = some (.ifGroup number present absent) := by
    intro absent middle hmiddle hlast
    obtain ⟨_, last, hexpect, hfound⟩ := bind_eq_ok_iff.mp hlast
    cases hfound
    exact ⟨hmiddle.trans ((carried_expect ')' : Carried .bare _ _).grows _ _ _ hexpect),
      number, present, absent, rfl⟩
  cases bar with
  | false => exact hclose .empty fourth hgrows h
  | true =>
    obtain ⟨absent, fifth, habsent, hlast⟩ := bind_eq_ok_iff.mp h
    exact hclose absent fifth (hgrows.trans (hsequence _ _ _ _ _ habsent).1) hlast

theorem namedReference_eq_ok {flags : Flags} {name : String} {found : Option Pattern}
    {inner left : Progress}
    (h : (do
      match (← get).names.lookup name with
      | some number => return some (← groupReference flags number)
      | none => refuse : Reading (Option Pattern)) inner = .ok (found, left)) :
    left = inner ∧ ∃ number, found = some (.sameAs flags.folding number) := by
  obtain ⟨seen, _, hget, h⟩ := bind_eq_ok_iff.mp h
  cases hget
  rcases hlookup : inner.names.lookup name with _ | number <;> rw [hlookup] at h
  · cases h
  · obtain ⟨pattern, middle, hreference, hfound⟩ := bind_eq_ok_iff.mp h
    obtain ⟨rfl, rfl⟩ := groupReference_eq_ok hreference
    cases hfound
    exact ⟨rfl, number, rfl⟩

/-- A pattern that is found behind an opening bracket. -/
theorem Carries.found {around : Surroundings} {reader other : Reading Pattern}
    (hreader : Carries around (Fits around) (Pattern.renumbered around.groups) reader other)
    (make : Pattern → Pattern)
    (hrenumbered : ∀ pattern,
      (make pattern).renumbered around.groups = make (pattern.renumbered around.groups))
    (hasks : ∀ pattern, (make pattern).asksForGroup = pattern.asksForGroup) :
    Carries around (fun found left ↦ ∀ pattern ∈ found, Fits around pattern left)
      (Option.map (Pattern.renumbered around.groups)) (do return some (make (← reader)))
      (do return some (make (← other))) := by
  refine hreader.bind_of (fun pattern ↦ .of_pure ?_) ?_
  · rw [Option.map_some, hrenumbered]
  · intro pattern middle found left h hfits
    cases h
    have hmade := hfits _ rfl
    rw [Fits, hasks] at hmade
    exact hmade

variable [Text.CharacterNames]

theorem bracketCarries_succ {fuel : Nat} (hsequence : SequenceCarries fuel)
    (hbody : PatternCarries body fuel)
    (hnumbered : ∀ name, PatternCarries (fun fuel flags ↦ numbered fuel flags name) fuel)
    (hlookingBack : ∀ wanted,
      PatternCarries (fun fuel flags ↦ lookingBack fuel flags wanted) fuel) :
    BracketCarries (fuel + 1) := by
  intro around hstops bound hbound flags
  obtain ⟨bound, rfl⟩ : ∃ further, bound = further + 1 := ⟨bound - 1, by omega⟩
  have hbound := Nat.le_of_succ_le_succ hbound
  have hinner (flags : Flags) := hbody around hstops bound hbound flags
  unfold bracket
  refine (carried_accept (hstops.mark '?' (by decide))).bind fun special ↦ ?_
  cases special with
  | false =>
    exact (hnumbered none around hstops bound hbound flags).found id (fun _ ↦ rfl) fun _ ↦ rfl
  | true =>
    refine .next_bind rfl fun token ↦ ?_
    cases token with
    | escaped c => exact .of_refuse
    | plain c =>
      dsimp only
      split
      · refine .next_bind rfl fun token ↦ ?_
        cases token with
        | escaped c => exact .of_refuse
        | plain c =>
          dsimp only
          split
          · exact (carried_textUntil _).bind fun name ↦ .guarded _ <|
              (hnumbered (some name) around hstops bound hbound flags).found id (fun _ ↦ rfl)
                fun _ ↦ rfl
          · exact (carried_textUntil _).bind fun name ↦ .of_unsound
              (fun _ _ _ h ↦ (namedReference_eq_ok h).1 ▸ .refl _)
              fun _ _ _ h hfits ↦ by
                obtain ⟨-, number, rfl⟩ := namedReference_eq_ok h
                exact Bool.noConfusion (hfits _ rfl).1
          · exact .of_refuse
      · exact (hinner flags).found id (fun _ ↦ rfl) fun _ ↦ rfl
      · exact carried_skipComment.bind fun _ ↦ .of_pure rfl
      · exact (hinner flags).found .atomic (fun _ ↦ rfl) fun _ ↦ rfl
      · exact (hinner flags).found (.ahead true) (fun _ ↦ rfl) fun _ ↦ rfl
      · exact (hinner flags).found (.ahead false) (fun _ ↦ rfl) fun _ ↦ rfl
      · refine .next_bind rfl fun token ↦ ?_
        cases token with
        | escaped c => exact .of_refuse
        | plain c =>
          dsimp only
          split
          · exact (hlookingBack true around hstops bound hbound flags).found id (fun _ ↦ rfl)
              fun _ ↦ rfl
          · exact (hlookingBack false around hstops bound hbound flags).found id (fun _ ↦ rfl)
              fun _ ↦ rfl
          · exact .of_refuse
      · refine .of_unsound (fun _ _ _ h ↦ (choice_eq_ok hsequence h).1) fun _ _ _ h hfits ↦ ?_
        obtain ⟨-, number, present, absent, rfl⟩ := choice_eq_ok hsequence h
        exact Bool.noConfusion (hfits _ rfl).1
      · exact ((carriedRelation hstops).groupFlags flags _).bind fun flags ↦
          (hinner flags).found id (fun _ ↦ rfl) fun _ ↦ rfl

/-! ### The reader as a whole -/

/-- Everything that is known with a given bound on the work. -/
structure ReadersCarry (fuel : Nat) : Prop where
  alternatives : AlternativesCarry fuel
  sequence : SequenceCarries fuel
  bracket : BracketCarries fuel
  body : PatternCarries body fuel
  numbered : ∀ name, PatternCarries (fun fuel flags ↦ numbered fuel flags name) fuel
  lookingBack : ∀ wanted, PatternCarries (fun fuel flags ↦ lookingBack fuel flags wanted) fuel

theorem readersCarry (fuel : Nat) : ReadersCarry fuel := by
  induction fuel with
  | zero =>
    exact ⟨fun _ _ _ _ _ ↦ .of_refuse, sequenceCarries_zero, fun _ _ _ _ _ ↦ .of_refuse,
      fun _ _ _ _ _ ↦ .of_refuse, fun _ _ _ _ _ _ ↦ .of_refuse, fun _ _ _ _ _ _ ↦ .of_refuse⟩
  | succ fuel ih =>
    exact ⟨alternativesCarry_succ ih.sequence ih.alternatives,
      sequenceCarries_succ ih.bracket ih.sequence,
      bracketCarries_succ ih.sequence ih.body ih.numbered ih.lookingBack,
      bodyCarries_succ ih.alternatives, fun name ↦ numberedCarries_succ ih.body name,
      fun wanted ↦ lookingBackCarries_succ ih.body wanted⟩

/-- A sequence is read alike inside a longer pattern, whatever the bound on the work. -/
theorem sequenceCarries (fuel : Nat) : SequenceCarries fuel :=
  (readersCarry fuel).sequence

end LicenseHeaders.Regex
