import LicenseHeaders.Proofs.Regex.Composing
import LicenseHeaders.Proofs.Regex.Mirroring

/-!
# Fragments that are refused

With enough work allowed, the reader as a whole reads a fragment at the end of a longer pattern as
it reads it on its own (`readersAlike`). Five steps for each token are enough, so the induction is
on the number of tokens, and all of the readers go together.

Behind a text whose last part no repetition sign can apply to, a fragment is thus refused for the
cause that it is refused for on its own (`Leads.refused`).
-/

set_option autoImplicit false
set_option relaxedAutoImplicit false

namespace LicenseHeaders.Regex

open Text Reading

/-! ### Patterns and their images -/

section Images

variable {shift : Nat} {body image first firstImage second secondImage : Pattern}

theorem Moved.group {number other : Nat} (hnumber : Shifted shift number other)
    (hbody : Moved shift body image) : Moved shift (.group number body) (.group other image) := by
  obtain ⟨hasks, rfl⟩ := hbody
  obtain ⟨-, rfl⟩ := hnumber
  exact ⟨hasks, rfl⟩

theorem Moved.alt (hfirst : Moved shift first firstImage)
    (hsecond : Moved shift second secondImage) :
    Moved shift (.alt first second) (.alt firstImage secondImage) := by
  obtain ⟨hasksFirst, rfl⟩ := hfirst
  obtain ⟨hasksSecond, rfl⟩ := hsecond
  exact ⟨Bool.or_eq_false_iff.mpr ⟨hasksFirst, hasksSecond⟩, rfl⟩

theorem Moved.ifGroup {number other : Nat} (hnumber : Shifted shift number other)
    (hfirst : Moved shift first firstImage) (hsecond : Moved shift second secondImage) :
    Moved shift (.ifGroup number first second) (.ifGroup other firstImage secondImage) := by
  obtain ⟨hasksFirst, rfl⟩ := hfirst
  obtain ⟨hasksSecond, rfl⟩ := hsecond
  obtain ⟨hpositive, rfl⟩ := hnumber
  exact ⟨Bool.or_eq_false_iff.mpr ⟨beq_false_of_ne hpositive.ne',
    Bool.or_eq_false_iff.mpr ⟨hasksFirst, hasksSecond⟩⟩, rfl⟩

/-- A part of a sequence and its image. -/
def ItemMoved (shift : Nat) (item other : Item) : Prop :=
  other.1 = item.1 ∧ Moved shift item.2 other.2

/-- The parts of a sequence and their images, behind other parts. -/
def PartsMoved (shift : Nat) (before items others : List Item) : Prop :=
  (∀ item ∈ items, item.2.asksFor 0 = false) ∧ others = behind shift before items

theorem PartsMoved.cons {before items others : List Item} {item other : Item}
    (hitem : ItemMoved shift item other) (hparts : PartsMoved shift before items others) :
    PartsMoved shift before (item :: items) (other :: others) := by
  obtain ⟨hshape, hasksItem, hpattern⟩ := hitem
  obtain ⟨hasks, rfl⟩ := hparts
  exact ⟨List.forall_mem_cons.mpr ⟨hasksItem, hasks⟩,
    congrArg (· :: behind shift before items) (Prod.ext hshape hpattern)⟩

theorem asksFor_foldl (wanted : Nat) (items : List Item) (pattern : Pattern) :
    (items.foldl (fun pattern item ↦ .seq item.2 pattern) pattern).asksFor wanted = false ↔
      (∀ item ∈ items, item.2.asksFor wanted = false) ∧ pattern.asksFor wanted = false := by
  induction items generalizing pattern with
  | nil => simp only [List.foldl_nil, List.not_mem_nil, false_imp_iff, implies_true, true_and]
  | cons item items ih =>
    rw [List.foldl_cons, ih, List.forall_mem_cons, Pattern.asksFor, Bool.or_eq_false_iff]
    exact ⟨fun h ↦ ⟨⟨h.2.1, h.1⟩, h.2.2⟩, fun h ↦ ⟨h.1.2, h.1.1, h.2⟩⟩

theorem PartsMoved.sequencePattern {items others : List Item}
    (hparts : PartsMoved shift [] items others) :
    Moved shift (sequencePattern items) (sequencePattern others) := by
  obtain ⟨hasks, rfl⟩ := hparts
  refine ⟨(asksFor_foldl 0 items .empty).mpr ⟨hasks, rfl⟩, ?_⟩
  rw [renumbered_sequencePattern, behind, List.append_nil]

/-- Sequences of parts and their images, behind other parts. -/
def SequencesMoved (shift : Nat) (before : List Item) (pattern other : Pattern) : Prop :=
  ∃ items others, PartsMoved shift before items others ∧
    pattern = sequencePattern items ∧ other = sequencePattern others

theorem partsMoved_nil (shift : Nat) : PartsMoved shift [] [] [] :=
  ⟨List.forall_mem_nil _, rfl⟩

/-- No repetition sign can apply to the last of the parts, which are given in reverse order. -/
def Unrepeatable (parts : List Item) : Prop :=
  ∀ part ∈ parts.head?, part.1 ≠ .plain

theorem unrepeatable_nil : Unrepeatable [] := by
  rintro part ⟨⟩

end Images

/-! ### The parts of a sequence -/

section Parts

variable {shift limit : Nat} {before items others : List Item}

theorem Plain.of_cons {token : Token} {rest : List Token} (hplain : Plain limit (token :: rest)) :
    ∃ less, limit = less + 1 ∧ Plain less rest ∧ startsByNumber (token :: rest) = false := by
  obtain ⟨hlength, hasks⟩ := hplain
  rw [List.length_cons] at hlength
  refine ⟨limit - 1, by omega, ⟨by omega, (kept_plain _ _ rest ⟨Nat.le_refl _, hasks⟩
    (List.suffix_cons token rest)).2⟩, ?_⟩
  exact asksByNumber_eq_false_iff.mp hasks _ List.suffix_rfl

theorem ReadsAlike.of_cons {α : Type} {same : α → α → Prop} {reader other : Reading α}
    {token : Token}
    (hless : ∀ less, limit = less + 1 → ReadsAlike shift (Plain less) same reader other) :
    ReadsAlike shift (fun rest ↦ Plain limit (token :: rest)) same reader other := by
  intro inner outer hmirrors hmay
  obtain ⟨less, rfl, hplain, -⟩ := hmay.of_cons
  exact hless less rfl inner outer hmirrors hplain

/-- An escape is read alike, unless it is the number of a group. -/
theorem alike_escape [CharacterNames] (flags : Flags) {c : Char}
    (hc : (c.isDigit && c != '0') = false) :
    ReadsAlike shift (fun _ ↦ True) (ItemMoved shift) (escape flags c) (escape flags c) := by
  unfold escape
  split
  · exact .of_pure ⟨rfl, rfl, rfl⟩
  split
  · exact .of_pure ⟨rfl, rfl, rfl⟩
  split
  · exact .of_pure ⟨rfl, rfl, rfl⟩
  refine ((sameRelation shift).codeEscapeAfter c).bind_same kept_true fun code ↦ ?_
  split
  · exact .of_pure ⟨rfl, rfl, rfl⟩
  split
  · exact (alike_upTo isOctal 2).bind_same kept_true fun digits ↦ .of_pure ⟨rfl, rfl, rfl⟩
  next hnought =>
    have hdigit : c.isDigit = false := by
      simpa only [bne_iff_ne.mpr hnought, Bool.and_true] using hc
    rw [hdigit, if_neg Bool.false_ne_true]
    exact .guarded _ (.of_pure ⟨rfl, rfl, rfl⟩)

theorem alike_repeatLast (hbefore : Unrepeatable before)
    (hparts : PartsMoved shift before items others)
    (least : Nat) (most : Option Nat) :
    ReadsAlike shift (fun _ ↦ True) (PartsMoved shift before) (repeatLast least most items)
      (repeatLast least most others) := by
  obtain ⟨hasks, rfl⟩ := hparts
  rcases items with _ | ⟨⟨shape, body⟩, items⟩
  · -- The last part before the fragment is there in the longer pattern only.
    rcases before with _ | ⟨⟨shape, body⟩, before⟩
    · exact .of_refuse
    · have hshape : shape ≠ .plain := hbefore _ rfl
      cases shape with
      | plain => exact absurd rfl hshape
      | anchor => exact .of_refuse
      | repetition => exact .of_refuse
  · obtain ⟨hasksBody, hasksItems⟩ := List.forall_mem_cons.mp hasks
    cases shape with
    | plain =>
      exact (sameRelation shift).greed.bind_same kept_true fun greed ↦
        .of_pure (.cons ⟨rfl, hasksBody, rfl⟩ ⟨hasksItems, rfl⟩)
    | anchor => exact .of_refuse
    | repetition => exact .of_refuse

/-- What may stand behind an opening bracket. -/
def PlainBracket (limit : Nat) (rest : List Token) : Prop :=
  Plain limit rest ∧ startsByNumber (.plain '(' :: rest) = false

/-- A part of a sequence is read alike, if what an opening bracket starts is. -/
theorem alike_partFrom [CharacterNames] {fuel bound : Nat} {flags : Flags}
    (hbracket : ReadsAlike shift (PlainBracket limit) (Option.Rel (Moved shift))
      (bracket fuel flags)
      (bracket bound flags))
    (hbefore : Unrepeatable before) (hparts : PartsMoved shift before items others)
    (token : Token) :
    ReadsAlike shift (fun rest ↦ Plain limit rest ∧ startsByNumber (token :: rest) = false)
      (PartsMoved shift before) (partFrom fuel flags items token)
      (partFrom bound flags others token) := by
  have hpart : ∀ {pattern : Pattern} {shape : Shape}, pattern.asksFor 0 = false →
      pattern.renumbered shift = pattern →
      PartsMoved shift before ((shape, pattern) :: items) ((shape, pattern) :: others) :=
    fun hasks hsame ↦ .cons ⟨rfl, hasks, hsame.symm⟩ hparts
  cases token with
  | escaped c =>
    intro inner outer hmirrors hmay
    exact ((alike_escape flags hmay.2).bind kept_true fun item other hitem ↦
      .of_pure (hparts.cons hitem)) inner outer hmirrors trivial
  | plain c =>
    dsimp only [partFrom]
    split
    · exact .of_pure hparts
    split
    · exact (alike_skipRemark.bind_same kept_true fun _ ↦ .of_pure hparts).mono fun _ _ ↦ trivial
    split
    · exact (((sameRelation shift).charClass flags).bind_same kept_true fun test ↦
        .of_pure (hpart rfl rfl)).mono fun _ _ ↦ trivial
    split
    · exact .of_pure (hpart rfl rfl)
    split
    · exact .of_pure (hpart rfl rfl)
    split
    · exact .of_pure (hpart rfl rfl)
    split
    next hopen =>
      subst hopen
      refine hbracket.bind (fun _ _ _ _ ↦ trivial) fun found image hfound ↦ ?_
      cases hfound with
      | none => exact .of_pure hparts
      | some hbody => exact .of_pure (hparts.cons ⟨rfl, hbody⟩)
    · refine ReadsAlike.mono (((sameRelation shift).repetition? alike_braces? c).bind_same kept_true
        fun found ↦ ?_) fun _ _ ↦ trivial
      cases found with
      | none => exact .of_pure (hpart rfl rfl)
      | some bounds => exact alike_repeatLast hbefore hparts _ _

end Parts

/-! ### The reader as a whole -/

/-- Readers that are alike with work enough. -/
def AlikeFrom {α : Type} (shift least : Nat) (may : List Token → Prop) (same : α → α → Prop)
    (reader other : Nat → Reading α) : Prop :=
  ∀ fuel bound, least ≤ fuel → least ≤ bound → ReadsAlike shift may same (reader fuel) (other bound)

theorem AlikeFrom.of_succ {α : Type} {shift least : Nat} {may : List Token → Prop}
    {same : α → α → Prop} {reader other : Nat → Reading α}
    (hsucc : ∀ fuel bound, least ≤ fuel → least ≤ bound →
      ReadsAlike shift may same (reader (fuel + 1)) (other (bound + 1))) :
    AlikeFrom shift (least + 1) may same reader other := by
  intro fuel bound hfuel hbound
  obtain ⟨fuel, rfl⟩ : ∃ less, fuel = less + 1 := ⟨fuel - 1, by omega⟩
  obtain ⟨bound, rfl⟩ : ∃ less, bound = less + 1 := ⟨bound - 1, by omega⟩
  exact hsucc fuel bound (by omega) (by omega)

/-- A reader of patterns that is alike with five steps for each token and some more. -/
def PatternsAlike (shift limit extra : Nat) (reader : Nat → Reading Pattern) : Prop :=
  AlikeFrom shift (5 * limit + extra) (Plain limit) (Moved shift) reader reader

/-- Everything that is known of the readers on so many tokens. -/
structure ReadersAlike [CharacterNames] (shift limit : Nat) : Prop where
  sequence :
  ∀ flags before items others, Unrepeatable before → PartsMoved shift before items others →
    AlikeFrom shift (5 * limit + 1) (Plain limit) (SequencesMoved shift before)
      (fun fuel ↦ sequence fuel flags items) (fun fuel ↦ sequence fuel flags others)
  alternatives : ∀ flags, PatternsAlike shift limit 2 fun fuel ↦ alternatives fuel flags
  body : ∀ flags, PatternsAlike shift limit 3 fun fuel ↦ body fuel flags
  numbered : ∀ flags name, PatternsAlike shift limit 4 fun fuel ↦ numbered fuel flags name
  lookingBack : ∀ flags wanted, PatternsAlike shift limit 4 fun fuel ↦ lookingBack fuel flags wanted
  bracket : ∀ flags, AlikeFrom shift (5 * limit + 5) (PlainBracket limit) (Option.Rel (Moved shift))
    (fun fuel ↦ bracket fuel flags) (fun fuel ↦ bracket fuel flags)

section Readers

variable {shift limit : Nat}

theorem alike_sequence [CharacterNames] (hless : ∀ less < limit, ReadersAlike shift less)
    {flags : Flags} {before items others : List Item} (hbefore : Unrepeatable before)
    (hparts : PartsMoved shift before items others) :
    AlikeFrom shift (5 * limit + 1) (Plain limit) (SequencesMoved shift before)
      (fun fuel ↦ sequence fuel flags items) (fun fuel ↦ sequence fuel flags others) := by
  refine .of_succ fun fuel bound hfuel hbound inner outer hmirrors hplain ↦ ?_
  by_cases hends : EndsSequence inner.rest
  · rw [sequence_of_ends fuel flags items hends,
      sequence_of_ends bound flags others (by rwa [hmirrors.rest])]
    exact .reached ⟨items, others, hparts, rfl, rfl⟩ hmirrors List.suffix_rfl
  · obtain ⟨token, rest, hrest, hbar, hclose⟩ := exists_cons_of_not_endsSequence hends
    rw [hrest] at hplain
    obtain ⟨less, rfl, hplain, htoken⟩ := hplain.of_cons
    -- The part takes a token, so the readers that it starts have fewer left, and five steps less.
    have hreaders := hless less (Nat.lt_succ_self less)
    rw [sequence_of_cons fuel flags items hrest hbar hclose,
      sequence_of_cons bound flags others (hmirrors.rest.trans hrest) hbar hclose]
    refine
      (((alike_partFrom (hreaders.bracket flags fuel bound (by omega) (by omega)) hbefore hparts
      token).bind (fun tokens ending hmay ↦ kept_plain less tokens ending hmay.1)
      fun extended image hextended ↦ hreaders.sequence flags before extended image hbefore hextended
        fuel bound (by omega) (by omega)) _ _ (hmirrors.read rest) ⟨hplain, htoken⟩).mono
      (fun _ _ ↦ id) ?_
    rw [hrest]
    exact List.suffix_cons token rest

/-- A sequence with nothing before it. -/
theorem alike_sequence_nil [CharacterNames] (hless : ∀ less < limit, ReadersAlike shift less)
    (flags : Flags) :
    PatternsAlike shift limit 1 fun fuel ↦ sequence fuel flags [] := by
  intro fuel bound hfuel hbound inner outer hmirrors hplain
  refine (alike_sequence hless unrepeatable_nil (partsMoved_nil shift) fuel bound hfuel hbound inner
    outer hmirrors hplain).mono ?_ List.suffix_rfl
  rintro pattern other ⟨items, others, hparts, rfl, rfl⟩
  exact hparts.sequencePattern

theorem alike_alternatives [CharacterNames] (hless : ∀ less < limit, ReadersAlike shift less)
    (flags : Flags) :
    PatternsAlike shift limit 2 fun fuel ↦ alternatives fuel flags := by
  refine .of_succ fun fuel bound hfuel hbound ↦ ?_
  unfold alternatives
  refine (alike_sequence_nil hless flags fuel bound (by omega) (by omega)).bind (kept_plain limit)
    fun first image hfirst ↦ accept_bind_alike (.of_cons fun less hlimit ↦ ?_) (.of_pure hfirst)
  exact ((hless less (by omega)).alternatives flags fuel bound (by omega) (by omega)).bind
    (kept_plain less) fun rest other hrest ↦ .of_pure (hfirst.alt hrest)

theorem alike_body [CharacterNames]
    (halternatives : ∀ flags, PatternsAlike shift limit 2 fun fuel ↦ alternatives fuel flags)
    (flags : Flags) :
    PatternsAlike shift limit 3 fun fuel ↦ body fuel flags := by
  refine .of_succ fun fuel bound hfuel hbound ↦ ?_
  unfold body
  exact (halternatives flags fuel bound (by omega) (by omega)).bind (kept_plain limit)
    fun pattern image hpattern ↦ (alike_expect ')').bind_same (kept_plain limit) fun _ ↦
      .of_pure hpattern

theorem alike_numbered [CharacterNames]
    (hbody : ∀ flags, PatternsAlike shift limit 3 fun fuel ↦ body fuel flags) (flags : Flags)
    (name : Option (List Char)) :
    PatternsAlike shift limit 4 fun fuel ↦ numbered fuel flags name := by
  refine .of_succ fun fuel bound hfuel hbound ↦ ?_
  unfold numbered
  refine ((alike_openGroup name).mono fun _ _ ↦ trivial).bind (kept_plain limit)
    fun number other hnumber ↦
      (hbody flags fuel bound (by omega) (by omega)).bind (kept_plain limit)
      fun pattern image hpattern ↦ ?_
  exact ((alike_closeGroup hnumber hpattern).bind kept_true fun _ _ _ ↦
    .of_pure (hpattern.group hnumber)).mono fun _ _ ↦ trivial

theorem alike_modify_lookingBack {f g : Progress → Option Nat}
    (hvalue : ∀ inner outer, Mirrors shift inner outer → g outer = (f inner).map (· + shift)) :
    ReadsAlike shift (fun _ ↦ True) Eq
      (modify fun progress ↦ { progress with lookingBack := f progress })
      (modify fun progress ↦ { progress with lookingBack := g progress }) :=
  fun inner outer hmirrors _ ↦ .reached rfl ⟨hmirrors.rest, hmirrors.nextGroup, hmirrors.names,
    hmirrors.widths, hmirrors.asked, hvalue inner outer hmirrors⟩ List.suffix_rfl

theorem alike_behind {pattern image : Pattern} (wanted : Bool)
    (hpattern : Moved shift pattern image) :
    ReadsAlike shift (fun _ ↦ True) (Moved shift)
      (do
        let (least, most) := pattern.width (← get).groupWidth
        return .behind wanted least most pattern)
      (do
        let (least, most) := image.width (← get).groupWidth
        return .behind wanted least most image) := by
  refine .get_bind fun inner outer hmirrors _ ↦ ?_
  rw [hpattern.width hmirrors]
  exact .reached ⟨hpattern.1, by rw [hpattern.2]; rfl⟩ hmirrors List.suffix_rfl

theorem alike_lookingBack [CharacterNames]
    (hbody : ∀ flags, PatternsAlike shift limit 3 fun fuel ↦ body fuel flags) (flags : Flags)
    (wanted : Bool) :
    PatternsAlike shift limit 4 fun fuel ↦ lookingBack fuel flags wanted := by
  refine .of_succ fun fuel bound hfuel hbound ↦ ?_
  unfold lookingBack
  refine .get_bind fun seen seenOuter hseen hplain ↦ ?_
  have hopened : ReadsAlike shift (fun _ ↦ True) Eq
      (modify fun progress : Progress ↦
        { progress with lookingBack := some (seen.lookingBack.getD progress.nextGroup) })
      (modify fun progress : Progress ↦
        { progress with lookingBack := some (seenOuter.lookingBack.getD progress.nextGroup) }) := by
    refine alike_modify_lookingBack fun inner outer hmirrors ↦ ?_
    rw [hseen.lookingBack, hmirrors.nextGroup.2]
    cases seen.lookingBack with
    | none => rfl
    | some first => rfl
  have hclosed : ReadsAlike shift (fun _ ↦ True) Eq
      (modify fun progress : Progress ↦ { progress with lookingBack := seen.lookingBack })
      (modify fun progress : Progress ↦ { progress with lookingBack := seenOuter.lookingBack }) :=
    alike_modify_lookingBack fun _ _ _ ↦ hseen.lookingBack
  exact ((hopened.mono fun _ _ ↦ trivial).bind (kept_plain limit) fun _ _ _ ↦
    (hbody flags fuel bound (by omega) (by omega)).bind (fun _ _ _ _ ↦ trivial)
      fun pattern image hpattern ↦ hclosed.bind kept_true fun _ _ _ ↦ alike_behind wanted hpattern)
    seen seenOuter hseen hplain

theorem alike_namedReference (flags : Flags) (name : String) :
    ReadsAlike shift (fun _ ↦ True) (Option.Rel (Moved shift))
      (do
        match (← get).names.lookup name with
        | some number => return some (← groupReference flags number)
        | none => refuse)
      (do
        match (← get).names.lookup name with
        | some number => return some (← groupReference flags number)
        | none => refuse) := by
  refine .get_bind fun inner outer hmirrors _ ↦ ?_
  have hname := hmirrors.names name
  generalize inner.names.lookup name = found at hname ⊢
  generalize outer.names.lookup name = image at hname ⊢
  cases hname with
  | none => exact .refused .invalid
  | some hnumber =>
    exact ((alike_groupReference flags hnumber).bind kept_true fun pattern image hpattern ↦
      .of_pure (.some hpattern)) inner outer hmirrors trivial

theorem alike_choice [CharacterNames] {fuel bound : Nat} {flags : Flags}
    (hsequence : ReadsAlike shift (Plain limit) (Moved shift) (sequence fuel flags [])
      (sequence bound flags [])) :
    ReadsAlike shift (fun rest ↦ Plain limit rest ∧ choiceByNumber rest = false)
      (Option.Rel (Moved shift))
      (do
        let number ← askedGroup
        checkLookingBack number
        let present ← sequence fuel flags []
        let absent ← if ← accept '|' then sequence fuel flags [] else pure .empty
        expect ')'
        return some (.ifGroup number present absent))
      (do
        let number ← askedGroup
        checkLookingBack number
        let present ← sequence bound flags []
        let absent ← if ← accept '|' then sequence bound flags [] else pure .empty
        expect ')'
        return some (.ifGroup number present absent)) := by
  refine (alike_askedGroup.mono fun _ hmay ↦ hmay.2).bind
    (fun tokens ending hmay ↦ kept_plain limit tokens ending hmay.1) fun number other hnumber ↦
    ((alike_checkLookingBack hnumber).mono fun _ _ ↦ trivial).bind (kept_plain limit) fun _ _ _ ↦
    hsequence.bind (kept_plain limit) fun present image hpresent ↦ ?_
  have hclose : ∀ absent other', Moved shift absent other' →
      ReadsAlike shift (Plain limit) (Option.Rel (Moved shift))
        (do expect ')'; return some (.ifGroup number present absent))
        (do expect ')'; return some (.ifGroup other image other')) :=
    fun absent other' habsent ↦ (alike_expect ')').bind_same (kept_plain limit) fun _ ↦
      .of_pure (.some (.ifGroup hnumber hpresent habsent))
  refine accept_bind_alike ?_ (hclose .empty .empty ⟨rfl, rfl⟩)
  exact (hsequence.bind (kept_plain limit) hclose).mono fun rest hrest ↦
    kept_plain limit _ rest hrest (List.suffix_cons _ rest)

/-- A pattern that is found behind an opening bracket. -/
theorem ReadsAlike.found {may : List Token → Prop} {reader other : Reading Pattern}
    (halike : ReadsAlike shift (Plain limit) (Moved shift) reader other)
    (hmay : ∀ rest, may rest → Plain limit rest) {make : Pattern → Pattern}
    (hmake : ∀ pattern image, Moved shift pattern image → Moved shift (make pattern) (make image)) :
    ReadsAlike shift may (Option.Rel (Moved shift)) (do return some (make (← reader)))
      (do return some (make (← other))) :=
  (halike.mono hmay).bind (fun _ _ _ _ ↦ trivial) fun pattern image hpattern ↦
    .of_pure (.some (hmake pattern image hpattern))

theorem alike_bracket [CharacterNames]
    (hsequence : ∀ flags, PatternsAlike shift limit 1 fun fuel ↦ sequence fuel flags [])
    (hbody : ∀ flags, PatternsAlike shift limit 3 fun fuel ↦ body fuel flags)
    (hnumbered : ∀ flags name, PatternsAlike shift limit 4 fun fuel ↦ numbered fuel flags name)
    (hlookingBack : ∀ flags wanted,
      PatternsAlike shift limit 4 fun fuel ↦ lookingBack fuel flags wanted)
    (flags : Flags) :
    AlikeFrom shift (5 * limit + 5) (PlainBracket limit) (Option.Rel (Moved shift))
      (fun fuel ↦ bracket fuel flags) (fun fuel ↦ bracket fuel flags) := by
  refine .of_succ fun fuel bound hfuel hbound ↦ ?_
  have hmark : ∀ tokens rest, Plain limit (tokens ++ rest) → Plain limit rest :=
    fun tokens rest hrest ↦
    kept_plain limit _ rest hrest (List.suffix_append tokens rest)
  have hinner (flags : Flags) := hbody flags fuel bound (by omega) (by omega)
  unfold bracket
  refine accept_bind_alike ?_ ((hnumbered flags none fuel bound (by omega) (by omega)).found
    (fun _ hmay ↦ hmay.1) fun _ _ ↦ id)
  refine .next_bind rfl rfl fun token ↦ ?_
  cases token with
  | escaped c => exact .of_refuse
  | plain c =>
    have hmay : ∀ rest, PlainBracket limit (.plain '?' :: .plain c :: rest) → Plain limit rest :=
      fun rest hrest ↦ hmark [.plain '?', .plain c] rest hrest.1
    dsimp only
    split
    · refine .next_bind rfl rfl fun token ↦ ?_
      cases token with
      | escaped c => exact .of_refuse
      | plain c =>
        have hmay : ∀ rest, PlainBracket limit (.plain '?' :: .plain 'P' :: .plain c :: rest) →
            Plain limit rest :=
          fun rest hrest ↦ hmark [.plain '?', .plain 'P', .plain c] rest hrest.1
        dsimp only
        split
        · refine .mono ?_ hmay
          exact (alike_textUntil _).bind_same (kept_plain limit) fun name ↦ .guarded _
            ((hnumbered flags (some name) fuel bound (by omega) (by omega)).found (fun _ ↦ id)
              fun _ _ ↦ id)
        · exact ((alike_textUntil _).bind_same kept_true fun name ↦
            alike_namedReference flags _).mono fun _ _ ↦ trivial
        · exact .of_refuse
    · exact (hinner flags).found hmay fun _ _ ↦ id
    · exact (alike_skipComment.bind_same kept_true fun _ ↦ .of_pure .none).mono fun _ _ ↦ trivial
    · exact (hinner flags).found hmay fun _ _ hpattern ↦ ⟨hpattern.1, congrArg _ hpattern.2⟩
    · exact (hinner flags).found hmay fun _ _ hpattern ↦ ⟨hpattern.1, congrArg _ hpattern.2⟩
    · exact (hinner flags).found hmay fun _ _ hpattern ↦ ⟨hpattern.1, congrArg _ hpattern.2⟩
    · refine .next_bind rfl rfl fun token ↦ ?_
      cases token with
      | escaped c => exact .of_refuse
      | plain c =>
        have hmay : ∀ rest, PlainBracket limit (.plain '?' :: .plain '<' :: .plain c :: rest) →
            Plain limit rest :=
          fun rest hrest ↦ hmark [.plain '?', .plain '<', .plain c] rest hrest.1
        dsimp only
        split
        · exact (hlookingBack flags true fuel bound (by omega) (by omega)).found hmay fun _ _ ↦ id
        · exact (hlookingBack flags false fuel bound (by omega) (by omega)).found hmay fun _ _ ↦ id
        · exact .of_refuse
    · exact (alike_choice (hsequence flags fuel bound (by omega) (by omega))).mono
        fun rest hrest ↦ ⟨hmay rest hrest, hrest.2⟩
    · exact .mono
        (((sameRelation shift).groupFlags flags c).bind_same (kept_plain limit) fun flags ↦
        (hinner flags).found (fun _ ↦ id) fun _ _ ↦ id) hmay

end Readers

/-- On any number of tokens all readers are alike, with work enough. -/
theorem readersAlike [CharacterNames] (shift limit : Nat) : ReadersAlike shift limit := by
  induction limit using Nat.strong_induction_on with
  | h limit hless =>
    have hbody := alike_body (alike_alternatives hless)
    have hnumbered := alike_numbered hbody
    have hlookingBack := alike_lookingBack hbody
    exact ⟨fun flags before items others hbefore hparts ↦ alike_sequence hless hbefore hparts,
      alike_alternatives hless, hbody, hnumbered, hlookingBack,
      alike_bracket (alike_sequence_nil hless) hbody hnumbered hlookingBack⟩

/-! ### Fragments behind a text -/

section Behind

variable {flags : Flags} {may : List Token → Prop} {shift limit : Nat} {text piece : List Char}
  {parts items : List Item}

theorem looksBackFixed_of_partsMoved {others : List Item} (hfixed : LooksBackFixed parts)
    (hmoved : PartsMoved shift parts items others) :
    (sequencePattern others).looksBackFixed = (sequencePattern items).looksBackFixed := by
  obtain ⟨-, rfl⟩ := hmoved
  rw [Bool.eq_iff_iff, looksBackFixed_sequencePattern, looksBackFixed_sequencePattern, behind,
    List.forall_mem_append, List.forall_mem_map]
  simp only [Item.renumbered, Pattern.looksBackFixed_renumbered]
  exact and_iff_left hfixed

variable [CharacterNames]

/-- Alternatives are read alike behind parts of the first one. -/
theorem alike_readBranches (hparts : Unrepeatable parts) (hfixed : LooksBackFixed parts)
    {fuel bound : Nat} (hfuel : 5 * limit + 1 ≤ fuel) (hbound : 5 * limit + 1 ≤ bound)
    {further otherFurther : Nat} (hfurther : 5 * limit + 1 ≤ further)
    (hotherFurther : 5 * limit + 1 ≤ otherFurther) :
    ReadsAlike shift (Plain limit)
      (fun pattern other ↦ other.looksBackFixed = pattern.looksBackFixed)
      (readBranches fuel further flags [] []) (readBranches bound otherFurther flags [] parts) := by
  have hreaders (less : Nat) := readersAlike shift less
  refine
    ((hreaders limit).sequence flags parts [] parts hparts ⟨List.forall_mem_nil _, rfl⟩ fuel bound
    hfuel hbound).bind (kept_plain limit) ?_
  rintro first image ⟨items, others, hmoved, rfl, rfl⟩
  have hfirst := looksBackFixed_of_partsMoved hfixed hmoved
  refine accept_bind_alike (.of_cons fun less hlimit ↦ ?_) (.of_pure hfirst)
  refine ((hreaders less).alternatives flags further otherFurther (by omega) (by omega)).bind
    (kept_plain less) fun rest other hrest ↦ .of_pure ?_
  change (_ && _) = (_ && _)
  rw [hfirst, hrest.2, Pattern.looksBackFixed_renumbered]

/-- The text at the start of a pattern text is read as the given parts, if what `may` stand behind
it does, and leaves progress that mirrors the start of what is behind it. -/
def Leads (flags : Flags) (may : List Token → Prop) (shift : Nat) (text : List Char)
    (parts : List Item) : Prop :=
  ∃ tokens, tokens? text = some tokens ∧ LooksBackFixed parts ∧
    ∀ more, may more → ∀ fuel, 5 * tokens.length + 4 ≤ fuel →
      ∃ bound reached, fuel ≤ bound + tokens.length ∧ Mirrors shift (.start more) reached ∧
        sequence fuel flags [] (.start (tokens ++ more)) = sequence bound flags parts reached

theorem Leads.append (hleads : Leads flags may shift text parts)
    (hfollows : Follows flags may piece items) :
    Leads flags Unrepeated shift (text ++ piece) (items ++ parts) := by
  obtain ⟨tokens, htokens, hfixed, hleads⟩ := hleads
  obtain ⟨behind, hbehind, hadds, hfixedPiece, hmay⟩ := hfollows
  refine ⟨tokens ++ behind, tokens?_append htokens hbehind, hfixedPiece.append hfixed,
    fun more hmore fuel hfuel ↦ ?_⟩
  rw [List.length_append] at hfuel
  obtain ⟨bound, reached, hbound, hmirrors, hread⟩ :=
    hleads (behind ++ more) (hmay more hmore) fuel (by omega)
  obtain ⟨bound', hbound', hadded⟩ := hadds more hmore bound parts reached (by omega) hmirrors.rest
  refine ⟨bound', _, by rw [List.length_append]; omega, hmirrors.read more, ?_⟩
  rw [List.append_assoc, hread, hadded]

/-- A fragment that is refused on its own is refused for the same cause behind a text that leads to
it. Assumes: no repetition sign applies to what stands before the fragment, and the fragment asks
for no group by its number. -/
theorem Leads.refused (hleads : Leads flags may shift text parts) (hparts : Unrepeatable parts)
    (hpiece : ∀ tokens, tokens? piece = some tokens → may tokens ∧ asksByNumber tokens = false)
    {cause : PatternFault} (hrefused : Pattern.parse flags piece = .error cause) :
    Pattern.parse flags (text ++ piece) = .error cause := by
  obtain ⟨tokens, htokens, hfixed, hleads⟩ := hleads
  rcases hbehind : tokens? piece with _ | behind
  · simp only [Pattern.parse, tokens?_append_eq htokens, hbehind, Option.map_none] at hrefused ⊢
    exact hrefused
  obtain ⟨hmay, hasks⟩ := hpiece behind hbehind
  -- The bound on the work is that of the whole text, which leaves the fragment more than it needs.
  rw [parse_apply hbehind, alternatives_succ] at hrefused
  rw [parse_apply (tokens?_append htokens hbehind), alternatives_succ]
  have hlength : (tokens ++ behind).length = tokens.length + behind.length := List.length_append
  obtain ⟨bound, reached, hbound, hmirrors, hread⟩ :=
    hleads behind hmay (5 * (tokens ++ behind).length + 4) (by omega)
  rw [readBranches_of_sequence hread]
  have halike := @alike_readBranches flags shift behind.length parts _ hparts hfixed
    (5 * behind.length + 4) bound (by omega) (by omega) (5 * behind.length + 4)
    (5 * (tokens ++ behind).length + 4) (by omega) (by omega) _ _ hmirrors ⟨Nat.le_refl _, hasks⟩
  generalize readBranches _ _ flags [] [] (.start behind) = result at halike hrefused
  generalize readBranches _ _ flags [] parts reached = image at halike ⊢
  cases halike with
  | refused => exact hrefused
  | reached hsame hleft =>
    have hopen :
        ∀ {number asked : Nat}, 0 < number → asked = 0 → decide (number ≤ asked) = false := by
      rintro number _ hnumber rfl
      exact decide_eq_false (Nat.not_le_of_lt hnumber)
    obtain ⟨hpositive, hnext⟩ := hleft.nextGroup
    simp only [Except.bind, hleft.rest, hsame, hopen hpositive hleft.asked.1,
      hopen (hnext ▸ Nat.lt_add_right shift hpositive) hleft.asked.2] at hrefused ⊢
    split at hrefused
    next hrest => rw [if_pos hrest]; exact congrArg _ (Except.error.inj hrefused)
    next hrest =>
      rw [if_neg hrest]
      split at hrefused
      next hloose => rw [if_pos hloose]; exact congrArg _ (Except.error.inj hrefused)
      · cases hrefused

end Behind

end LicenseHeaders.Regex
