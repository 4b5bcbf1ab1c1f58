import LicenseHeaders.Proofs.Regex.Reading

/-!
# Groups and repetitions inside a longer pattern

Below the level of sequences, each reader carries over what it does on a fragment, as long as the
tokens behind the fragment stop it (`Stops`). A group opens under its number moved up, which needs
its name to be free (`carries_openGroup`), and what asks for a group is set apart (`AsksForNone`),
since its number would mean another group.

The bounds of a repetition are read ahead and given up if no brace closes them (`braces?_apply`).
Then the readers may differ, since a comma behind the fragment can be taken for one of the bounds,
but nothing of it is kept (`bracedDigits_carries`).
-/

set_option autoImplicit false
set_option relaxedAutoImplicit false

namespace LicenseHeaders.Regex

open Text Reading

/-! ### Groups -/

section Groups

variable {around : Surroundings}

/-- A pattern that asks for no group. -/
def AsksForNone (pattern : Pattern) (_ : Progress) : Prop :=
  pattern.asksForGroup = false

theorem checkLookingBack_eq_ok {number : Nat} {progress left : Progress}
    (h : checkLookingBack number progress = .ok ((), left)) : left = progress := by
  obtain ⟨seen, middle, hget, h⟩ := bind_eq_ok_iff.mp h
  cases hget
  rcases hfirst : progress.lookingBack with _ | first <;> simp only [hfirst] at h
  · cases h
    rfl
  · split at h
    · cases h
    · cases h
      rfl

theorem groupReference_eq_ok {flags : Flags} {number : Nat} {progress left : Progress}
    {pattern : Pattern} (h : groupReference flags number progress = .ok (pattern, left)) :
    pattern = .sameAs flags.folding number ∧ left = progress := by
  obtain ⟨seen, middle, hget, h⟩ := bind_eq_ok_iff.mp h
  cases hget
  dsimp only at h
  split at h
  · cases h
  · obtain ⟨⟨⟩, reached, hcheck, h⟩ := bind_eq_ok_iff.mp h
    cases h
    exact ⟨rfl, checkLookingBack_eq_ok hcheck⟩

theorem carries_groupReference (flags : Flags) (number : Nat) {image : Pattern → Pattern}
    {other : Reading Pattern} :
    Carries around AsksForNone image (groupReference flags number) other := by
  refine .of_unsound (fun inner pattern left h ↦ ?_) fun inner pattern left h hasks ↦ ?_
  · rw [(groupReference_eq_ok h).2]
    exact .refl inner
  · rw [(groupReference_eq_ok h).1] at hasks
    cases hasks

theorem carries_numberEscape (hstops : Stops around.more) (flags : Flags) (c : Char) :
    Carries around AsksForNone (Pattern.renumbered around.groups)
      (numberEscape flags c) (numberEscape flags c) := by
  refine (carried_upTo hstops.decimal 1).bind fun digits ↦ ?_
  dsimp only [id]
  split
  · split
    · refine (carried_upTo hstops.octal 1).bind fun digits ↦ ?_
      dsimp only [id]
      split
      · exact .guarded _ (.of_pure rfl)
      · exact carries_groupReference flags _
    · exact carries_groupReference flags _
  · exact carries_groupReference flags _

/-- A part of a sequence with the numbers of its groups moved up. -/
def Item.renumbered (shift : Nat) (item : Item) : Item :=
  (item.1, item.2.renumbered shift)

/-- A part of a sequence that asks for no group. -/
def ItemAsksForNone (item : Item) (_ : Progress) : Prop :=
  item.2.asksForGroup = false

theorem carries_escape [CharacterNames] (hstops : Stops around.more) (flags : Flags) (c : Char) :
    Carries around ItemAsksForNone (Item.renumbered around.groups)
      (escape flags c) (escape flags c) := by
  unfold escape
  split
  · exact .of_pure rfl
  split
  · exact .of_pure rfl
  split
  · exact .of_pure rfl
  refine ((carriedRelation hstops).codeEscapeAfter c).bind fun code ↦ ?_
  dsimp only [id]
  split
  · exact .of_pure rfl
  split
  · exact (carried_upTo hstops.octal 2).bind fun digits ↦ .of_pure rfl
  split
  · refine (carries_numberEscape hstops flags c).bind_of (fun pattern ↦ .of_pure rfl) ?_
    intro pattern middle item left h hasks
    cases h
    exact hasks
  · exact .guarded _ (.of_pure rfl)

theorem openGroup_some_apply (name : List Char) (progress : Progress) :
    openGroup (some name) progress =
      if (progress.names.lookup (String.ofList name)).isSome then .error .invalid
      else .ok (progress.nextGroup, { progress with
        nextGroup := progress.nextGroup + 1
        names := (String.ofList name, progress.nextGroup) :: progress.names }) := by
  by_cases hname : (progress.names.lookup (String.ofList name)).isSome = true
  · rw [if_pos hname, openGroup]
    refine (bind_of_eq_ok rfl _).trans ?_
    dsimp only
    rw [if_pos hname]
    rfl
  · rw [if_neg hname, openGroup]
    refine (bind_of_eq_ok rfl _).trans ?_
    dsimp only
    rw [if_neg hname]
    rfl

theorem isSome_lookup_cons {names : List (String × Nat)} {name other : String} {number : Nat} :
    (((name, number) :: names).lookup other).isSome = true ↔
      other = name ∨ (names.lookup other).isSome = true := by
  rw [List.lookup_cons]
  by_cases hname : other = name
  · simp only [hname, beq_self_eq_true, Option.isSome_some, true_or]
  · simp only [beq_false_of_ne hname, hname, false_or]

/-- A group opens under its number moved up. Assumes: its name is not taken. -/
theorem carries_openGroup (name : Option (List Char)) :
    Carries around (fun _ left ↦ Apart around left) (· + around.groups)
      (openGroup name) (openGroup name) := by
  cases name with
  | none =>
    refine ⟨fun inner number left h ↦ ?_, fun inner outer number left hstands h _ ↦ ?_⟩
    · cases h
      exact ⟨Nat.le_succ _, fun _ ↦ id, Nat.le_refl _⟩
    · cases h
      refine ⟨{ outer with nextGroup := outer.nextGroup + 1 }, ?_, hstands.rest, ?_, hstands.names,
        hstands.asked⟩
      · rw [← hstands.nextGroup]
        rfl
      · simp only [hstands.nextGroup, Nat.add_right_comm]
  | some name =>
    have hread : ∀ inner number left, openGroup (some name) inner = .ok (number, left) →
        (inner.names.lookup (String.ofList name)).isSome = false ∧ number = inner.nextGroup ∧
          left = { inner with
            nextGroup := inner.nextGroup + 1
            names := (String.ofList name, inner.nextGroup) :: inner.names } := by
      intro inner number left h
      rw [openGroup_some_apply] at h
      by_cases hname : (inner.names.lookup (String.ofList name)).isSome = true
      · rw [if_pos hname] at h
        cases h
      · rw [if_neg hname] at h
        cases h
        exact ⟨Bool.not_eq_true _ ▸ hname, rfl, rfl⟩
    refine ⟨fun inner number left h ↦ ?_, fun inner outer number left hstands h hapart ↦ ?_⟩
    · obtain ⟨-, -, rfl⟩ := hread inner number left h
      exact ⟨Nat.le_succ _, fun other hother ↦ isSome_lookup_cons.mpr (.inr hother), Nat.le_refl _⟩
    · obtain ⟨hnew, rfl, rfl⟩ := hread inner number left h
      have hfree : (outer.names.lookup (String.ofList name)).isSome = false := by
        by_contra hsome
        rcases hstands.names _ (Bool.not_eq_false _ ▸ hsome) with hinner | htaken
        · rw [hnew] at hinner
          cases hinner
        · have hleft := hapart _ htaken
          rw [isSome_lookup_cons.mpr (.inl rfl)] at hleft
          cases hleft
      refine ⟨{ outer with
          nextGroup := outer.nextGroup + 1
          names := (String.ofList name, outer.nextGroup) :: outer.names }, ?_, hstands.rest, ?_, ?_,
        hstands.asked⟩
      · rw [openGroup_some_apply, hfree, ← hstands.nextGroup]
        rfl
      · simp only [hstands.nextGroup, Nat.add_right_comm]
      · intro other hother
        rcases isSome_lookup_cons.mp hother with rfl | hother
        · exact .inl (isSome_lookup_cons.mpr (.inl rfl))
        · exact (hstands.names other hother).imp_left fun hinner ↦
            isSome_lookup_cons.mpr (.inr hinner)

theorem carried_closeGroup (number : Nat) (body : Pattern) :
    Carried around (closeGroup number body)
      (closeGroup (number + around.groups) (body.renumbered around.groups)) := by
  refine ⟨fun inner number left h ↦ ?_, fun inner outer number left hstands h _ ↦ ?_⟩
  · cases h
    exact ⟨Nat.le_refl _, fun _ ↦ id, Nat.le_refl _⟩
  · cases h
    exact ⟨_, rfl, hstands.rest, hstands.nextGroup, hstands.names, hstands.asked⟩

theorem carried_skipComment : Carried around skipComment skipComment := by
  have hread : ∀ inner left, skipComment inner = .ok ((), left) →
      ∃ text rest, splitAt? ')' inner.rest = some (text, rest) ∧
      left = { inner with rest := rest } := by
    intro inner left h
    obtain ⟨seen, middle, hget, h⟩ := bind_eq_ok_iff.mp h
    cases hget
    rcases hsplit : splitAt? ')' inner.rest with _ | ⟨text, rest⟩ <;> rw [hsplit] at h <;> cases h
    exact ⟨text, rest, rfl, rfl⟩
  refine ⟨fun inner value left h ↦ ?_, fun inner outer value left hstands h _ ↦ ?_⟩
  · obtain ⟨text, rest, hsplit, rfl⟩ := hread inner left h
    exact .read (length_le_of_splitAt? hsplit)
  · obtain ⟨text, rest, hsplit, rfl⟩ := hread inner left h
    refine ⟨_, (bind_of_eq_ok rfl _).trans ?_, hstands.read rest⟩
    rw [hstands.rest, splitAt?_append hsplit]
    rfl

end Groups

/-! ### Repetitions -/

section Repetitions

variable {around : Surroundings}

/-- Reads the digits of an upper bound behind a comma; without one they are those of the lower. -/
def upperDigits (low : List Char) : Reading (List Char) := do
  if ← accept ',' then every Char.isDigit else return low

/-- Reads the digits behind an opening brace, and whether a brace closes them. -/
def bracedDigits : Reading ((List Char × List Char) × Bool) := do
  let low ← every Char.isDigit
  let high ← upperDigits low
  let closed ← accept '\x7d'
  return ((low, high), closed)

/-- The bounds from a given one up to what digits stand for. -/
def boundsFrom (high : List Char) (least : Nat) : Reading (Option (Nat × Option Nat)) := do
  if high.isEmpty then return some (least, none)
  let most ← repeatCount high
  if most < least then refuse
  return some (least, some most)

/-- The bounds that digits between braces stand for. -/
def boundsOf (digits : List Char × List Char) : Reading (Option (Nat × Option Nat)) := do
  let least ← if digits.1.isEmpty then pure 0 else repeatCount digits.1
  boundsFrom digits.2 least

theorem braces?_apply (progress : Progress) :
    braces? progress = (bracedDigits progress).bind fun ((digits, closed), left) ↦
      if closed then
        if digits.1.isEmpty && digits.2.isEmpty && progress.rest.head? == some (.plain '\x7d') then
          .ok (none, progress)
        else boundsOf digits left
      else .ok (none, progress) := by
  have hclose : ∀ (digits : List Char × List Char) (middle : Progress),
      (accept '\x7d' >>= fun closed ↦
        if closed = true then
          if (digits.1.isEmpty && digits.2.isEmpty &&
              progress.rest.head? == some (.plain '\x7d')) = true then
            set progress >>= fun _ ↦ pure none
          else boundsOf digits
        else set progress >>= fun _ ↦ pure none : Reading (Option (Nat × Option Nat))) middle =
      ((accept '\x7d' >>= fun closed ↦ pure (digits, closed)) middle : Except PatternFault _).bind
        fun ((digits, closed), left) ↦
          if closed then
            if digits.1.isEmpty && digits.2.isEmpty &&
                progress.rest.head? == some (.plain '\x7d') then
              .ok (none, progress)
            else boundsOf digits left
          else .ok (none, progress) := by
    intro digits middle
    simp only [bind, StateT.bind, Except.bind, pure, Except.pure, StateT.pure]
    rcases accept '\x7d' middle with _ | ⟨closed, left⟩
    · rfl
    · cases closed with
      | false => rfl
      | true =>
        dsimp only
        rw [if_pos rfl, if_pos rfl]
        split <;> rfl
  unfold braces? bracedDigits upperDigits
  simp only [bind, StateT.bind, Except.bind, pure, Except.pure, get, getThe,
    MonadStateOf.get, StateT.get] at hclose ⊢
  rcases every Char.isDigit progress with _ | ⟨low, first⟩
  · rfl
  · dsimp only
    rcases accept ',' first with _ | ⟨comma, second⟩
    · rfl
    · cases comma with
      | false => exact hclose (low, low) second
      | true =>
        dsimp only
        rw [if_pos rfl, if_pos rfl]
        simp only [StateT.bind, bind, Except.bind]
        rcases every Char.isDigit second with _ | ⟨high, third⟩
        · rfl
        · exact hclose (low, high) third

theorem ReaderRelation.boundsOf (relation : ReaderRelation) (digits : List Char × List Char) :
    relation.related (boundsOf digits) (boundsOf digits) := by
  have hfrom :
      ∀ least, relation.related (boundsFrom digits.2 least) (boundsFrom digits.2 least) := by
    intro least
    unfold boundsFrom
    split
    · exact relation.of_pure _
    · exact relation.bind (relation.repeatCount _) fun most ↦
        relation.guarded _ (relation.of_pure _)
  unfold Regex.boundsOf
  split
  · exact hfrom 0
  · exact relation.bind (relation.repeatCount _) hfrom

/-- Where the fragment has tokens left, the comma of an upper bound is one of them. -/
theorem upperDigits_carries (hstops : Stops around.more) {low high : List Char}
    {inner outer left : Progress} (hrest : inner.rest ≠ []) (hstands : StandsIn around inner outer)
    (h : upperDigits low inner = .ok (high, left)) :
    Grows inner left ∧
      ∃ reached, upperDigits low outer = .ok (high, reached) ∧ StandsIn around left reached := by
  obtain ⟨comma, middle, hcomma, h⟩ := bind_eq_ok_iff.mp h
  obtain ⟨reached, hother, hmiddle⟩ := accept_carries (fun hnil ↦ absurd hnil hrest) hstands hcomma
  have hdigits : Carried around (if comma = true then every Char.isDigit else pure low)
      (if comma = true then every Char.isDigit else pure low) := by
    split
    · exact carried_every hstops.decimal
    · exact .of_pure rfl
  obtain ⟨last, hlast, hleft⟩ := hdigits.carries _ _ _ _ hmiddle h trivial
  exact ⟨(accept_grows hcomma).trans (hdigits.grows _ _ _ h), last,
    (bind_of_eq_ok hother _).trans hlast, hleft⟩

/-- Where the fragment ends, a comma behind it may be taken for one of an upper bound, but no brace
closes the bounds. -/
theorem upperDigits_end (hstops : Stops around.more) (low : List Char) {outer : Progress}
    (hrest : outer.rest = around.more) :
    ∃ high reached left, upperDigits low outer = .ok (high, reached) ∧
      accept '\x7d' reached = .ok (false, left) := by
  by_cases hcomma : around.more.head? = some (.plain ',')
  · obtain ⟨rest, hmore⟩ := List.head?_eq_some_iff.mp hcomma
    have hbehind := hstops.comma hcomma
    rw [hmore, List.tail_cons] at hbehind
    have haccept : accept ',' outer = .ok (true, { outer with rest := rest }) := by
      rw [accept_apply, hrest, hmore]
      exact if_pos rfl
    have hdigits : every Char.isDigit { outer with rest := rest } =
        .ok ([], { outer with rest := rest }) :=
      upTo_of_head (fun c hc ↦ (hbehind c hc).2) _
    exact ⟨[], _, _, (bind_of_eq_ok haccept _).trans hdigits,
      accept_of_head fun hc ↦ (hbehind _ hc).1 rfl⟩
  · refine ⟨low, outer, outer, (bind_of_eq_ok (accept_of_head ?_) _).trans rfl, accept_of_head ?_⟩
    · rwa [hrest]
    · rw [hrest]
      exact hstops.mark '\x7d' (by decide)

/-- Digits between braces are read alike in the longer pattern. Without a closing brace they may
differ there, where a comma follows the fragment. -/
theorem bracedDigits_carries (hstops : Stops around.more) {inner outer left : Progress}
    {digits : List Char × List Char} {closed : Bool} (hstands : StandsIn around inner outer)
    (h : bracedDigits inner = .ok ((digits, closed), left)) :
    Grows inner left ∧ ∃ found reached, bracedDigits outer = .ok ((found, closed), reached) ∧
      (closed = true → found = digits ∧ inner.rest ≠ [] ∧ StandsIn around left reached) := by
  obtain ⟨low, first, hlow, h⟩ := bind_eq_ok_iff.mp h
  obtain ⟨high, second, hhigh, h⟩ := bind_eq_ok_iff.mp h
  obtain ⟨brace, third, hbrace, h⟩ := bind_eq_ok_iff.mp h
  cases h
  have hgrowsLow := (carried_every hstops.decimal).grows _ _ _ hlow
  obtain ⟨reached, hlow', hfirst⟩ :=
    (carried_every hstops.decimal).carries _ _ _ _ hstands hlow trivial
  by_cases hrest : first.rest = []
  · have hcomma : upperDigits low first = .ok (low, first) := by
      refine (bind_of_eq_ok (?_ : accept ',' first = .ok (false, first)) _).trans rfl
      rw [accept_apply, hrest]
    rw [hcomma] at hhigh
    cases hhigh
    rw [accept_apply, hrest] at hbrace
    cases hbrace
    have hmore : reached.rest = around.more := by rw [hfirst.rest, hrest, List.nil_append]
    obtain ⟨high', middle, left, hhigh', hbrace'⟩ := upperDigits_end hstops low hmore
    refine ⟨hgrowsLow, (low, high'), left, ?_, nofun⟩
    exact (bind_of_eq_ok hlow' _).trans ((bind_of_eq_ok hhigh' _).trans (bind_of_eq_ok hbrace' _))
  · obtain ⟨hgrowsHigh, middle, hhigh', hsecond⟩ := upperDigits_carries hstops hrest hfirst hhigh
    obtain ⟨left, hbrace', hthird⟩ :=
      accept_carries (fun _ ↦ hstops.mark '\x7d' (by decide)) hsecond hbrace
    refine ⟨(hgrowsLow.trans hgrowsHigh).trans (accept_grows hbrace), (low, high), left, ?_,
      fun _ ↦ ⟨rfl, ?_, hthird⟩⟩
    · exact (bind_of_eq_ok hlow' _).trans ((bind_of_eq_ok hhigh' _).trans (bind_of_eq_ok hbrace' _))
    · exact hgrowsLow.rest_ne_nil hrest

/-- The bounds of a repetition are read alike in the longer pattern. -/
theorem carried_braces? (hstops : Stops around.more) : Carried around braces? braces? := by
  refine ⟨fun inner bounds left h ↦ ?_, fun inner outer bounds left hstands h _ ↦ ?_⟩
  · obtain ⟨outer, hstands⟩ := exists_standsIn around inner
    rw [braces?_apply] at h
    rcases hdigits : bracedDigits inner with _ | ⟨⟨digits, closed⟩, middle⟩ <;> rw [hdigits] at h
    · cases h
    · have hgrows := (bracedDigits_carries hstops hstands hdigits).1
      cases closed with
      | false =>
        cases h
        exact .refl inner
      | true =>
        simp only [Except.bind, if_true] at h
        split at h
        · cases h
          exact .refl inner
        · exact hgrows.trans (((carriedRelation hstops).boundsOf digits).grows _ _ _ h)
  · rw [braces?_apply] at h ⊢
    rcases hdigits : bracedDigits inner with _ | ⟨⟨digits, closed⟩, middle⟩ <;> rw [hdigits] at h
    · cases h
    · obtain ⟨-, found, reached, hfound, hclosed⟩ := bracedDigits_carries hstops hstands hdigits
      rw [hfound]
      cases closed with
      | false =>
        cases h
        exact ⟨outer, rfl, hstands⟩
      | true =>
        obtain ⟨rfl, hrest, hmiddle⟩ := hclosed rfl
        have hhead : outer.rest.head? = inner.rest.head? := by
          obtain ⟨token, rest, hcons⟩ := List.exists_cons_of_ne_nil hrest
          rw [hstands.rest, hcons, List.cons_append, List.head?_cons, List.head?_cons]
        simp only [Except.bind, if_true, hhead] at h ⊢
        by_cases hliteral : (found.1.isEmpty && found.2.isEmpty &&
            inner.rest.head? == some (.plain '\x7d')) = true
        · rw [if_pos hliteral] at h ⊢
          cases h
          exact ⟨outer, rfl, hstands⟩
        · rw [if_neg hliteral] at h ⊢
          exact ((carriedRelation hstops).boundsOf found).carries _ _ _ _ hmiddle h trivial

theorem carried_repetition? (hstops : Stops around.more) (sign : Char) :
    Carried around (repetition? sign) (repetition? sign) :=
  (carriedRelation hstops).repetition? (carried_braces? hstops) sign

end Repetitions

end LicenseHeaders.Regex
