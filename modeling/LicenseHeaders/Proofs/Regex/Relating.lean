import LicenseHeaders.Regex.Parser

/-!
# Relations between readers

Two ways to read a fragment are compared by a relation between readers. Whatever that relation is,
it holds of the readers of characters, classes, flags and bounds as soon as it holds of the few
readers that look at a token, and of one reader after another (`ReaderRelation`).
-/

set_option autoImplicit false
set_option relaxedAutoImplicit false

namespace LicenseHeaders.Regex

open Text Reading

/-- A relation between readers that holds of readers put together if it holds of the parts. Readers
that count down may count from different numbers, as far as those are related by `room`. -/
structure ReaderRelation where
  related : {α : Type} → Reading α → Reading α → Prop
  room : Nat → Nat → Prop
  of_pure : ∀ {α : Type} (value : α), related (pure value) (pure value)
  of_throw : ∀ {α : Type} (cause : PatternFault), related (throw cause : Reading α) (throw cause)
  bind : ∀ {α β : Type} {reader other : Reading α} {further mirrored : α → Reading β},
    related reader other → (∀ value, related (further value) (mirrored value)) →
      related (reader >>= further) (other >>= mirrored)
  next_bind : ∀ {α : Type} {further mirrored : Option Token → Reading α}, further none = refuse →
    mirrored none = refuse → (∀ token, related (further (some token)) (mirrored (some token))) →
      related (next >>= further) (next >>= mirrored)
  accept : ∀ c ∈ ['?', '+', '-', '^', ':', '\x7d'], related (accept c) (accept c)
  expect : ∀ c, related (expect c) (expect c)
  upTo : ∀ wanted count, (∀ c, wanted c = true → isHex c = true) →
    related (upTo wanted count) (upTo wanted count)
  textUntil : ∀ stop, related (textUntil stop) (textUntil stop)
  spent : ∀ {α : Type} {bound : Nat} {reader : Reading α}, room 0 bound →
    (bound = 0 → reader = refuse) → related refuse reader
  less :
  ∀ {fuel bound : Nat}, room (fuel + 1) bound → ∃ further, bound = further + 1 ∧ room fuel further
  sized : ∀ {α : Type} (reader : Nat → Reading α),
    (∀ fuel bound, room fuel bound → related (reader fuel) (reader bound)) →
      related (get >>= fun progress ↦ reader (progress.rest.length + 1))
        (get >>= fun progress ↦ reader (progress.rest.length + 1))

theorem isHex_of_isDigit {c : Char} (hc : c.isDigit = true) : isHex c = true := by
  rw [isHex, hc, Bool.true_or, Bool.true_or]

theorem isHex_of_isOctal {c : Char} (hc : isOctal c = true) : isHex c = true := by
  have hle : ('7' : Char) ≤ '9' := by decide
  simp only [isOctal, Bool.and_eq_true, decide_eq_true_eq] at hc
  refine isHex_of_isDigit ?_
  simp only [Char.isDigit, Bool.and_eq_true, decide_eq_true_eq]
  exact ⟨hc.1, Nat.le_trans hc.2 hle⟩

namespace ReaderRelation

variable (relation : ReaderRelation) {α : Type}

/-- A check that refuses what meets a condition. -/
theorem guarded {γ : Type} {fault : PatternFault} (condition : Prop) [Decidable condition]
    {rest mirrored : γ → Reading α} {reader other : Reading α}
    (hreader : relation.related reader other) :
    relation.related (if condition then throw fault >>= rest else reader)
      (if condition then throw fault >>= mirrored else other) := by
  by_cases hcondition : condition
  · rw [if_pos hcondition, if_pos hcondition]
    exact relation.of_throw fault
  · rw [if_neg hcondition, if_neg hcondition]
    exact hreader

theorem of_refuse : relation.related (refuse : Reading α) refuse :=
  relation.of_throw .invalid

theorem hexCode (places : Nat) : relation.related (hexCode places) (hexCode places) :=
  relation.bind (relation.upTo isHex places fun _ ↦ id) fun _ ↦
    relation.guarded _ (relation.of_pure _)

theorem codeEscapeAfter [CharacterNames] (letter : Char) :
    relation.related (codeEscapeAfter letter) (codeEscapeAfter letter) := by
  unfold Regex.codeEscapeAfter
  split
  · exact relation.bind (relation.hexCode 2) fun code ↦ relation.of_pure _
  · exact relation.bind (relation.hexCode 4) fun code ↦ relation.of_pure _
  · exact relation.bind (relation.hexCode 8) fun code ↦ relation.guarded _ (relation.of_pure _)
  · refine relation.bind (relation.expect _) fun _ ↦
      relation.bind (relation.textUntil _) fun name ↦ ?_
    split
    · exact relation.of_pure _
    · exact relation.of_refuse
  · exact relation.of_pure _

theorem classMember [CharacterNames] (c : Char) :
    relation.related (classMember c) (classMember c) := by
  unfold Regex.classMember
  split
  · exact relation.of_pure _
  split
  · exact relation.of_pure _
  refine relation.bind (relation.codeEscapeAfter c) fun code ↦ ?_
  split
  · exact relation.of_pure _
  split
  · exact relation.bind (relation.upTo isOctal 2 fun _ ↦ isHex_of_isOctal) fun digits ↦
      relation.guarded _ (relation.of_pure _)
  · exact relation.guarded _ (relation.of_pure _)

/-- A class member, which may be escaped, and what is read behind it. -/
theorem member_bind [CharacterNames] (token : Token)
    {further mirrored : ClassItem → Reading (List ClassItem)}
    (hfurther : ∀ item, relation.related (further item) (mirrored item)) :
    relation.related
      (match token with
        | .escaped c => Regex.classMember c >>= further
        | .plain c => pure (.code c.toNat) >>= further)
      (match token with
        | .escaped c => Regex.classMember c >>= mirrored
        | .plain c => pure (.code c.toNat) >>= mirrored) := by
  cases token with
  | escaped c => exact relation.bind (relation.classMember c) hfurther
  | plain c => exact hfurther _

theorem classItems [CharacterNames] (fuel : Nat) : ∀ bound items, relation.room fuel bound →
    relation.related (classItems fuel items) (classItems bound items) := by
  induction fuel with
  | zero =>
    intro bound items hbound
    exact relation.spent hbound (by rintro rfl; rfl)
  | succ fuel ih =>
    intro bound items hbound
    obtain ⟨bound, rfl, hless⟩ := relation.less hbound
    unfold Regex.classItems
    refine relation.next_bind rfl rfl fun token ↦ ?_
    dsimp only
    split
    · exact relation.of_pure _
    refine relation.member_bind token fun first ↦
      relation.bind (relation.accept '-' (by decide)) fun ranged ↦ ?_
    split
    · refine relation.next_bind rfl rfl fun token ↦ ?_
      dsimp only
      split
      · exact relation.of_pure _
      refine relation.member_bind token fun last ↦ ?_
      split
      · exact relation.guarded _ (ih bound _ hless)
      · exact relation.of_refuse
    · exact ih bound _ hless

theorem charClass [CharacterNames] (flags : Flags) :
    relation.related (charClass flags) (charClass flags) := by
  refine relation.bind (relation.accept '^' (by decide)) fun negated ↦ relation.sized (fun fuel ↦ do
    let items ← Regex.classItems fuel []
    return CharTest.oneOf flags.folding flags.basic negated items) fun fuel bound hbound ↦ ?_
  exact relation.bind (relation.classItems fuel bound [] hbound) fun items ↦ relation.of_pure _

theorem clearedFlags (letters : List Char) (fuel : Nat) : ∀ bound flags, relation.room fuel bound →
    relation.related (clearedFlags letters fuel flags) (clearedFlags letters bound flags) := by
  induction fuel with
  | zero =>
    intro bound flags hbound
    exact relation.spent hbound (by rintro rfl; rfl)
  | succ fuel ih =>
    intro bound flags hbound
    obtain ⟨bound, rfl, hless⟩ := relation.less hbound
    unfold Regex.clearedFlags
    refine relation.next_bind rfl rfl fun token ↦ ?_
    dsimp only
    split
    · split
      · refine relation.guarded _ (relation.bind (relation.accept ':' (by decide)) fun last ↦ ?_)
        split
        · exact relation.of_pure _
        · exact ih bound _ hless
      · exact relation.of_refuse
    · exact relation.of_refuse

theorem furtherFlags {fuel bound : Nat} (letters : List Char) (hbound : relation.room fuel bound)
    (hset : ∀ flags c, relation.related (Regex.setFlags letters fuel flags c)
      (Regex.setFlags letters bound flags c)) (flags : Flags) :
    relation.related
      (do
        let some (.plain next) ← next | refuse
        if next = ':' then return flags
        else if next = '-' then Regex.clearedFlags letters fuel flags
        else Regex.setFlags letters fuel flags next)
      (do
        let some (.plain next) ← next | refuse
        if next = ':' then return flags
        else if next = '-' then Regex.clearedFlags letters bound flags
        else Regex.setFlags letters bound flags next) := by
  refine relation.next_bind rfl rfl fun token ↦ ?_
  split
  · split
    · exact relation.of_pure _
    split
    · exact relation.clearedFlags letters fuel bound flags hbound
    · exact hset flags _
  · exact relation.of_refuse

theorem setFlags (fuel : Nat) : ∀ bound letters flags c, relation.room fuel bound →
    relation.related (setFlags letters fuel flags c) (setFlags letters bound flags c) := by
  induction fuel with
  | zero =>
    intro bound letters flags c hbound
    exact relation.spent hbound (by rintro rfl; rfl)
  | succ fuel ih =>
    intro bound letters flags c hbound
    obtain ⟨bound, rfl, hless⟩ := relation.less hbound
    have hfurther := relation.furtherFlags (c :: letters) hless fun flags next ↦
      ih bound (c :: letters) flags next hless
    unfold Regex.setFlags
    split
    · exact relation.guarded _ (hfurther _)
    · exact relation.guarded _ (hfurther _)
    · split
      · exact hfurther _
      · exact relation.of_refuse

theorem groupFlags (flags : Flags) (c : Char) :
    relation.related (groupFlags flags c) (groupFlags flags c) := by
  refine relation.sized (fun bound ↦ if c = '-' then Regex.clearedFlags [] bound flags
    else Regex.setFlags [] bound flags c) fun fuel bound hbound ↦ ?_
  split
  · exact relation.clearedFlags [] fuel bound flags hbound
  · exact relation.setFlags fuel bound [] flags c hbound

theorem repeatCount (digits : List Char) :
    relation.related (repeatCount digits) (repeatCount digits) :=
  relation.guarded _ (relation.guarded _ (relation.of_pure _))

theorem greed : relation.related greed greed := by
  refine relation.bind (relation.accept '?' (by decide)) fun reluctant ↦ ?_
  cases reluctant with
  | true => exact relation.of_pure _
  | false =>
    refine relation.bind (relation.accept '+' (by decide)) fun possessive ↦ ?_
    cases possessive with
    | true => exact relation.of_pure _
    | false => exact relation.of_pure _

/-- The sign of a repetition, given the bounds in braces. -/
theorem repetition? (hbraces : relation.related braces? braces?) (sign : Char) :
    relation.related (repetition? sign) (repetition? sign) := by
  unfold Regex.repetition?
  split
  · exact relation.of_pure _
  · exact relation.of_pure _
  · exact relation.of_pure _
  · exact hbraces
  · exact relation.of_pure _

end ReaderRelation

end LicenseHeaders.Regex
