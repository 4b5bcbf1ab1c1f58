import LicenseHeaders.Proofs.Regex.Sequences
import Mathlib.Data.List.Infix

/-!
# A fragment at the end of a pattern

A fragment that ends a longer pattern is read there token by token as it is on its own; only the
numbers of its groups are moved up. `Mirrors` compares the progress of the two ways to read it.
Readers are alike (`ReadsAlike`) if, from progress that mirrors, both are refused for the same cause
or both come to progress that mirrors again. A fragment that is refused on its own is then refused
at the end of a longer pattern too, and for the same cause.

The one thing that can tell the two apart is a group that is asked for by its number
(`asksByNumber`): the number is the same in both, the group is not.
-/

set_option autoImplicit false
set_option relaxedAutoImplicit false

namespace LicenseHeaders.Regex

open Text Reading

/-! ### Groups asked for by number -/

/-- Whether tokens start with what asks for a group by its number: a backslash and a digit other
than nought, or a choice by a number. -/
def startsByNumber : List Token → Bool
  | .escaped c :: _ => c.isDigit && c != '0'
  | .plain '(' :: .plain '?' :: .plain '(' :: rest =>
    match splitAt? ')' rest with
    | some (text, _) => (wholeNumber? text).any fun number ↦ decide (0 < number)
    | none => false
  | _ => false

/-- Whether tokens ask for a group by its number somewhere. -/
def asksByNumber (tokens : List Token) : Bool :=
  tokens.tails.any startsByNumber

theorem asksByNumber_eq_false_iff {tokens : List Token} :
    asksByNumber tokens = false ↔ ∀ ending, ending <:+ tokens → startsByNumber ending = false := by
  simp only [asksByNumber, List.any_eq_false, List.mem_tails, Bool.not_eq_true]

/-- A condition on tokens that holds of their ends too. -/
def Kept (may : List Token → Prop) : Prop :=
  ∀ tokens ending, may tokens → ending <:+ tokens → may ending

theorem kept_true : Kept fun _ ↦ True :=
  fun _ _ _ _ ↦ trivial

/-- Tokens, at most so many, which ask for no group by its number. -/
def Plain (limit : Nat) (tokens : List Token) : Prop :=
  tokens.length ≤ limit ∧ asksByNumber tokens = false

theorem kept_plain (limit : Nat) : Kept (Plain limit) := by
  rintro tokens ending ⟨hlength, hasks⟩ hsuffix
  rw [asksByNumber_eq_false_iff] at hasks
  exact ⟨Nat.le_trans hsuffix.length_le hlength,
    asksByNumber_eq_false_iff.mpr fun other hother ↦ hasks other (hother.trans hsuffix)⟩

/-! ### Progress side by side -/

/-- The number of a group and its number behind other groups. -/
def Shifted (shift number other : Nat) : Prop :=
  0 < number ∧ other = number + shift

/-- A pattern and its image behind other groups. -/
def Moved (shift : Nat) (pattern other : Pattern) : Prop :=
  pattern.asksFor 0 = false ∧ other = pattern.renumbered shift

/-- The progress on a fragment and the progress on a longer pattern that ends with it: the same
tokens are to be read, and what is known of the groups of the fragment is the same. -/
structure Mirrors (shift : Nat) (inner outer : Progress) : Prop where
  rest : outer.rest = inner.rest
  nextGroup : Shifted shift inner.nextGroup outer.nextGroup
  names : ∀ name, Option.Rel (Shifted shift) (inner.names.lookup name) (outer.names.lookup name)
  widths : ∀ number, 0 < number →
    outer.widths.lookup (number + shift) = inner.widths.lookup number
  asked : inner.asked = 0 ∧ outer.asked = 0
  lookingBack : outer.lookingBack = inner.lookingBack.map (· + shift)

/-- Both readers are refused for the same cause, or both come to values that are the same in the
sense given and to progress that mirrors, with an end of the tokens left. -/
inductive EndsAlike {α : Type} (shift : Nat) (same : α → α → Prop) (tokens : List Token) :
    Except PatternFault (α × Progress) → Except PatternFault (α × Progress) → Prop
  | refused (cause : PatternFault) : EndsAlike shift same tokens (.error cause) (.error cause)
  | reached {value other : α} {left reached : Progress} (hsame : same value other)
      (hmirrors : Mirrors shift left reached) (hsuffix : left.rest <:+ tokens) :
      EndsAlike shift same tokens (.ok (value, left)) (.ok (other, reached))

/-- Readers that end alike wherever their progress mirrors, as far as the tokens `may` stand there.
-/
def ReadsAlike {α : Type} (shift : Nat) (may : List Token → Prop) (same : α → α → Prop)
    (reader other : Reading α) : Prop :=
  ∀ inner outer, Mirrors shift inner outer → may inner.rest →
    EndsAlike shift same inner.rest (reader inner) (other outer)

/-- A reader that ends alike with the same value, whatever the tokens are. -/
abbrev ReadsSame {α : Type} (shift : Nat) (reader : Reading α) : Prop :=
  ReadsAlike shift (fun _ ↦ True) Eq reader reader

theorem Mirrors.read {shift : Nat} {inner outer : Progress} (hmirrors : Mirrors shift inner outer)
    (rest : List Token) : Mirrors shift { inner with rest := rest } { outer with rest := rest } :=
  ⟨rfl, hmirrors.nextGroup, hmirrors.names, hmirrors.widths, hmirrors.asked, hmirrors.lookingBack⟩

theorem Mirrors.groupWidth {shift : Nat} {inner outer : Progress}
    (hmirrors : Mirrors shift inner outer)
    {number : Nat} (hnumber : 0 < number) :
    outer.groupWidth (number + shift) = inner.groupWidth number := by
  rw [Progress.groupWidth, hmirrors.widths number hnumber, Progress.groupWidth]

/-- A pattern has the same width as its image. -/
theorem Moved.width {shift : Nat} {inner outer : Progress} {pattern other : Pattern}
    (hmoved : Moved shift pattern other) (hmirrors : Mirrors shift inner outer) :
    other.width outer.groupWidth = pattern.width inner.groupWidth := by
  obtain ⟨hasks, rfl⟩ := hmoved
  refine Pattern.width_renumbered_of fun number hnumber ↦ hmirrors.groupWidth ?_
  rw [Nat.pos_iff_ne_zero]
  rintro rfl
  rw [hasks] at hnumber
  cases hnumber

/-! ### Readers put together -/

section Together

variable {α β : Type} {shift : Nat} {may : List Token → Prop} {same : α → α → Prop}
  {last : β → β → Prop} {reader other : Reading α} {further mirrored : α → Reading β}

theorem EndsAlike.mono {result image : Except PatternFault (α × Progress)}
    {tokens more : List Token}
    {weaker : α → α → Prop} (hends : EndsAlike shift same tokens result image)
    (hsame : ∀ value other, same value other → weaker value other) (hsuffix : tokens <:+ more) :
    EndsAlike shift weaker more result image := by
  cases hends with
  | refused cause => exact .refused cause
  | reached hvalue hmirrors hleft =>
    exact .reached (hsame _ _ hvalue) hmirrors (hleft.trans hsuffix)

theorem EndsAlike.bind {inner outer : Progress}
    (hreader : EndsAlike shift same inner.rest (reader inner) (other outer))
    (hfurther : ∀ value image left reached, same value image → Mirrors shift left reached →
      left.rest <:+ inner.rest →
      EndsAlike shift last left.rest (further value left) (mirrored image reached)) :
    EndsAlike shift last inner.rest ((reader >>= further) inner) ((other >>= mirrored) outer) := by
  change EndsAlike shift last inner.rest ((reader inner).bind _) ((other outer).bind _)
  revert hreader
  generalize reader inner = result
  generalize other outer = image
  intro hreader
  cases hreader with
  | refused cause => exact .refused cause
  | reached hsame hmirrors hsuffix =>
    exact (hfurther _ _ _ _ hsame hmirrors hsuffix).mono (fun _ _ ↦ id) hsuffix

namespace ReadsAlike

theorem mono {fewer : List Token → Prop} (halike : ReadsAlike shift may same reader other)
    (hmay : ∀ tokens, fewer tokens → may tokens) : ReadsAlike shift fewer same reader other :=
  fun inner outer hmirrors hfewer ↦ halike inner outer hmirrors (hmay _ hfewer)

theorem of_pure {value image : α} (hsame : same value image) :
    ReadsAlike shift may same (pure value) (pure image) :=
  fun _ _ hmirrors _ ↦ .reached hsame hmirrors List.suffix_rfl

theorem of_throw (cause : PatternFault) :
    ReadsAlike shift may same (throw cause : Reading α) (throw cause) :=
  fun _ _ _ _ ↦ .refused cause

theorem of_refuse : ReadsAlike shift may same (refuse : Reading α) refuse :=
  of_throw .invalid

/-- A check that refuses what meets a condition. -/
theorem guarded {γ : Type} {cause : PatternFault} (condition : Prop) [Decidable condition]
    {rest restMirrored : γ → Reading α} (halike : ReadsAlike shift may same reader other) :
    ReadsAlike shift may same (if condition then throw cause >>= rest else reader)
      (if condition then throw cause >>= restMirrored else other) := by
  by_cases hcondition : condition
  · rw [if_pos hcondition, if_pos hcondition]
    exact fun _ _ _ _ ↦ .refused cause
  · rw [if_neg hcondition, if_neg hcondition]
    exact halike

/-- One reader after another. -/
theorem bind {behind : List Token → Prop} (halike : ReadsAlike shift may same reader other)
    (hkept : ∀ tokens ending, may tokens → ending <:+ tokens → behind ending)
    (hfurther : ∀ value image, same value image →
      ReadsAlike shift behind last (further value) (mirrored image)) :
    ReadsAlike shift may last (reader >>= further) (other >>= mirrored) :=
  fun inner outer hmirrors hmay ↦ (halike inner outer hmirrors hmay).bind
    fun value image left reached hsame hleft hsuffix ↦
      hfurther value image hsame left reached hleft (hkept _ _ hmay hsuffix)

/-- One reader after another, of which the first ends alike whatever the tokens are. -/
theorem bind_same (hsame : ReadsSame shift reader) (hkept : Kept may)
    (hfurther : ∀ value, ReadsAlike shift may last (further value) (mirrored value)) :
    ReadsAlike shift may last (reader >>= further) (reader >>= mirrored) :=
  (hsame.mono fun _ _ ↦ trivial).bind hkept fun value _ hvalue ↦ hvalue ▸ hfurther value

/-- A reader that looks at its progress. -/
theorem get_bind {further mirrored : Progress → Reading β}
    (hfurther : ∀ inner outer, Mirrors shift inner outer → may inner.rest →
      EndsAlike shift last inner.rest (further inner inner) (mirrored outer outer)) :
    ReadsAlike shift may last (get >>= further) (get >>= mirrored) :=
  hfurther

theorem next_bind {further mirrored : Option Token → Reading β} (hnone : further none = refuse)
    (hmirrored : mirrored none = refuse)
    (hsome : ∀ token, ReadsAlike shift (fun rest ↦ may (token :: rest)) last (further (some token))
      (mirrored (some token))) :
    ReadsAlike shift may last (next >>= further) (next >>= mirrored) := by
  intro inner outer hmirrors hmay
  obtain ⟨tokens, nextGroup, names, widths, asked, lookingBack⟩ := inner
  obtain ⟨others, nextGroup', names', widths', asked', lookingBack'⟩ := outer
  cases hmirrors.rest
  cases tokens with
  | nil =>
    change EndsAlike shift last [] (further none _) (mirrored none _)
    rw [hnone, hmirrored]
    exact .refused .invalid
  | cons token rest =>
    exact (hsome token _ _ (hmirrors.read rest) hmay).mono (fun _ _ ↦ id)
      (List.suffix_cons token rest)

end ReadsAlike

end Together

/-! ### Tokens -/

section Tokens

variable {β : Type} {shift : Nat} {may : List Token → Prop} {last : β → β → Prop}

theorem accept_bind_alike {c : Char} {further mirrored : Bool → Reading β}
    (htrue : ReadsAlike shift (fun rest ↦ may (.plain c :: rest)) last (further true)
      (mirrored true))
    (hfalse : ReadsAlike shift may last (further false) (mirrored false)) :
    ReadsAlike shift may last (accept c >>= further) (accept c >>= mirrored) := by
  intro inner outer hmirrors hmay
  by_cases hhead : inner.rest.head? = some (.plain c)
  · obtain ⟨rest, hrest⟩ := List.head?_eq_some_iff.mp hhead
    have haccept : ∀ progress : Progress, progress.rest = .plain c :: rest →
        accept c progress = .ok (true, { progress with rest := rest }) := by
      intro progress hprogress
      rw [accept_apply, hprogress]
      exact if_pos rfl
    rw [bind_of_eq_ok (haccept inner hrest),
      bind_of_eq_ok (haccept outer (hmirrors.rest.trans hrest))]
    refine (htrue _ _ (hmirrors.read rest) (by rwa [hrest] at hmay)).mono (fun _ _ ↦ id) ?_
    rw [hrest]
    exact List.suffix_cons _ rest
  · rw [bind_of_eq_ok (accept_of_head hhead),
      bind_of_eq_ok (accept_of_head (by rwa [hmirrors.rest]))]
    exact hfalse inner outer hmirrors hmay

theorem alike_accept (c : Char) : ReadsSame shift (accept c) := by
  have halike : ReadsSame shift (accept c >>= pure) :=
    accept_bind_alike (.of_pure rfl) (.of_pure rfl)
  rwa [bind_pure] at halike

theorem alike_expect (c : Char) : ReadsSame shift (expect c) :=
  (alike_accept c).bind_same kept_true fun found ↦ by
    cases found with
    | true => exact .of_pure rfl
    | false => exact .of_refuse

theorem alike_upTo (wanted : Char → Bool) (count : Nat) : ReadsSame shift (upTo wanted count) := by
  induction count with
  | zero => exact .of_pure rfl
  | succ count ih =>
    intro inner outer hmirrors _
    rw [upTo_succ_apply, upTo_succ_apply, hmirrors.rest]
    rcases hrest : inner.rest with _ | ⟨⟨c⟩ | ⟨c⟩, rest⟩
    · exact .reached rfl hmirrors (hrest ▸ List.suffix_rfl)
    · dsimp only
      split
      · have hread := ih _ _ (hmirrors.read rest) trivial
        generalize upTo wanted count { inner with rest := rest } = result at hread ⊢
        generalize upTo wanted count { outer with rest := rest } = image at hread ⊢
        cases hread with
        | refused cause => exact .refused cause
        | reached hsame hleft hsuffix =>
          exact .reached (congrArg (c :: ·) hsame) hleft (hsuffix.trans (List.suffix_cons _ rest))
      · exact .reached rfl hmirrors (hrest ▸ List.suffix_rfl)
    · exact .reached rfl hmirrors (hrest ▸ List.suffix_rfl)

theorem alike_every (wanted : Char → Bool) : ReadsSame shift (every wanted) :=
  .get_bind fun inner outer hmirrors _ ↦ by
    rw [hmirrors.rest]
    exact alike_upTo wanted _ inner outer hmirrors trivial

theorem textUntil_bind_alike {stop : Char} {further mirrored : List Char → Reading β}
    (hfurther : ∀ text, ReadsAlike shift
      (fun rest ↦ ∃ tokens, may tokens ∧ splitAt? stop tokens = some (text, rest)) last
      (further text) (mirrored text)) :
    ReadsAlike shift may last (textUntil stop >>= further) (textUntil stop >>= mirrored) := by
  intro inner outer hmirrors hmay
  change EndsAlike shift last inner.rest ((textUntil stop inner).bind _)
    ((textUntil stop outer).bind _)
  rw [textUntil_apply, textUntil_apply, hmirrors.rest]
  rcases hsplit : splitAt? stop inner.rest with _ | ⟨text, rest⟩
  · exact .refused .invalid
  · dsimp only
    split
    · exact .refused .invalid
    · exact (hfurther text _ _ (hmirrors.read rest) ⟨_, hmay, hsplit⟩).mono (fun _ _ ↦ id)
        (suffix_of_splitAt? hsplit)

theorem alike_textUntil (stop : Char) : ReadsSame shift (textUntil stop) := by
  have halike : ReadsSame shift (textUntil stop >>= pure) :=
    textUntil_bind_alike fun text ↦ .of_pure rfl
  rwa [bind_pure] at halike

theorem alike_skipComment : ReadsSame shift skipComment :=
  .get_bind fun inner outer hmirrors _ ↦ by
    rw [hmirrors.rest]
    rcases hsplit : splitAt? ')' inner.rest with _ | ⟨text, rest⟩
    · exact .refused .invalid
    · exact .reached rfl (hmirrors.read rest) (suffix_of_splitAt? hsplit)

theorem alike_skipRemark : ReadsSame shift skipRemark :=
  .get_bind fun inner outer hmirrors _ ↦ by
    rw [hmirrors.rest]
    rcases hsplit : splitAt? '\n' inner.rest with _ | ⟨text, rest⟩
    · exact .reached rfl (hmirrors.read []) (List.nil_suffix)
    · exact .reached rfl (hmirrors.read rest) (suffix_of_splitAt? hsplit)

/-- Readers that end alike with the same value are related. -/
def sameRelation (shift : Nat) : ReaderRelation where
  related reader other := ReadsAlike shift (fun _ ↦ True) Eq reader other
  room := (· = ·)
  of_pure _ := .of_pure rfl
  of_throw := .of_throw
  bind hreader hfurther := hreader.bind kept_true fun value _ hvalue ↦ hvalue ▸ hfurther value
  next_bind hnone hmirrored hsome := .next_bind hnone hmirrored hsome
  accept c _ := alike_accept c
  expect := alike_expect
  upTo wanted count _ := alike_upTo wanted count
  textUntil := alike_textUntil
  spent hbound hnone := by
    rw [hnone hbound.symm]
    exact .of_refuse
  less hbound := ⟨_, hbound.symm, rfl⟩
  sized reader hreader := .get_bind fun inner outer hmirrors _ ↦ by
    rw [hmirrors.rest]
    exact hreader _ _ rfl inner outer hmirrors trivial

end Tokens

/-! ### Repetitions -/

section Repetitions

variable {shift : Nat}

theorem alike_bracedDigits : ReadsSame shift bracedDigits := by
  have hupper : ∀ low, ReadsSame shift (upperDigits low) := fun low ↦
    accept_bind_alike ((alike_every _).mono fun _ _ ↦ trivial) (.of_pure rfl)
  exact (alike_every _).bind_same kept_true fun low ↦ (hupper low).bind_same kept_true fun high ↦
    (alike_accept _).bind_same kept_true fun closed ↦ .of_pure rfl

theorem alike_braces? : ReadsSame shift braces? := by
  intro inner outer hmirrors _
  have hdigits := alike_bracedDigits inner outer hmirrors trivial
  rw [braces?_apply, braces?_apply, hmirrors.rest]
  generalize bracedDigits inner = result at hdigits ⊢
  generalize bracedDigits outer = image at hdigits ⊢
  cases hdigits with
  | refused cause => exact .refused cause
  | @reached digits _ left reached hsame hleft hsuffix =>
    obtain rfl := hsame
    simp only [Except.bind]
    split
    · split
      · exact .reached rfl hmirrors List.suffix_rfl
      · have hbounds : ReadsSame shift (boundsOf digits.1) := (sameRelation shift).boundsOf digits.1
        exact (hbounds left reached hleft trivial).mono (fun _ _ ↦ id) hsuffix
    · exact .reached rfl hmirrors List.suffix_rfl

end Repetitions

/-! ### Groups -/

section Groups

variable {shift : Nat}

theorem alike_openGroup (name : Option (List Char)) :
    ReadsAlike shift (fun _ ↦ True) (Shifted shift) (openGroup name) (openGroup name) := by
  intro inner outer hmirrors _
  obtain ⟨hpositive, hnext⟩ := hmirrors.nextGroup
  have hopened : Shifted shift (inner.nextGroup + 1) (outer.nextGroup + 1) :=
    ⟨Nat.succ_pos _, by rw [hnext, Nat.add_right_comm]⟩
  cases name with
  | none =>
    exact .reached hmirrors.nextGroup ⟨hmirrors.rest, hopened, hmirrors.names, hmirrors.widths,
      hmirrors.asked, hmirrors.lookingBack⟩ List.suffix_rfl
  | some name =>
    rw [openGroup_some_apply, openGroup_some_apply]
    have hname := hmirrors.names (String.ofList name)
    generalize inner.names.lookup (String.ofList name) = found at hname ⊢
    generalize outer.names.lookup (String.ofList name) = image at hname ⊢
    cases hname with
    | some => exact .refused .invalid
    | none =>
      refine .reached hmirrors.nextGroup ⟨hmirrors.rest, hopened, fun further ↦ ?_, hmirrors.widths,
        hmirrors.asked, hmirrors.lookingBack⟩ List.suffix_rfl
      simp only [List.lookup_cons]
      split
      · exact .some hmirrors.nextGroup
      · exact hmirrors.names further

theorem alike_closeGroup {number other : Nat} {body image : Pattern}
    (hnumber : Shifted shift number other) (hbody : Moved shift body image) :
    ReadsAlike shift (fun _ ↦ True) Eq (closeGroup number body) (closeGroup other image) := by
  intro inner outer hmirrors _
  obtain ⟨-, rfl⟩ := hnumber
  refine .reached rfl ⟨hmirrors.rest, hmirrors.nextGroup, hmirrors.names, fun further hfurther ↦ ?_,
    hmirrors.asked, hmirrors.lookingBack⟩ List.suffix_rfl
  have hbeq : (further + shift == number + shift) = (further == number) := by
    rw [Bool.eq_iff_iff, beq_iff_eq, beq_iff_eq, Nat.add_right_cancel_iff]
  simp only [List.lookup_cons, hbeq, hbody.width hmirrors, hmirrors.widths further hfurther]

theorem alike_checkLookingBack {number other : Nat} (hnumber : Shifted shift number other) :
    ReadsAlike shift (fun _ ↦ True) Eq (checkLookingBack number) (checkLookingBack other) :=
  .get_bind fun inner outer hmirrors _ ↦ by
    obtain ⟨hpositive, rfl⟩ := hnumber
    rw [hmirrors.lookingBack]
    rcases inner.lookingBack with _ | first
    · exact .reached rfl hmirrors List.suffix_rfl
    · simp only [Option.map_some, hmirrors.widths number hpositive, Nat.add_le_add_iff_right]
      split
      · exact .refused .invalid
      · exact .reached rfl hmirrors List.suffix_rfl

theorem alike_groupReference (flags : Flags) {number other : Nat}
    (hnumber : Shifted shift number other) :
    ReadsAlike shift (fun _ ↦ True) (Moved shift) (groupReference flags number)
      (groupReference flags other) :=
  .get_bind fun inner outer hmirrors _ ↦ by
    have hcheck : ReadsAlike shift (fun _ ↦ True) (Moved shift)
        (do checkLookingBack number; return .sameAs flags.folding number)
        (do checkLookingBack other; return .sameAs flags.folding other) := by
      refine (alike_checkLookingBack hnumber).bind kept_true fun _ _ _ ↦ .of_pure ⟨?_, ?_⟩
      · exact beq_false_of_ne hnumber.1.ne'
      · rw [hnumber.2, Pattern.renumbered]
    obtain ⟨hpositive, rfl⟩ := hnumber
    rw [hmirrors.widths number hpositive]
    split
    · exact .refused .invalid
    · exact hcheck inner outer hmirrors trivial

/-- Whether a choice by a group asks for it by its number. -/
def choiceByNumber (tokens : List Token) : Bool :=
  startsByNumber (.plain '(' :: .plain '?' :: .plain '(' :: tokens)

/-- The name of a group stands for that group in both. -/
theorem alike_askedGroup :
    ReadsAlike shift (fun rest ↦ choiceByNumber rest = false)
    (Shifted shift) askedGroup askedGroup := by
  refine textUntil_bind_alike fun text ↦ ?_
  split
  · refine .get_bind fun inner outer hmirrors _ ↦ ?_
    have hname := hmirrors.names (String.ofList text)
    generalize inner.names.lookup (String.ofList text) = found at hname ⊢
    generalize outer.names.lookup (String.ofList text) = image at hname ⊢
    cases hname with
    | none => exact .refused .invalid
    | some hnumber => exact .reached hnumber hmirrors List.suffix_rfl
  · rintro inner outer hmirrors ⟨tokens, htokens, hsplit⟩
    simp only [choiceByNumber, startsByNumber, hsplit] at htokens
    rcases hwhole : wholeNumber? text with _ | number | number
    · exact .refused .invalid
    · -- Only nought is left, which is no number of a group.
      have hnought : number = 0 := by simpa [hwhole] using htokens
      subst hnought
      exact .refused .invalid
    · exact .refused .invalid

end Groups

end LicenseHeaders.Regex
