import LicenseHeaders.Proofs.Regex.Numbering
import LicenseHeaders.Proofs.Regex.Relating
import Mathlib

/-!
# Reading a fragment inside a longer pattern

A fragment of pattern text that is a pattern on its own is put into a longer one, with text before
and behind it. `StandsIn` compares the two ways to read it: the tokens behind the fragment are still
to come, the numbers of groups are moved up, and some names of groups are taken already. A reader
`Carries` what it does on the fragment over to the longer pattern: where it succeeds on the
fragment, it succeeds there, with the image of its result, and the two stay beside each other.

The tokens behind the fragment must not go on with what it ends with (`Stops`): a digit would join a
number, and a question mark a repetition.
-/

set_option autoImplicit false
set_option relaxedAutoImplicit false

namespace LicenseHeaders.Regex

open Reading

/-! ### Surroundings -/

/-- What stands around a fragment inside a longer pattern. -/
structure Surroundings where
  /-- The tokens behind the fragment. -/
  more : List Token
  /-- How many groups open before the fragment. -/
  groups : Nat
  /-- The names of the groups that open before the fragment. -/
  taken : List String

/-- The progress on a fragment beside the progress on the longer pattern around it. -/
structure StandsIn (around : Surroundings) (inner outer : Progress) : Prop where
  rest : outer.rest = inner.rest ++ around.more
  nextGroup : outer.nextGroup = inner.nextGroup + around.groups
  names : ∀ name, (outer.names.lookup name).isSome = true →
    (inner.names.lookup name).isSome = true ∨ name ∈ around.taken
  asked : outer.asked = 0

/-- Tokens that do not go on with a number, a repetition, a range, a negation or a group's flags
that stand before them. -/
structure Stops (more : List Token) : Prop where
  mark : ∀ c ∈ ['?', '+', '-', '^', ':', '\x7d'], more.head? ≠ some (.plain c)
  digit : ∀ c, more.head? = some (.plain c) → isHex c = false
  comma : more.head? = some (.plain ',') → ∀ c, more.tail.head? = some (.plain c) →
    c ≠ '\x7d' ∧ c.isDigit = false

theorem Stops.of_hex {more : List Token} (hstops : Stops more) {wanted : Char → Bool}
    (hwanted : ∀ c, wanted c = true → isHex c = true) (c : Char)
    (hc : more.head? = some (.plain c)) : wanted c = false := by
  rw [← Bool.not_eq_true]
  intro hwant
  have hhex := hstops.digit c hc
  rw [hwanted c hwant] at hhex
  cases hhex

theorem Stops.decimal {more : List Token} (hstops : Stops more) (c : Char)
    (hc : more.head? = some (.plain c)) : c.isDigit = false :=
  hstops.of_hex (fun _ ↦ isHex_of_isDigit) c hc

theorem Stops.octal {more : List Token} (hstops : Stops more) (c : Char)
    (hc : more.head? = some (.plain c)) : isOctal c = false :=
  hstops.of_hex (fun _ ↦ isHex_of_isOctal) c hc

/-- A fragment that stands alone. -/
def Surroundings.bare : Surroundings :=
  ⟨[], 0, []⟩

theorem stops_bare : Stops Surroundings.bare.more :=
  ⟨fun _ _ ↦ nofun, fun _ ↦ nofun, nofun⟩

/-- Groups are only ever opened, names only ever added, and tokens only ever read. -/
structure Grows (before after : Progress) : Prop where
  nextGroup : before.nextGroup ≤ after.nextGroup
  names : ∀ name, (before.names.lookup name).isSome = true →
    (after.names.lookup name).isSome = true
  rest : after.rest.length ≤ before.rest.length

/-- No group of the fragment has a name that is taken. -/
def Apart (around : Surroundings) (progress : Progress) : Prop :=
  ∀ name ∈ around.taken, (progress.names.lookup name).isSome = false

theorem exists_standsIn (around : Surroundings) (inner : Progress) :
    ∃ outer, StandsIn around inner outer :=
  ⟨{ inner with
      rest := inner.rest ++ around.more
      nextGroup := inner.nextGroup + around.groups
      asked := 0 }, rfl, rfl, fun _ ↦ .inl, rfl⟩

theorem Grows.refl (progress : Progress) : Grows progress progress :=
  ⟨Nat.le_refl _, fun _ ↦ id, Nat.le_refl _⟩

theorem Grows.trans {first second third : Progress} (hfirst : Grows first second)
    (hsecond : Grows second third) : Grows first third :=
  ⟨Nat.le_trans hfirst.nextGroup hsecond.nextGroup,
    fun name hname ↦ hsecond.names name (hfirst.names name hname),
    Nat.le_trans hsecond.rest hfirst.rest⟩

theorem Grows.rest_ne_nil {before after : Progress} (hgrows : Grows before after)
    (hafter : after.rest ≠ []) : before.rest ≠ [] := by
  intro hnil
  have hlength := hgrows.rest
  rw [hnil] at hlength
  exact hafter (List.eq_nil_of_length_eq_zero (Nat.le_zero.mp hlength))

theorem Apart.of_grows {around : Surroundings} {before after : Progress}
    (hgrows : Grows before after) (hapart : Apart around after) : Apart around before := by
  intro name hname
  have hafter := hapart name hname
  by_cases hsome : (before.names.lookup name).isSome = true
  · rw [hgrows.names name hsome] at hafter
    cases hafter
  · exact Bool.not_eq_true _ ▸ hsome

/-! ### Readers side by side -/

/-- What a reader does on a fragment another reader does on the longer pattern, with the image of
its result. Of the result and the progress behind it `sound` may be assumed. -/
structure Carries {α : Type} (around : Surroundings) (sound : α → Progress → Prop) (image : α → α)
    (reader other : Reading α) : Prop where
  grows : ∀ inner value left, reader inner = .ok (value, left) → Grows inner left
  carries : ∀ inner outer value left, StandsIn around inner outer →
    reader inner = .ok (value, left) → sound value left →
    ∃ reached, other outer = .ok (image value, reached) ∧ StandsIn around left reached

/-- What a reader does on a fragment another reader does on the longer pattern, with the same result
and with nothing to assume. -/
abbrev Carried {α : Type} (around : Surroundings) (reader other : Reading α) : Prop :=
  Carries around (fun _ _ ↦ True) id reader other

theorem bind_eq_ok_iff {α β : Type} {reader : Reading α} {further : α → Reading β}
    {progress left : Progress} {result : β} :
    (reader >>= further) progress = .ok (result, left) ↔
      ∃ value middle, reader progress = .ok (value, middle) ∧
        further value middle = .ok (result, left) := by
  change (reader progress).bind _ = _ ↔ _
  rcases reader progress with _ | ⟨value, middle⟩
  · exact ⟨nofun, nofun⟩
  · constructor
    · exact fun h ↦ ⟨value, middle, rfl, h⟩
    · rintro ⟨_, _, ⟨⟩, h⟩
      exact h

theorem bind_of_eq_ok {α β : Type} {reader : Reading α} {progress middle : Progress} {value : α}
    (hreader : reader progress = .ok (value, middle)) (further : α → Reading β) :
    (reader >>= further) progress = further value middle := by
  change (reader progress).bind _ = _
  rw [hreader]
  rfl

theorem get_bind_apply {α : Type} (further : Progress → Reading α) (progress : Progress) :
    (get >>= further) progress = further progress progress :=
  rfl

namespace Carries

variable {α β : Type} {around : Surroundings} {sound : α → Progress → Prop} {image : α → α}
  {outcome : β → Progress → Prop} {last : β → β} {reader other : Reading α}
  {further mirrored : α → Reading β}

theorem of_pure_of {value mirrored : α}
    (himage : ∀ left, sound value left → mirrored = image value) :
    Carries around sound image (pure value) (pure mirrored) := by
  refine ⟨fun inner _ _ h ↦ ?_, fun inner outer _ _ hstands h hsound ↦ ?_⟩
  · cases h
    exact Grows.refl inner
  · cases h
    rw [himage inner hsound]
    exact ⟨outer, rfl, hstands⟩

theorem of_pure {value mirrored : α} (himage : mirrored = image value) :
    Carries around sound image (pure value) (pure mirrored) :=
  of_pure_of fun _ _ ↦ himage

/-- A reader that refuses has nothing to carry over. -/
theorem of_throw (fault : PatternFault) :
    Carries around sound image (throw fault : Reading α) other :=
  ⟨nofun, nofun⟩

theorem of_refuse : Carries around sound image (refuse : Reading α) other :=
  of_throw .invalid

/-- A check that refuses what meets a condition. -/
theorem guarded {γ : Type} {fault : PatternFault} (condition : Prop) [Decidable condition]
    {rest restMirrored : γ → Reading α} (hreader : Carries around sound image reader other) :
    Carries around sound image (if condition then throw fault >>= rest else reader)
      (if condition then throw fault >>= restMirrored else other) := by
  by_cases hcondition : condition
  · rw [if_pos hcondition, if_pos hcondition]
    exact ⟨nofun, nofun⟩
  · rw [if_neg hcondition, if_neg hcondition]
    exact hreader

/-- A reader whose results never are sound has nothing to carry over. -/
theorem of_unsound
    (hgrows : ∀ inner value left, reader inner = .ok (value, left) → Grows inner left)
    (hsound : ∀ inner value left, reader inner = .ok (value, left) → ¬ sound value left) :
    Carries around sound image reader other :=
  ⟨hgrows, fun inner _ value left _ h hholds ↦ absurd hholds (hsound inner value left h)⟩

/-- One reader after another. Assumes: what is assumed of the second gives what is assumed of the
first. -/
theorem bind_of (hreader : Carries around sound image reader other)
    (hfurther : ∀ value, Carries around outcome last (further value) (mirrored (image value)))
    (hsound : ∀ value middle result left, further value middle = .ok (result, left) →
      outcome result left → sound value middle) :
    Carries around outcome last (reader >>= further) (other >>= mirrored) := by
  refine ⟨fun inner result left h ↦ ?_, fun inner outer result left hstands h houtcome ↦ ?_⟩
  · obtain ⟨value, middle, hvalue, hresult⟩ := bind_eq_ok_iff.mp h
    exact (hreader.grows _ _ _ hvalue).trans ((hfurther value).grows _ _ _ hresult)
  · obtain ⟨value, middle, hvalue, hresult⟩ := bind_eq_ok_iff.mp h
    obtain ⟨reached, hother, hmiddle⟩ := hreader.carries _ _ _ _ hstands hvalue
      (hsound value middle result left hresult houtcome)
    obtain ⟨end_, hmirrored, hleft⟩ := (hfurther value).carries _ _ _ _ hmiddle hresult houtcome
    exact ⟨end_, (bind_of_eq_ok hother mirrored).trans hmirrored, hleft⟩

/-- One reader after another, of which the first has nothing to assume. -/
theorem bind (hreader : Carries around (fun _ _ ↦ True) image reader other)
    (hfurther : ∀ value, Carries around outcome last (further value) (mirrored (image value))) :
    Carries around outcome last (reader >>= further) (other >>= mirrored) :=
  hreader.bind_of hfurther fun _ _ _ _ _ _ ↦ trivial

/-- A reader that looks at its progress. -/
theorem get_bind {further mirrored : Progress → Reading β}
    (hfurther : ∀ inner outer, StandsIn around inner outer →
      Carries around outcome last (further inner) (mirrored outer)) :
    Carries around outcome last (get >>= further) (get >>= mirrored) := by
  refine ⟨fun inner result left h ↦ ?_, fun inner outer result left hstands h houtcome ↦ ?_⟩
  · obtain ⟨outer, hstands⟩ := exists_standsIn around inner
    exact (hfurther inner outer hstands).grows inner result left h
  · exact (hfurther inner outer hstands).carries inner outer result left hstands h houtcome

end Carries

/-! ### Tokens -/

section Tokens

variable {around : Surroundings}

theorem StandsIn.read {inner outer : Progress} (hstands : StandsIn around inner outer)
    (rest : List Token) :
    StandsIn around { inner with rest := rest } { outer with rest := rest ++ around.more } :=
  ⟨rfl, hstands.nextGroup, hstands.names, hstands.asked⟩

theorem Grows.read {progress : Progress} {rest : List Token}
    (hrest : rest.length ≤ progress.rest.length) : Grows progress { progress with rest := rest } :=
  ⟨Nat.le_refl _, fun _ ↦ id, hrest⟩

theorem next_bind_of_cons {α : Type} {progress : Progress} {token : Token} {rest : List Token}
    (hrest : progress.rest = token :: rest) (further : Option Token → Reading α) :
    (next >>= further) progress = further (some token) { progress with rest := rest } := by
  refine bind_of_eq_ok ?_ further
  obtain ⟨tokens, nextGroup, names, widths, asked, lookingBack⟩ := progress
  cases hrest
  rfl

/-- Where the end is refused, a reader of the next token has found one. -/
theorem exists_cons_of_next_bind {α : Type} {progress left : Progress} {value : α}
    {further : Option Token → Reading α} (hnone : further none = refuse)
    (h : (next >>= further) progress = .ok (value, left)) :
    ∃ token rest, progress.rest = token :: rest := by
  rcases hrest : progress.rest with _ | ⟨token, rest⟩
  · have hnil : next progress = .ok (none, progress) := by
      obtain ⟨tokens, nextGroup, names, widths, asked, lookingBack⟩ := progress
      cases hrest
      rfl
    rw [bind_of_eq_ok hnil, hnone] at h
    cases h
  · exact ⟨token, rest, rfl⟩

/-- The next token. Without one the fragment is refused, so the tokens behind it are not read. -/
theorem Carries.next_bind {α : Type} {sound : α → Progress → Prop} {image : α → α}
    {further mirrored : Option Token → Reading α} (hnone : further none = refuse)
    (hfurther : ∀ token,
      Carries around sound image (further (some token)) (mirrored (some token))) :
    Carries around sound image (next >>= further) (next >>= mirrored) := by
  refine ⟨fun inner value left h ↦ ?_, fun inner outer value left hstands h hsound ↦ ?_⟩
  · obtain ⟨token, rest, hrest⟩ := exists_cons_of_next_bind hnone h
    rw [next_bind_of_cons hrest] at h
    refine (Grows.read ?_).trans ((hfurther token).grows _ _ _ h)
    rw [hrest]
    exact Nat.le_succ _
  · obtain ⟨token, rest, hrest⟩ := exists_cons_of_next_bind hnone h
    have houter : outer.rest = token :: (rest ++ around.more) := by
      rw [hstands.rest, hrest, List.cons_append]
    rw [next_bind_of_cons hrest] at h
    rw [next_bind_of_cons houter]
    exact (hfurther token).carries _ _ _ _ (hstands.read rest) h hsound

theorem accept_apply (c : Char) (progress : Progress) :
    accept c progress = match progress.rest with
      | .plain found :: rest =>
        if found = c then .ok (true, { progress with rest := rest }) else .ok (false, progress)
      | _ => .ok (false, progress) := by
  rcases hrest : progress.rest with _ | ⟨⟨found⟩ | ⟨found⟩, rest⟩ <;>
    simp only [accept, bind, StateT.bind, get, getThe, MonadStateOf.get, StateT.get, pure,
      Except.pure, Except.bind, StateT.pure, hrest]
  split <;> rfl

theorem accept_of_head {c : Char} {progress : Progress}
    (hhead : progress.rest.head? ≠ some (.plain c)) :
    accept c progress = .ok (false, progress) := by
  rw [accept_apply]
  rcases hrest : progress.rest with _ | ⟨⟨found⟩ | ⟨found⟩, rest⟩
  · rfl
  · exact if_neg fun hfound ↦ hhead (by rw [hrest, hfound, List.head?_cons])
  · rfl

theorem accept_eq_ok {c : Char} {progress left : Progress} {value : Bool}
    (h : accept c progress = .ok (value, left)) :
    value = false ∧ left = progress ∨
      value = true ∧ ∃ rest, progress.rest = .plain c :: rest ∧
        left = { progress with rest := rest } := by
  rw [accept_apply] at h
  rcases hrest : progress.rest with _ | ⟨⟨found⟩ | ⟨found⟩, rest⟩ <;> simp only [hrest] at h
  · cases h
    exact .inl ⟨rfl, rfl⟩
  · by_cases hfound : found = c
    · rw [if_pos hfound] at h
      cases h
      exact .inr ⟨rfl, rest, by rw [hfound], rfl⟩
    · rw [if_neg hfound] at h
      cases h
      exact .inl ⟨rfl, rfl⟩
  · cases h
    exact .inl ⟨rfl, rfl⟩

theorem accept_grows {c : Char} {inner left : Progress} {value : Bool}
    (h : accept c inner = .ok (value, left)) : Grows inner left := by
  rcases accept_eq_ok h with ⟨-, rfl⟩ | ⟨-, rest, hrest, rfl⟩
  · exact .refl left
  · exact .read (hrest ▸ Nat.le_succ _)

/-- Where the fragment has tokens left, the one behind it is not looked at. -/
theorem accept_carries {c : Char} {inner outer left : Progress} {value : Bool}
    (hmore : inner.rest = [] → around.more.head? ≠ some (.plain c))
    (hstands : StandsIn around inner outer) (h : accept c inner = .ok (value, left)) :
    ∃ reached, accept c outer = .ok (value, reached) ∧ StandsIn around left reached := by
  rw [accept_apply] at h ⊢
  rw [hstands.rest]
  rcases hrest : inner.rest with _ | ⟨⟨found⟩ | ⟨found⟩, rest⟩ <;> simp only [hrest] at h
  · cases h
    have hhead : outer.rest.head? ≠ some (.plain c) := by
      rw [hstands.rest, hrest, List.nil_append]
      exact hmore hrest
    have hfalse := accept_of_head hhead
    rw [accept_apply, hstands.rest, hrest] at hfalse
    exact ⟨outer, hfalse, hstands⟩
  · simp only [List.cons_append]
    by_cases hfound : found = c
    · rw [if_pos hfound] at h ⊢
      cases h
      exact ⟨_, rfl, hstands.read rest⟩
    · rw [if_neg hfound] at h ⊢
      cases h
      exact ⟨_, rfl, hstands⟩
  · cases h
    exact ⟨outer, rfl, hstands⟩

theorem carried_accept {c : Char} (hmore : around.more.head? ≠ some (.plain c)) :
    Carried around (accept c) (accept c) :=
  ⟨fun _ _ _ h ↦ accept_grows h, fun _ _ _ _ hstands h _ ↦
    accept_carries (fun _ ↦ hmore) hstands h⟩

/-- A reader that leaves tokens of the fragment does not look at the one behind it. -/
theorem carries_accept (c : Char) :
    Carries around (fun _ left ↦ left.rest ≠ []) id (accept c) (accept c) :=
  ⟨fun _ _ _ h ↦ accept_grows h, fun _ _ _ _ hstands h hrest ↦
    accept_carries (fun hnil ↦ absurd hnil ((accept_grows h).rest_ne_nil hrest)) hstands h⟩

theorem expect_apply (c : Char) (progress : Progress) :
    expect c progress = match progress.rest with
      | .plain found :: rest =>
        if found = c then .ok ((), { progress with rest := rest }) else .error .invalid
      | _ => .error .invalid := by
  change (accept c progress).bind _ = _
  rw [accept_apply]
  rcases progress.rest with _ | ⟨⟨found⟩ | ⟨found⟩, rest⟩
  · rfl
  · simp only
    split <;> rfl
  · rfl

theorem expect_eq_ok {c : Char} {progress left : Progress} {value : Unit}
    (h : expect c progress = .ok (value, left)) :
    ∃ rest, progress.rest = .plain c :: rest ∧ left = { progress with rest := rest } := by
  rw [expect_apply] at h
  rcases hrest : progress.rest with _ | ⟨⟨found⟩ | ⟨found⟩, rest⟩ <;> simp only [hrest] at h
  · cases h
  · by_cases hfound : found = c
    · rw [if_pos hfound] at h
      cases h
      exact ⟨rest, by rw [hfound], rfl⟩
    · rw [if_neg hfound] at h
      cases h
  · cases h

theorem carried_expect (c : Char) : Carried around (expect c) (expect c) := by
  refine ⟨fun inner value left h ↦ ?_, fun inner outer value left hstands h _ ↦ ?_⟩
  · obtain ⟨rest, hrest, rfl⟩ := expect_eq_ok h
    exact .read (hrest ▸ Nat.le_succ _)
  · obtain ⟨rest, hrest, rfl⟩ := expect_eq_ok h
    refine ⟨_, ?_, hstands.read rest⟩
    rw [expect_apply, hstands.rest, hrest]
    exact if_pos rfl

theorem upTo_succ_apply (wanted : Char → Bool) (count : Nat) (progress : Progress) :
    upTo wanted (count + 1) progress = match progress.rest with
      | .plain c :: rest =>
        if wanted c then
          (upTo wanted count { progress with rest := rest }).map fun (text, left) ↦
            (c :: text, left)
        else .ok ([], progress)
      | _ => .ok ([], progress) := by
  rcases hrest : progress.rest with _ | ⟨⟨found⟩ | ⟨found⟩, rest⟩ <;>
    simp only [upTo, bind, StateT.bind, get, getThe, MonadStateOf.get, StateT.get, pure,
      Except.pure, Except.bind, StateT.pure, hrest]
  split
  · change (upTo wanted count _).bind _ = _
    rcases upTo wanted count _ with _ | _ <;> rfl
  · rfl

theorem upTo_of_head {wanted : Char → Bool} {progress : Progress}
    (hhead : ∀ c, progress.rest.head? = some (.plain c) → wanted c = false) (count : Nat) :
    upTo wanted count progress = .ok ([], progress) := by
  cases count with
  | zero => rfl
  | succ count =>
    rw [upTo_succ_apply]
    rcases hrest : progress.rest with _ | ⟨⟨c⟩ | ⟨c⟩, rest⟩
    · rfl
    · have hc : wanted c = false := hhead c (by rw [hrest, List.head?_cons])
      simp only [hc, Bool.false_eq_true, if_false]
    · rfl

theorem upTo_of_cons {wanted : Char → Bool} {count : Nat} {progress left : Progress} {c : Char}
    {rest : List Token} {text : List Char} (hrest : progress.rest = .plain c :: rest)
    (hc : wanted c = true)
    (htext : upTo wanted count { progress with rest := rest } = .ok (text, left)) :
    upTo wanted (count + 1) progress = .ok (c :: text, left) := by
  rw [upTo_succ_apply, hrest]
  simp only [hc, if_true, htext]
  rfl

/-- Reading a character of a kind is over, or the next one is of the kind. -/
theorem upTo_succ_cases {wanted : Char → Bool} {count : Nat} {progress left : Progress}
    {value : List Char} (h : upTo wanted (count + 1) progress = .ok (value, left)) :
    (∀ c, progress.rest.head? = some (.plain c) → wanted c = false) ∧ value = [] ∧
        left = progress ∨
      ∃ c rest text, progress.rest = .plain c :: rest ∧ wanted c = true ∧ value = c :: text ∧
        upTo wanted count { progress with rest := rest } = .ok (text, left) := by
  rw [upTo_succ_apply] at h
  rcases hrest : progress.rest with _ | ⟨⟨c⟩ | ⟨c⟩, rest⟩ <;> simp only [hrest] at h
  · cases h
    exact .inl ⟨nofun, rfl, rfl⟩
  · by_cases hc : wanted c = true
    · rw [if_pos hc] at h
      rcases htext : upTo wanted count { progress with rest := rest } with _ | ⟨text, middle⟩
      · rw [htext] at h
        cases h
      · rw [htext] at h
        cases h
        exact .inr ⟨c, rest, text, rfl, hc, rfl, htext⟩
    · rw [if_neg hc] at h
      cases h
      refine .inl ⟨fun other hother ↦ ?_, rfl, rfl⟩
      cases hother
      exact Bool.eq_false_iff.mpr hc
  · cases h
    exact .inl ⟨nofun, rfl, rfl⟩

theorem upTo_grows (wanted : Char → Bool) (count : Nat) :
    ∀ inner value left, upTo wanted count inner = .ok (value, left) → Grows inner left := by
  induction count with
  | zero =>
    intro inner value left h
    cases h
    exact .refl inner
  | succ count ih =>
    intro inner value left h
    rcases upTo_succ_cases h with ⟨_, _, rfl⟩ | ⟨c, rest, text, hrest, _, _, htext⟩
    · exact .refl left
    · exact (Grows.read (hrest ▸ Nat.le_succ _)).trans (ih _ _ _ htext)

/-- Reading characters of a kind goes no further in the longer pattern, whether the number or the
tokens of the fragment come to an end. -/
theorem upTo_carries {wanted : Char → Bool}
    (hmore : ∀ c, around.more.head? = some (.plain c) → wanted c = false) (count : Nat) :
    ∀ bound inner outer value left, count ≤ bound → count = bound ∨ inner.rest.length ≤ count →
      StandsIn around inner outer → upTo wanted count inner = .ok (value, left) →
      ∃ reached, upTo wanted bound outer = .ok (value, reached) ∧ StandsIn around left reached := by
  -- What ends the characters in the fragment, or the fragment itself, ends them in the pattern.
  have hend (bound : Nat) {inner outer : Progress} (hstands : StandsIn around inner outer)
      (hhead : ∀ c, inner.rest.head? = some (.plain c) → wanted c = false) :
      upTo wanted bound outer = .ok ([], outer) := by
    refine upTo_of_head (fun c hc ↦ ?_) bound
    rw [hstands.rest] at hc
    cases hrest : inner.rest with
    | nil =>
      rw [hrest, List.nil_append] at hc
      exact hmore c hc
    | cons token rest =>
      rw [hrest] at hc hhead
      exact hhead c hc
  induction count with
  | zero =>
    intro bound inner outer value left _ hbound hstands h
    cases h
    rcases hbound with rfl | hlength
    · exact ⟨outer, rfl, hstands⟩
    · have hnil := List.eq_nil_of_length_eq_zero (Nat.le_zero.mp hlength)
      exact ⟨outer, hend bound hstands (by rw [hnil]; nofun), hstands⟩
  | succ count ih =>
    intro bound inner outer value left hle hbound hstands h
    rcases upTo_succ_cases h with ⟨hhead, rfl, rfl⟩ | ⟨c, rest, text, hrest, hc, rfl, htext⟩
    · exact ⟨outer, hend bound hstands hhead, hstands⟩
    · obtain ⟨bound, rfl⟩ : ∃ further, bound = further + 1 := ⟨bound - 1, by omega⟩
      rw [hrest, List.length_cons] at hbound
      obtain ⟨reached, hreached, hleft⟩ := ih bound _ _ _ _ (by omega)
        (hbound.imp Nat.succ.inj Nat.le_of_succ_le_succ) (hstands.read rest) htext
      refine ⟨reached, upTo_of_cons ?_ hc hreached, hleft⟩
      rw [hstands.rest, hrest, List.cons_append]

theorem carried_upTo {wanted : Char → Bool}
    (hmore : ∀ c, around.more.head? = some (.plain c) → wanted c = false) (count : Nat) :
    Carried around (upTo wanted count) (upTo wanted count) :=
  ⟨upTo_grows wanted count, fun inner outer value left hstands h _ ↦
    upTo_carries hmore count count inner outer value left (Nat.le_refl _) (.inl rfl) hstands h⟩

theorem carried_every {wanted : Char → Bool}
    (hmore : ∀ c, around.more.head? = some (.plain c) → wanted c = false) :
    Carried around (every wanted) (every wanted) := by
  have hevery : ∀ progress : Progress,
      every wanted progress = upTo wanted progress.rest.length progress := fun _ ↦ rfl
  refine ⟨fun inner value left h ↦ upTo_grows wanted _ inner value left h,
    fun inner outer value left hstands h _ ↦ ?_⟩
  rw [hevery] at h ⊢
  refine upTo_carries hmore _ _ inner outer value left ?_ (.inr (Nat.le_refl _)) hstands h
  rw [hstands.rest, List.length_append]
  exact Nat.le_add_right _ _

theorem splitAt?_append {stop : Char} {tokens rest more : List Token} {text : List Char}
    (hsplit : splitAt? stop tokens = some (text, rest)) :
    splitAt? stop (tokens ++ more) = some (text, rest ++ more) := by
  induction tokens generalizing text with
  | nil => cases hsplit
  | cons token tokens ih =>
    rw [List.cons_append]
    rw [splitAt?] at hsplit ⊢
    by_cases hstop : token = .plain stop
    · rw [if_pos hstop] at hsplit ⊢
      cases hsplit
      rfl
    · rw [if_neg hstop] at hsplit ⊢
      obtain ⟨⟨before, after⟩, hrest, heq⟩ := Option.map_eq_some_iff.mp hsplit
      cases heq
      rw [ih hrest]
      rfl

theorem suffix_of_splitAt? {stop : Char} {tokens rest : List Token} {text : List Char}
    (hsplit : splitAt? stop tokens = some (text, rest)) : rest <:+ tokens := by
  induction tokens generalizing text with
  | nil => cases hsplit
  | cons token tokens ih =>
    rw [splitAt?] at hsplit
    by_cases hstop : token = .plain stop
    · rw [if_pos hstop] at hsplit
      cases hsplit
      exact List.suffix_cons token _
    · rw [if_neg hstop] at hsplit
      obtain ⟨⟨before, after⟩, hrest, heq⟩ := Option.map_eq_some_iff.mp hsplit
      cases heq
      exact (ih hrest).trans (List.suffix_cons token tokens)

theorem length_le_of_splitAt? {stop : Char} {tokens rest : List Token} {text : List Char}
    (hsplit : splitAt? stop tokens = some (text, rest)) : rest.length ≤ tokens.length :=
  (suffix_of_splitAt? hsplit).length_le

theorem textUntil_apply (stop : Char) (progress : Progress) :
    textUntil stop progress = match splitAt? stop progress.rest with
      | some (text, rest) =>
        if text.isEmpty then .error .invalid else .ok (text, { progress with rest := rest })
      | none => .error .invalid := by
  change (match splitAt? stop progress.rest with | some (text, rest) => _ | none => _ :
    Reading (List Char)) progress = _
  rcases splitAt? stop progress.rest with _ | ⟨text, rest⟩
  · rfl
  · simp only
    split <;> rfl

theorem carried_textUntil (stop : Char) : Carried around (textUntil stop) (textUntil stop) := by
  have hread : ∀ inner value left, textUntil stop inner = .ok (value, left) →
      ∃ rest, splitAt? stop inner.rest = some (value, rest) ∧ value.isEmpty = false ∧
        left = { inner with rest := rest } := by
    intro inner value left h
    rw [textUntil_apply] at h
    rcases hsplit : splitAt? stop inner.rest with _ | ⟨text, rest⟩ <;> simp only [hsplit] at h
    · cases h
    · by_cases hempty : text.isEmpty = true
      · rw [if_pos hempty] at h
        cases h
      · rw [if_neg hempty] at h
        cases h
        exact ⟨rest, rfl, Bool.not_eq_true _ ▸ hempty, rfl⟩
  refine ⟨fun inner value left h ↦ ?_, fun inner outer value left hstands h _ ↦ ?_⟩
  · obtain ⟨rest, hsplit, -, rfl⟩ := hread inner value left h
    exact .read (length_le_of_splitAt? hsplit)
  · obtain ⟨rest, hsplit, hempty, rfl⟩ := hread inner value left h
    refine ⟨_, ?_, hstands.read rest⟩
    rw [textUntil_apply, hstands.rest, splitAt?_append hsplit]
    exact if_neg (by rw [hempty]; exact Bool.false_ne_true)

/-- Readers that carry over to a longer pattern are related. -/
def carriedRelation (hstops : Stops around.more) : ReaderRelation where
  related := Carried around
  room := (· ≤ ·)
  of_pure _ := .of_pure rfl
  of_throw cause := .of_throw cause
  bind := .bind
  next_bind hnone _ := .next_bind hnone
  accept c hc := carried_accept (hstops.mark c hc)
  expect := carried_expect
  upTo _ count hwanted := carried_upTo (hstops.of_hex hwanted) count
  textUntil := carried_textUntil
  spent _ _ := .of_refuse
  less hbound := ⟨_, (Nat.succ_pred_eq_of_pos (Nat.lt_of_lt_of_le (Nat.succ_pos _) hbound)).symm,
    Nat.le_pred_of_lt hbound⟩
  sized reader hreader := .get_bind fun inner outer hstands ↦ hreader _ _ (by
    rw [hstands.rest, List.length_append]
    omega)

end Tokens

end LicenseHeaders.Regex
