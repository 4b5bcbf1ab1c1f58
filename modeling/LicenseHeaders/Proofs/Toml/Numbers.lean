import LicenseHeaders.Proofs.Effects
import LicenseHeaders.Toml.Parser

/-!
# Numbers that are too long

Digits without a sign, a point or anything else between them are a decimal number and no moment. If
there are more of them than are read, the number is refused, and so is the document that it stands
in (`Toml.parse_tooManyDigits`): not as malformed, but for the number. A reader of documents has to
expect this beside a document and a malformed one.
-/

set_option autoImplicit false
set_option relaxedAutoImplicit false

namespace LicenseHeaders.Toml

open Text

/-- A text has digits only. -/
def AreDigits (text : List Char) : Prop :=
  ∀ c ∈ text, isDigit c = true

theorem AreDigits.not_mem {text : List Char} (hdigits : AreDigits text) (c : Char)
    (hother : isDigit c = false) : c ∉ text := by
  intro hmem
  rw [hdigits c hmem] at hother
  cases hother

theorem AreDigits.head_ne {c : Char} {rest : List Char} (hdigits : AreDigits (c :: rest))
    (other : Char) (hother : isDigit other = false) : c ≠ other := by
  rintro rfl
  exact hdigits.not_mem c hother List.mem_cons_self

theorem areDigits_replicate {c : Char} (hdigit : isDigit c = true) (count : Nat) :
    AreDigits (List.replicate count c) := by
  intro other hother
  rw [List.eq_of_mem_replicate hother]
  exact hdigit

/-! ### Digits are no moment -/

theorem exists_of_twoDigits {least greatest value : Nat} {text rest : List Char}
    (hread : twoDigits least greatest text = some (value, rest)) :
    ∃ tens ones, text = tens :: ones :: rest := by
  unfold twoDigits at hread
  split at hread
  · next tens ones others =>
    dsimp only at hread
    split at hread
    · cases hread
      exact ⟨tens, ones, rfl⟩
    · cases hread
  · cases hread

theorem eq_of_skipChar {expected : Char} {text rest : List Char}
    (hskip : skipChar expected text = some rest) : text = expected :: rest := by
  unfold skipChar at hskip
  split at hskip
  · split at hskip
    · next hfound =>
      cases hskip
      rw [eq_of_beq hfound]
    · cases hskip
  · cases hskip

variable {text : List Char}

theorem date_of_areDigits (hdigits : AreDigits text) : date text = none := by
  rw [Option.eq_none_iff_forall_ne_some]
  intro found hdate
  simp only [date, bind, Option.bind_eq_some_iff, Prod.exists] at hdate
  obtain ⟨_, _, hcentury, _, _, hyears, _, hdash, _⟩ := hdate
  obtain ⟨_, _, rfl⟩ := exists_of_twoDigits hcentury
  obtain ⟨_, _, rfl⟩ := exists_of_twoDigits hyears
  rw [eq_of_skipChar hdash] at hdigits
  exact hdigits.not_mem '-' (by decide) (by simp)

theorem afterTime_of_areDigits (hdigits : AreDigits text) : afterTime text = none := by
  rw [Option.eq_none_iff_forall_ne_some]
  intro found htime
  simp only [afterTime, bind, Option.bind_eq_some_iff, Prod.exists] at htime
  obtain ⟨_, _, hhours, _, hcolon, _⟩ := htime
  obtain ⟨_, _, rfl⟩ := exists_of_twoDigits hhours
  rw [eq_of_skipChar hcolon] at hdigits
  exact hdigits.not_mem ':' (by decide) (by simp)

/-- A moment needs a dash or a colon among its digits. -/
theorem moment_of_areDigits (hdigits : AreDigits text) : moment text = none := by
  rw [moment, date_of_areDigits hdigits, afterTime_of_areDigits hdigits]
  rfl

/-! ### Digits are a decimal number -/

theorem AreDigits.tail {c : Char} {rest : List Char} (hdigits : AreDigits (c :: rest)) :
    AreDigits rest :=
  fun other hother ↦ hdigits other (List.mem_cons_of_mem c hother)

theorem digitsWith_of_areDigits (hdigits : AreDigits text) :
    digitsWith isDigit text = (text, []) := by
  induction text with
  | nil => rfl
  | cons c rest ih =>
    rw [digitsWith, if_pos (hdigits c List.mem_cons_self), ih hdigits.tail]
    rintro _ _ rfl
    exact absurd List.mem_cons_self (hdigits.not_mem '_' (by decide))

theorem unifyLineEnds_of_areDigits (hdigits : AreDigits text) : unifyLineEnds text = text := by
  induction text with
  | nil => rfl
  | cons c rest ih =>
    rw [unifyLineEnds, ih hdigits.tail]
    rintro _ rfl
    exact absurd List.mem_cons_self (hdigits.not_mem '\r' (by decide))

variable {c : Char} {rest : List Char} (hdigits : AreDigits (c :: rest)) (hzero : c ≠ '0')
  (hlong : maxDigits < (c :: rest).length)

include hdigits hzero hlong

/-- Digits of which there are too many are refused as a number. The first of them is not zero, which
stands alone. -/
theorem number_of_areDigits :
    number (c :: rest) = some (.error (.numberTooLong (c :: rest).length), []) := by
  have hdigit : isDigit c = true := hdigits c List.mem_cons_self
  have hbased : basedInteger (c :: rest) = none := by
    unfold basedInteger
    split
    · next heq => cases heq; exact absurd rfl hzero
    · rfl
  have hwhole : wholePart (c :: rest) = some (c :: rest, []) := by
    rw [wholePart, someDigits, if_pos hdigit, digitsWith_of_areDigits hdigits.tail]
    rintro _ ⟨⟩
    exact hzero rfl
  have hsign : sign (c :: rest) = (false, c :: rest) := by
    rw [sign]
    · rintro _ ⟨⟩
      exact hdigits.head_ne '-' (by decide) rfl
    · rintro _ ⟨⟩
      exact hdigits.head_ne '+' (by decide) rfl
  have hdecimal : decimalNumber (c :: rest) =
      some (.error (.numberTooLong (c :: rest).length), []) := by
    have hfraction : fraction [] = none := rfl
    have hexponent : exponent [] = none := rfl
    simp only [decimalNumber, hsign, hwhole, Option.bind_eq_bind, Option.bind_some, hfraction,
      Option.map_none, Option.getD_none, hexponent, Option.isNone_none, Bool.and_self, if_true,
      if_pos hlong]
  rw [number, hbased, hdecimal]

theorem readValue_of_areDigits (fuel : Nat) :
    readValue (fuel + 1) (c :: rest) = .error (.numberTooLong (c :: rest).length) := by
  have hquote : ((c :: rest).head? == some '"' || (c :: rest).head? == some '\'') = false := by
    simp [hdigits.head_ne '"' (by decide), hdigits.head_ne '\'' (by decide)]
  rw [readValue, hquote, moment_of_areDigits hdigits, number_of_areDigits hdigits hzero hlong]
  · rfl
  · rintro _ ⟨⟩
    exact hdigits.head_ne '[' (by decide) rfl
  · rintro _ ⟨⟩
    exact hdigits.head_ne '\x7b' (by decide) rfl
  · rintro _ ⟨⟩
    exact hdigits.head_ne 't' (by decide) rfl
  · rintro _ ⟨⟩
    exact hdigits.head_ne 'f' (by decide) rfl

/-- A document whose only value is a number of too many digits is refused for that number. -/
theorem parse_tooManyDigits :
    parse ('x' :: '=' :: c :: rest) = .error (.numberTooLong (c :: rest).length) := by
  have hunified : unifyLineEnds ('x' :: '=' :: c :: rest) = 'x' :: '=' :: c :: rest := by
    simp [unifyLineEnds, unifyLineEnds_of_areDigits hdigits]
  have hassignment : readAssignment ('x' :: '=' :: c :: rest) = .ok (["x"], c :: rest) := by
    have hkey : readKey ('x' :: '=' :: c :: rest) = .ok ("x", '=' :: c :: rest) := rfl
    have hequals : ('=' :: c :: rest).dropWhile isLineBlank = '=' :: c :: rest := rfl
    have hpath : readPath ('x' :: '=' :: c :: rest) = .ok (["x"], '=' :: c :: rest) := by
      rw [readPath, hkey, ok_bind]
      dsimp only
      rw [readMoreKeys, hequals]
      simp
    have hblank : isLineBlank c = false := by
      simp [isLineBlank, hdigits.head_ne ' ' (by decide), hdigits.head_ne '\t' (by decide)]
    rw [readAssignment, hpath, ok_bind]
    simp [hblank]
  have hstatement : readStatement {} ('x' :: '=' :: c :: rest) =
      .error (.numberTooLong (c :: rest).length) := by
    rw [readStatement, hassignment]
    · dsimp only [ok_bind]
      rw [if_pos (by decide), readValue_of_areDigits hdigits hzero hlong]
      rfl
    all_goals simp
  have hstart : ('x' :: '=' :: c :: rest).dropWhile isLineBlank = 'x' :: '=' :: c :: rest := rfl
  rw [parse, hunified, readStatements, hstart, hstatement]
  rfl

end LicenseHeaders.Toml
