import LicenseHeaders.Text.Blank
import Mathlib.Data.List.TakeWhile

/-!
# Texts without blanks around them

A text is its own trimmed text exactly if neither its first nor its last character is blank
(`trim_eq_self_iff`). Trimming a text that has a character in it which is not blank trims the start
of what stands before that character and the end of what stands behind it (`trim_append_cons`).
-/

set_option autoImplicit false
set_option relaxedAutoImplicit false

namespace LicenseHeaders.Text

variable {text : List Char}

theorem trimStart_eq_self_iff : trimStart text = text ↔ ∀ c ∈ text.head?, isBlank c = false := by
  rcases text with _ | ⟨c, text⟩
  · exact iff_of_true rfl nofun
  · rw [List.head?_cons, trimStart, List.dropWhile_cons]
    simp only [Option.mem_some_iff, forall_eq']
    by_cases hc : isBlank c = true
    · rw [if_pos hc, hc]
      refine iff_of_false (fun heq ↦ ?_) nofun
      have hlength := (List.dropWhile_suffix isBlank (l := text)).length_le
      rw [heq, List.length_cons] at hlength
      omega
    · rw [if_neg hc]
      exact iff_of_true rfl (Bool.eq_false_iff.mpr hc)

theorem trimEnd_eq_self_iff : trimEnd text = text ↔ ∀ c ∈ text.getLast?, isBlank c = false := by
  rw [trimEnd, List.reverse_eq_iff, List.getLast?_eq_head?_reverse]
  exact trimStart_eq_self_iff

theorem trim_eq_self_iff :
    trim text = text ↔
      (∀ c ∈ text.head?, isBlank c = false) ∧ ∀ c ∈ text.getLast?, isBlank c = false := by
  rw [← trimStart_eq_self_iff, ← trimEnd_eq_self_iff]
  constructor
  · intro htrim
    have hstart : trimStart text = text := by
      refine (List.dropWhile_suffix isBlank).eq_of_length_le ?_
      have hend := (List.dropWhile_suffix isBlank (l := (trimStart text).reverse)).length_le
      have hlength : (trim text).length = text.length := congrArg List.length htrim
      rw [trim, trimEnd, List.length_reverse] at hlength
      rwa [hlength, List.length_reverse] at hend
    exact ⟨hstart, by rwa [trim, hstart] at htrim⟩
  · rintro ⟨hstart, hend⟩
    rw [trim, hstart, hend]

/-- Of a text without blanks at its end trimming takes the blanks at its start. -/
theorem trim_of_trimEnd (htrim : trimEnd text = text) : trim text = trimStart text := by
  rw [trim, trimEnd_eq_self_iff]
  intro c hc
  obtain ⟨blanks, hblanks⟩ := List.dropWhile_suffix isBlank (l := text)
  refine trimEnd_eq_self_iff.mp htrim c ?_
  rw [← hblanks, List.getLast?_append]
  exact Option.or_eq_some_iff.mpr (.inl hc)

theorem trimStart_ne_nil (htrim : trimEnd text = text) (hsome : text ≠ []) :
    trimStart text ≠ [] := by
  rw [trimStart, ne_eq, List.dropWhile_eq_nil_iff]
  intro hblank
  have hlast :=
    trimEnd_eq_self_iff.mp htrim (text.getLast hsome) (List.getLast?_eq_some_getLast hsome)
  rw [hblank _ (List.getLast_mem hsome)] at hlast
  cases hlast

theorem trimStart_append_cons {c : Char} (hc : isBlank c = false) (before behind : List Char) :
    trimStart (before ++ c :: behind) = trimStart before ++ c :: behind := by
  rw [trimStart, trimStart, List.dropWhile_append]
  split_ifs with hbefore
  · rw [List.isEmpty_iff.mp hbefore, List.nil_append,
      List.dropWhile_cons_of_neg (Bool.eq_false_iff.mp hc)]
  · rfl

theorem trimEnd_append_cons {c : Char} (hc : isBlank c = false) (before behind : List Char) :
    trimEnd (before ++ c :: behind) = before ++ c :: trimEnd behind := by
  have hreverse := trimStart_append_cons hc behind.reverse before.reverse
  rw [trimEnd, List.reverse_append, List.reverse_cons, List.append_assoc, List.singleton_append]
  refine (congrArg List.reverse hreverse).trans ?_
  rw [List.reverse_append, List.reverse_cons, List.reverse_reverse, List.append_assoc,
    List.singleton_append]
  rfl

/-- A character that is not blank is left, and what stands around it is trimmed on its outer side.
-/
theorem trim_append_cons {c : Char} (hc : isBlank c = false) (before behind : List Char) :
    trim (before ++ c :: behind) = trimStart before ++ c :: trimEnd behind := by
  rw [trim, trimStart_append_cons hc, trimEnd_append_cons hc]

end LicenseHeaders.Text
