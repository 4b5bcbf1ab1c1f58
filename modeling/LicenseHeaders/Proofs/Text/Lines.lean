import LicenseHeaders.Text.Lines

/-!
# Where the two ways to cut lines agree

Every character that ends a line of a file ends a line of a text held in memory, and eight further
ones do. The first lines that the two ways give are the same exactly if none of the further ones
stands in the first lines of the file (`take_fileLines_eq_iff`).
-/

set_option autoImplicit false
set_option relaxedAutoImplicit false

namespace LicenseHeaders.Text

theorem isLineEnd_of_isFileLineEnd {c : Char} (hc : isFileLineEnd c = true) :
    isLineEnd c = true := by
  rw [isFileLineEnd, Bool.or_eq_true, beq_iff_eq, beq_iff_eq] at hc
  rcases hc with rfl | rfl <;> rfl

/-- The line that is being read is the start of the first line. -/
theorem exists_first_of_cutLines (ends : Char → Bool) {line : List Char} (hsome : line ≠ [])
    (text : List Char) : ∃ more rest, cutLines ends line text = (line.reverse ++ more) :: rest := by
  fun_induction cutLines ends line text with
  | case1 line hempty => exact absurd (List.isEmpty_iff.mp hempty) hsome
  | case2 line => exact ⟨[], [], by rw [List.append_nil]⟩
  | case3 line text hends => exact ⟨[], _, by rw [List.append_nil]⟩
  | case4 line text hends ih =>
    obtain ⟨more, rest, hcut⟩ := ih nofun
    refine ⟨'\r' :: '\n' :: more, rest, hcut.trans ?_⟩
    rw [List.reverse_cons, List.reverse_cons, List.append_assoc, List.append_assoc]
    rfl
  | case5 line c text hpair hends => exact ⟨[], _, by rw [List.append_nil]⟩
  | case6 line c text hpair hends ih =>
    obtain ⟨more, rest, hcut⟩ := ih nofun
    refine ⟨c :: more, rest, hcut.trans ?_⟩
    rw [List.reverse_cons, List.append_assoc]
    rfl

/-- No line has a character in it that ends lines. -/
theorem not_ends_of_mem_cutLines {ends : Char → Bool} (hreturn : ends '\r' = true)
    {line text found : List Char} (hline : ∀ c ∈ line, ends c = false)
    (hfound : found ∈ cutLines ends line text) : ∀ c ∈ found, ends c = false := by
  have hreverse : ∀ c ∈ line.reverse, ends c = false := fun c hc ↦ hline c (List.mem_reverse.mp hc)
  fun_induction cutLines ends line text with
  | case1 line hempty => cases hfound
  | case2 line => exact List.mem_singleton.mp hfound ▸ hreverse
  | case3 line text hends ih =>
    rcases List.mem_cons.mp hfound with rfl | hfound
    · exact hreverse
    · exact ih nofun hfound nofun
  | case4 line text hends => exact absurd hreturn hends
  | case5 line c text hpair hends ih =>
    rcases List.mem_cons.mp hfound with rfl | hfound
    · exact hreverse
    · exact ih nofun hfound nofun
  | case6 line c text hpair hends ih =>
    have hlonger : ∀ letter ∈ c :: line, ends letter = false :=
      List.forall_mem_cons.mpr ⟨Bool.eq_false_iff.mpr hends, hline⟩
    exact ih hlonger hfound fun letter hletter ↦ hlonger letter (List.mem_reverse.mp hletter)

theorem not_isLineEnd_of_mem_splitLines {text line : List Char} (hline : line ∈ splitLines text) :
    ∀ c ∈ line, isLineEnd c = false :=
  @not_ends_of_mem_cutLines isLineEnd rfl [] text line nofun hline

theorem not_isFileLineEnd_of_mem_fileLines {text line : List Char} (hline : line ∈ fileLines text) :
    ∀ c ∈ line, isFileLineEnd c = false :=
  @not_ends_of_mem_cutLines isFileLineEnd rfl [] text line nofun hline

/-- A line without line ends has none at its end. -/
theorem chomp_eq_self {line : List Char} (hline : ∀ c ∈ line, isFileLineEnd c = false) :
    chomp line = line := by
  rw [chomp, List.reverse_eq_iff]
  rcases hreverse : line.reverse with _ | ⟨c, rest⟩
  · rfl
  · have hc := hline c (List.mem_reverse.mp (hreverse ▸ List.mem_cons_self))
    rw [List.dropWhile_cons_of_neg (Bool.eq_false_iff.mp hc)]

/-- Behind a first line that two ways give, as many lines are alike as behind it. -/
theorem take_cons_eq {window : Nat} {first : List Char} {rest others : List (List Char)}
    (hrest : ∀ {window : Nat}, (∀ found ∈ rest.take window, ∀ c ∈ found, isLineEnd c = false) →
      rest.take window = others.take window)
    (hclean : ∀ found ∈ (first :: rest).take window, ∀ c ∈ found, isLineEnd c = false) :
    (first :: rest).take window = (first :: others).take window := by
  cases window with
  | zero => rfl
  | succ window =>
    rw [List.take_succ_cons] at hclean
    rw [List.take_succ_cons, List.take_succ_cons, hrest (List.forall_mem_cons.mp hclean).2]

/-- As long as no other line end stands in the first lines of a file, the text is cut alike. -/
theorem take_cutLines_eq {window : Nat} {line text : List Char}
    (hclean : ∀ found ∈ (cutLines isFileLineEnd line text).take window,
      ∀ c ∈ found, isLineEnd c = false) :
    (cutLines isFileLineEnd line text).take window =
      (cutLines isLineEnd line text).take window := by
  fun_induction cutLines isFileLineEnd line text generalizing window with
  | case1 line hempty => rw [cutLines, if_pos hempty]
  | case2 line hempty => rw [cutLines, if_neg hempty]
  | case3 line text hends ih =>
    rw [cutLines, if_pos (isLineEnd_of_isFileLineEnd hends)]
    exact take_cons_eq ih hclean
  | case4 line text hends => exact absurd rfl hends
  | case5 line c text hpair hends ih =>
    rw [cutLines.eq_3 _ _ _ _ hpair, if_pos (isLineEnd_of_isFileLineEnd hends)]
    exact take_cons_eq ih hclean
  | case6 line c text hpair hends ih =>
    -- The character is in the first line of the file, so it ends no line in memory either.
    obtain ⟨more, rest, hcut⟩ := @exists_first_of_cutLines isFileLineEnd (c :: line) nofun text
    cases window with
    | zero => rfl
    | succ window =>
      have hnone : ¬ isLineEnd c = true := by
        rw [hcut, List.take_succ_cons] at hclean
        exact Bool.eq_false_iff.mp ((List.forall_mem_cons.mp hclean).1 c (by simp))
      rw [cutLines.eq_3 _ _ _ _ hpair, if_neg hnone]
      exact ih hclean

/-- The first lines are the same as long as no other line end stands in those of the file. -/
theorem take_fileLines_eq_iff {window : Nat} {text : List Char} :
    (fileLines text).take window = (splitLines text).take window ↔
      ∀ line ∈ (fileLines text).take window, ∀ c ∈ line, isLineEnd c = false := by
  constructor
  · intro heq line hline
    rw [heq] at hline
    exact not_isLineEnd_of_mem_splitLines (List.mem_of_mem_take hline)
  · exact take_cutLines_eq

end LicenseHeaders.Text
