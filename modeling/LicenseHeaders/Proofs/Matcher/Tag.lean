import LicenseHeaders.Matcher.Spdx
import LicenseHeaders.Proofs.Matcher.Sign
import LicenseHeaders.Proofs.Tables
import LicenseHeaders.Proofs.Text.BasicLatin
import Mathlib.Data.List.Infix

/-!
# The tag of a line and the end of its comment

What stands behind the first tag of a line is read up to the end of the comment. Behind a text
without a tag the first tag is the one that follows, since the colon of a tag is its end
(`afterTag?_eq`).

The signs that end a comment are looked for one after another, each in what the ones before it have
left. Some of them have characters in common, but no sign has the start of one in it that is looked
for before it (`pairwise_foreign_commentEnds`). So the first sign behind a text that has the start
of no sign in it ends that text, whatever stands behind the sign (`upToPieces_append`).
-/

set_option autoImplicit false
set_option relaxedAutoImplicit false

namespace LicenseHeaders.Matcher

open Text Regex

/-! ### The tag -/

/-- Somewhere in a text stands the tag, without regard to case. -/
def HasTag (text : List Char) : Prop :=
  ∃ before tag behind, text = before ++ tag ++ behind ∧ tag ∈ sameText spdxTag

theorem spdxTag_eq : spdxTag =
    ['S', 'P', 'D', 'X', '-', 'L', 'i', 'c', 'e', 'n', 's', 'e', '-', 'I', 'd', 'e', 'n', 't', 'i',
      'f', 'i', 'e', 'r'] ++ [':'] :=
  String.toList_ofList

/-- A text that differs from another only in the case of the letters from A to Z is the same without
regard to case. -/
theorem mem_sameText_of_toLower_eq {text read : List Char}
    (hsame : read.map Char.toLower = text.map Char.toLower) : read ∈ sameText text := by
  induction text generalizing read with
  | nil =>
    rw [List.map_eq_nil_iff.mp hsame]
    exact .nil
  | cons c text ih =>
    rcases read with _ | ⟨found, read⟩
    · cases hsame
    · obtain ⟨hfirst, hrest⟩ := List.cons.inj hsame
      exact .cons (sameLetter_of_toLower_eq hfirst.symm) (ih hrest)

/-- The letters of the tag in front of its colon are no colons in another case. -/
theorem sameLetter_colon {letter : Char} (hletter : letter ∈ spdxTag.dropLast) :
    sameLetter letter ':' = false := by
  have hascii : letter.toNat < 128 ∧ letter ≠ ':' := by
    rw [spdxTag_eq, List.dropLast_concat] at hletter
    revert letter
    simp
  exact forall_ascii (fun letter ↦ letter ≠ ':' → sameLetter letter ':' = false) (by decide +kernel)
    hascii.1 hascii.2

/-- A tag ends with its only colon. -/
theorem exists_colon_of_tag {tag : List Char} (htag : tag ∈ sameText spdxTag) :
    ∃ front, tag = front ++ [':'] ∧ ':' ∉ front := by
  have hread : List.Forall₂ (fun found expected ↦ sameLetter expected found = true) tag spdxTag :=
    List.Forall₂.flip htag
  rw [spdxTag_eq] at hread
  have hfront := List.forall₂_take_append _ _ _ hread
  obtain ⟨c, more, hc, hmore, hdrop⟩ :=
    List.forall₂_cons_right_iff.mp (List.forall₂_drop_append _ _ _ hread)
  rw [List.forall₂_nil_right_iff.mp hmore,
    (sameLetter_iff_eq (by decide) (by decide) c).mp hc] at hdrop
  refine ⟨_, (List.take_append_drop _ tag).symm.trans (congrArg _ hdrop), fun hcolon ↦ ?_⟩
  obtain ⟨letter, hletter, hsame⟩ := exists_of_mem_of_forall₂ hfront hcolon
  rw [sameLetter_colon (by rwa [spdxTag_eq, List.dropLast_concat])] at hsame
  cases hsame

theorem colon_mem_of_hasTag {text : List Char} (htag : HasTag text) : ':' ∈ text := by
  obtain ⟨before, tag, behind, rfl, htag⟩ := htag
  obtain ⟨front, rfl, -⟩ := exists_colon_of_tag htag
  simp

/-- No tag starts in front of the first one and ends in it, since the colon of a tag is its end. -/
theorem afterWord?_eq_none_of_not_hasTag {before tag behind : List Char} (hbefore : ¬ HasTag before)
    (hsome : before ≠ []) (htag : tag ∈ sameText spdxTag) :
    afterWord? spdxTag (before ++ (tag ++ behind)) = none := by
  rw [Option.eq_none_iff_forall_not_mem]
  intro rest hrest
  obtain ⟨read, hread, hsplit⟩ := afterWord?_eq_some_iff.mp hrest
  rcases List.append_eq_append_iff.mp hsplit with ⟨more, rfl, htail⟩ | ⟨more, rfl, -⟩
  · have hlength : (before ++ more).length = tag.length :=
      (List.Forall₂.length_eq hread).symm.trans (List.Forall₂.length_eq htag)
    have hlonger := List.length_pos_of_ne_nil hsome
    rw [List.length_append] at hlength
    obtain ⟨last, rfl⟩ : more <+: tag :=
      List.prefix_of_prefix_length_le ⟨rest, htail.symm⟩ (List.prefix_append tag behind) (by omega)
    rw [List.length_append] at hlength
    have hlast : last ≠ [] := List.ne_nil_of_length_pos (by omega)
    obtain ⟨front, hfront, -⟩ := exists_colon_of_tag hread
    rcases more.eq_nil_or_concat with rfl | ⟨more, c, rfl⟩
    · refine hbefore ⟨[], before, [], (List.append_nil _).symm, ?_⟩
      rwa [List.append_nil] at hread
    · rw [List.concat_eq_append, ← List.append_assoc] at hfront
      obtain ⟨-, hc⟩ := List.append_inj' hfront rfl
      cases hc
      obtain ⟨letters, hletters, hcolon⟩ := exists_colon_of_tag htag
      obtain ⟨last, c, rfl⟩ := last.eq_nil_or_concat.resolve_left hlast
      rw [List.concat_eq_append, List.concat_eq_append, ← List.append_assoc] at hletters
      obtain ⟨rfl, -⟩ := List.append_inj' hletters rfl
      exact hcolon (List.mem_append_left _ (List.mem_append_right _ (List.mem_singleton_self _)))
  · exact hbefore ⟨[], read, more, rfl, hread⟩

/-- Behind a text without a tag the first tag is the one that follows. -/
theorem afterTag?_eq {before tag : List Char} (hbefore : ¬ HasTag before)
    (htag : tag ∈ sameText spdxTag) (behind : List Char) :
    afterTag? (before ++ (tag ++ behind)) = some (trimStart behind) := by
  induction before with
  | nil =>
    rcases tag with _ | ⟨c, tag⟩
    · cases htag
    · have hword : afterWord? spdxTag (c :: (tag ++ behind)) = some behind :=
        afterWord?_eq_some_iff.mpr ⟨c :: tag, htag, rfl⟩
      rw [List.nil_append, List.cons_append, afterTag?, hword]
  | cons c before ih =>
    have hnone := @afterWord?_eq_none_of_not_hasTag (c :: before) tag behind hbefore nofun htag
    rw [List.cons_append] at hnone
    rw [List.cons_append, afterTag?, hnone]
    refine ih fun ⟨front, found, rest, hsplit, hfound⟩ ↦
      hbefore ⟨c :: front, found, rest, ?_, hfound⟩
    rw [hsplit, List.cons_append, List.cons_append]

/-! ### The end of the comment -/

/-- A piece and a text have so little in common that the piece starts nowhere in the text, not even
where it could go on behind it. -/
def Foreign (piece text : List Char) : Prop :=
  ∀ ending ∈ text.tails, ending ≠ [] → ¬ piece <+: ending ∧ ¬ ending <+: piece

instance (piece text : List Char) : Decidable (Foreign piece text) :=
  inferInstanceAs
    (Decidable (∀ ending ∈ text.tails, ending ≠ [] → ¬ piece <+: ending ∧ ¬ ending <+: piece))

/-- A text foreign to a piece is left of it, and the piece is looked for behind the text. -/
theorem upToPiece_append {piece text : List Char} (hforeign : Foreign piece text)
    (rest : List Char) :
    upToPiece piece (text ++ rest) = text ++ upToPiece piece rest := by
  induction text with
  | nil => rfl
  | cons c text ih =>
    have hnone : piece.isPrefixOf (c :: (text ++ rest)) = false := by
      rw [← Bool.not_eq_true, List.isPrefixOf_iff_prefix]
      intro hprefix
      obtain ⟨hpiece, htext⟩ := hforeign (c :: text) ((List.mem_tails ..).mpr List.suffix_rfl) nofun
      exact (List.prefix_or_prefix_of_prefix hprefix (List.prefix_append (c :: text) rest)).elim
        hpiece htext
    rw [List.cons_append, upToPiece, hnone, if_neg Bool.false_ne_true, ih, List.cons_append]
    intro ending hending hsome
    rw [List.mem_tails] at hending
    exact hforeign ending ((List.mem_tails ..).mpr (hending.trans (List.suffix_cons c text))) hsome

/-- A text in which the piece does not start is left as it is. -/
theorem upToPiece_eq_self {piece text : List Char}
    (hnone : ∀ ending ∈ text.tails, ending ≠ [] → ¬ piece <+: ending) :
    upToPiece piece text = text := by
  induction text with
  | nil => rfl
  | cons c text ih =>
    have hfirst := hnone (c :: text) ((List.mem_tails ..).mpr List.suffix_rfl) nofun
    rw [← List.isPrefixOf_iff_prefix] at hfirst
    rw [upToPiece, if_neg hfirst, ih]
    intro ending hending
    rw [List.mem_tails] at hending
    exact hnone ending ((List.mem_tails ..).mpr (hending.trans (List.suffix_cons c text)))

theorem upToPiece_isPrefix (piece text : List Char) : upToPiece piece text <+: text := by
  induction text with
  | nil => exact List.prefix_rfl
  | cons c text ih =>
    rw [upToPiece]
    split_ifs
    · exact List.nil_prefix
    · exact (List.prefix_cons_inj c).mpr ih

theorem upToPiece_self {piece : List Char} (hsome : piece ≠ []) (rest : List Char) :
    upToPiece piece (piece ++ rest) = [] := by
  obtain ⟨c, piece, rfl⟩ := List.exists_cons_of_ne_nil hsome
  have hprefix : (c :: piece).isPrefixOf (c :: (piece ++ rest)) = true :=
    List.isPrefixOf_iff_prefix.mpr (List.prefix_append (c :: piece) rest)
  rw [List.cons_append, upToPiece, if_pos hprefix]

/-- What is left of a text when pieces of it are looked for one after another. -/
def upToPieces (pieces : List (List Char)) (text : List Char) : List Char :=
  pieces.foldl (fun text piece ↦ upToPiece piece text) text

/-- A text in which no piece starts is left as it is. -/
theorem upToPieces_eq_self {pieces : List (List Char)} {text : List Char}
    (hnone : ∀ piece ∈ pieces, ∀ ending ∈ text.tails, ending ≠ [] → ¬ piece <+: ending) :
    upToPieces pieces text = text := by
  induction pieces with
  | nil => rfl
  | cons piece pieces ih =>
    obtain ⟨hfirst, hrest⟩ := List.forall_mem_cons.mp hnone
    rw [upToPieces, List.foldl_cons, upToPiece_eq_self hfirst]
    exact ih hrest

theorem upToPieces_isPrefix (pieces : List (List Char)) (text : List Char) :
    upToPieces pieces text <+: text := by
  induction pieces generalizing text with
  | nil => exact List.prefix_rfl
  | cons piece pieces ih => exact (ih _).trans (upToPiece_isPrefix piece text)

/-- A piece ends the text before it, whatever stands behind the piece. Assumes: the text is foreign
to all pieces, and a later piece to those that are looked for before it. -/
theorem upToPieces_append {pieces : List (List Char)} {text piece : List Char}
    (hpiece : piece ∈ pieces) (hsome : piece ≠ []) (hforeign : ∀ piece ∈ pieces, Foreign piece text)
    (hpairs : pieces.Pairwise Foreign) (more : List Char) :
    upToPieces pieces (text ++ (piece ++ more)) = text := by
  induction pieces generalizing more with
  | nil => cases hpiece
  | cons first pieces ih =>
    obtain ⟨hfirst, hrest⟩ := List.forall_mem_cons.mp hforeign
    obtain ⟨hbefore, hpairs⟩ := List.pairwise_cons.mp hpairs
    rw [upToPieces, List.foldl_cons, upToPiece_append hfirst]
    rcases List.mem_cons.mp hpiece with rfl | hlater
    · rw [upToPiece_self hsome, List.append_nil]
      exact upToPieces_eq_self fun piece hpiece ending hending hsome ↦
        (hrest piece hpiece ending hending hsome).1
    · rw [upToPiece_append (hbefore piece hlater)]
      exact ih hlater hrest hpairs _

theorem commentEnds_eq : commentEnds =
    [['*', '/'], ['-', '-', '>'], ['-', '-', '%', '>'], ['%', '>'], ['#', '\x7d']] := by
  simp [commentEnds]

/-- No end of a comment has the start of one in it that is looked for before it. -/
theorem pairwise_foreign_commentEnds : commentEnds.Pairwise Foreign := by
  rw [commentEnds_eq]
  decide

end LicenseHeaders.Matcher
