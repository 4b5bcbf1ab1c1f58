import LicenseHeaders.Matcher.Basic
import LicenseHeaders.Proofs.Matcher.Grammar
import LicenseHeaders.Proofs.Regex.Refusing
import LicenseHeaders.Sample

/-!
# Owners that are no patterns

Whether the owner of a notice is a pattern is only seen in the texts that it is put into. An owner
that is refused on its own is refused there for the same cause (`refused_owner`): the notice has no
patterns and no matcher is made. The fault names the copyright element if the owner breaks the rules
of the notation; a repetition count that is too large raises another one.

Two kinds of owner escape this, since the text in front of the owner gives them what they lack on
their own (`lead_completes_owner`). A question mark or a plus sign that starts the owner belongs to
the repetition that ends the text before it. A group that is asked for by its number may be one of
the two that open there.
-/

set_option autoImplicit false
set_option relaxedAutoImplicit false

namespace LicenseHeaders.Matcher.Notice

open Text Regex Reading

theorem leads_lead [CharacterNames] : Leads flags Unrepeated 2 leadText leadParts := by
  refine ⟨leadTokens, tokens?_leadText,
    List.forall_mem_cons.mpr ⟨rfl, List.forall_mem_singleton.mpr rfl⟩,
    fun more hmore fuel hfuel ↦ ?_⟩
  obtain ⟨bound, outer, inner, hbound, hread⟩ := sequence_lead hmore hfuel
  refine ⟨bound, ⟨more, 3, [], [(1, outer), (2, inner)], 0, none⟩, hbound, ⟨rfl, ⟨Nat.one_pos, rfl⟩,
    fun name ↦ .none, fun number hnumber ↦ ?_, ⟨rfl, rfl⟩, rfl⟩, hread⟩
  have hfirst : (number + 2 == 1) = false := beq_false_of_ne (by omega)
  have hsecond : (number + 2 == 2) = false := beq_false_of_ne (by omega)
  simp only [List.lookup_cons, hfirst, hsecond, List.lookup_nil, Progress.start]

/-- In the first pattern of a notice with an owner, the owner comes last, behind a repetition. -/
theorem exists_leads [CharacterNames] {notice : Notice}
    (hstart : ∀ c ∈ piece notice.start, c.isDigit = true)
    (hstop : ∀ c ∈ piece notice.stop, c.isDigit = true) (howner : piece notice.owner ≠ []) :
    ∃ text parts further, notice.patternTexts = (text ++ piece notice.owner) :: further ∧
      Leads flags Unrepeated 2 text parts ∧ Unrepeatable parts := by
  have hdate := dateText_spells hstart hstop
  generalize date? (piece notice.start) (piece notice.stop) = date at hdate
  rcases date with _ | date
  · refine ⟨leadText, leadParts, [], patternTexts_of_owner howner hdate, leads_lead, ?_⟩
    rintro part ⟨⟩
    exact nofun
  · obtain ⟨hdateText, dateParts, hfollows, -⟩ := hdate
    refine ⟨_, _, _, patternTexts_of_both howner hdateText,
      (leads_lead.append hfollows).append (follows_separator fun _ ↦ ⟨nofun, nofun⟩), ?_⟩
    rintro part ⟨⟩
    exact nofun

/-- A text that starts with no repetition sign starts with no token of one. -/
theorem unrepeated_of_head {text : List Char} {tokens : List Token}
    (htokens : tokens? text = some tokens) (hmark : text.head? ≠ some '?')
    (hplus : text.head? ≠ some '+') : Unrepeated tokens := by
  have hhead : ∀ c, tokens.head? = some (.plain c) → text.head? = some c := by
    intro c hc
    cases text using tokens?.fun_cases with
    | case1 =>
      cases htokens
      cases hc
    | case2 escaped rest =>
      obtain ⟨behind, -, rfl⟩ := Option.map_eq_some_iff.mp htokens
      cases hc
    | case3 => cases htokens
    | case4 first rest hescape hlast =>
      rw [tokens?_cons (ne_backslash hescape hlast)] at htokens
      obtain ⟨behind, -, rfl⟩ := Option.map_eq_some_iff.mp htokens
      cases hc
      rfl
  exact ⟨fun h ↦ hmark (hhead '?' h), fun h ↦ hplus (hhead '+' h)⟩

/-- An owner that is refused on its own leaves a notice without patterns, and no matcher is made.
The fault names the element if the owner breaks the rules of the notation. Assumes: the owner does
not start with a sign that goes on with the repetition before it, and asks for no group by its
number. -/
theorem refused_owner [CharacterNames] {notice : Notice} {cause : PatternFault}
    (hstart : ∀ c ∈ piece notice.start, c.isDigit = true)
    (hstop : ∀ c ∈ piece notice.stop, c.isDigit = true)
    (hrefused : Pattern.parse flags (piece notice.owner) = .error cause)
    (hmark : (piece notice.owner).head? ≠ some '?') (hplus : (piece notice.owner).head? ≠ some '+')
    (hnumbers : ∀ tokens ∈ tokens? (piece notice.owner), asksByNumber tokens = false) :
    notice.patterns = .error (notice.fault cause) ∧
      (∀ identifier, ofNotice notice identifier = .error (notice.fault cause)) ∧
      ((∃ error, notice.fault cause = .configuration error ∧ error.node = "copyright") ↔
        cause = .invalid) := by
  have howner : piece notice.owner ≠ [] := by
    intro hnil
    rw [hnil] at hrefused
    cases hrefused
  obtain ⟨text, parts, further, htexts, hleads, hparts⟩ := exists_leads hstart hstop howner
  have hparse := hleads.refused hparts
    (fun tokens htokens ↦
      ⟨unrepeated_of_head htokens hmark hplus, hnumbers tokens htokens⟩) hrefused
  have hpatterns : notice.patterns = .error (notice.fault cause) := by
    rw [Notice.patterns, htexts, List.mapM_cons, hparse]
    rfl
  refine ⟨hpatterns, fun identifier ↦ ?_, ?_⟩
  · rw [ofNotice, hpatterns]
    rfl
  · cases cause with
    | invalid => exact ⟨fun _ ↦ rfl, fun _ ↦ ⟨_, rfl, rfl⟩⟩
    | countTooLarge => exact ⟨by rintro ⟨_, ⟨⟩, _⟩, by rintro ⟨⟩⟩
    | countTooLong digits => exact ⟨by rintro ⟨_, ⟨⟩, _⟩, by rintro ⟨⟩⟩

section Sample

open Sample

/-- An opening bracket that nothing closes is refused, and the fault shows the owner. -/
theorem refused_owner_open_bracket :
    Pattern.parse flags (piece (some "Jane (Doe")) = .error .invalid ∧
      (⟨some "2010", none, some "Jane (Doe"⟩ : Notice).patterns =
        .error (.of (.copyrightPattern (some "Jane (Doe") (some "2010") none) "" "copyright") := by
  have howner : piece (some "Jane (Doe") = "Jane (Doe".toList := by decide +kernel
  have hstart : ∀ c ∈ piece (some "2010"), c.isDigit = true :=
    List.all_eq_true.mp (by decide +kernel)
  have hcause : (match Pattern.parse flags "Jane (Doe".toList with
      | .error cause => some cause
      | .ok _ => none) = some .invalid := by decide +kernel
  have hparse : Pattern.parse flags (piece (some "Jane (Doe")) = .error .invalid := by
    rw [howner]
    split at hcause
    next cause h => rw [h, Option.some.inj hcause]
    · cases hcause
  have hmark : (piece (some "Jane (Doe")).head? ≠ some '?' := by
    rw [howner]
    decide +kernel
  have hplus : (piece (some "Jane (Doe")).head? ≠ some '+' := by
    rw [howner]
    decide +kernel
  have hnumbers : ∀ tokens ∈ tokens? (piece (some "Jane (Doe")), asksByNumber tokens = false := by
    rw [howner]
    decide +kernel
  refine ⟨hparse, ?_⟩
  have hrefused :=
    (@refused_owner _ ⟨some "2010", none, some "Jane (Doe"⟩ .invalid hstart nofun hparse hmark
      hplus hnumbers).1
  rwa [fault, howner, String.ofList_toList] at hrefused

/-- Four owners that are no patterns, of which the lead makes some: it ends with a repetition, and
it opens two groups. -/
theorem lead_completes_owner :
    (["+", "?", "\\1", "(?(2)a|b)"].map fun owner ↦
      ((Pattern.parse flags (piece (some owner))).isOk,
        (ofNotice ⟨none, none, some owner⟩ none).isOk)) =
      [(false, true), (false, true), (false, true), (false, true)] := by
  decide +kernel

end Sample

end LicenseHeaders.Matcher.Notice
