import LicenseHeaders.Analysis
import LicenseHeaders.Proofs.Matcher.ShortCircuit
import Mathlib.Data.List.Nodup
import Mathlib.Data.String.Basic

/-!
# Header analysis without short cuts

An analyser stops reading to a license that is decided, and stops reading at all where none is
pending. This module shows that its report is the one of the plain procedure, which resets a copy of
every license, reads it every line of the window and asks it at the end.

`License.recognizes` is the plain procedure for one license. `Candidate.Tracks` is the invariant of
the analyser: a pending candidate has been read every line, and a candidate that is no longer
pending is decided with the verdict that it would have after every line. One line keeps it
(`Candidate.tracks_feed`), so it holds after all of them (`Candidate.tracks_foldl`), and stopping
early leaves out only steps that change nothing (`Candidate.feedAll_eq_map`). Hence the families of
a report are those of the licenses that recognize the window, in their order
(`Analyser.families_eq`).

The order is that of the categories, and licenses of one category keep the order in which they were
given (`License.filter_sort`), which matters only where two of them share a category
(`License.sort_eq_of_perm`).
-/

set_option autoImplicit false
set_option relaxedAutoImplicit false

namespace LicenseHeaders

open Text

/-! ### One license -/

namespace License

/-- Whether a fresh copy of a license that is read every one of several lines holds at the end. -/
def recognizes (license : License) (lines : List (List Char)) : Bool :=
  (license.fresh.matcher.feedLines lines).finish.1 = .holds

end License

namespace Candidate

/-- What a candidate has to do with the license that it started as, after some lines: it has been
read all of them, or it is decided with the verdict that the license has after all of them. -/
structure Tracks (license : License) (lines : List (List Char)) (candidate : Candidate) : Prop where
  family : candidate.license.family = license.family
  pending : candidate.pending = true →
    candidate.license.matcher = license.matcher.feedLines lines
  decided : candidate.pending = false → candidate.license.matcher.verdict ≠ .unknown ∧
    candidate.license.matcher.verdict = (license.matcher.feedLines lines).verdict

/-- A decided candidate is not read a line. -/
theorem feed_of_decided {candidate : Candidate} (hdecided : candidate.pending = false)
    (line : List Char) : candidate.feed line = candidate := by
  simp only [feed, hdecided, Bool.false_eq_true, if_false]

theorem tracks_start (license : License) : Tracks license [] { license } where
  family := rfl
  pending := fun _ ↦ rfl
  decided := nofun

/-- Reading a line keeps a candidate in step with its license. -/
theorem tracks_feed {license : License} {lines : List (List Char)} {candidate : Candidate}
    (htracks : Tracks license lines candidate) (line : List Char) :
    Tracks license (lines ++ [line]) (candidate.feed line) := by
  cases hpending : candidate.pending with
  | true =>
    have hmatcher := htracks.pending hpending
    have hfed : candidate.feed line =
        { license := (candidate.license.feed line).2
          pending := (candidate.license.feed line).1 = .unknown } := by
      simp only [feed, hpending, if_true]
    have hread : (candidate.license.feed line).2.matcher =
        license.matcher.feedLines (lines ++ [line]) := by
      rw [Matcher.feedLines_concat, ← hmatcher]
      rfl
    have hreturn : (candidate.license.feed line).1 =
        (license.matcher.feedLines (lines ++ [line])).verdict := by
      rw [← hread]
      exact Matcher.feed_fst _ _
    rw [hfed]
    refine ⟨htracks.family, fun _ ↦ hread, fun hdecided ↦ ?_⟩
    have hne : (candidate.license.feed line).1 ≠ .unknown := of_decide_eq_false hdecided
    rw [hread, ← hreturn]
    exact ⟨hne, rfl⟩
  | false =>
    obtain ⟨hne, hverdict⟩ := htracks.decided hpending
    rw [feed_of_decided hpending]
    refine ⟨htracks.family, fun htrue ↦ ?_, fun _ ↦ ⟨hne, ?_⟩⟩
    · rw [hpending] at htrue
      cases htrue
    · rw [hverdict] at hne ⊢
      rw [Matcher.feedLines_concat]
      exact ((Matcher.refinedBy_feed _ line).eq_of_ne_unknown hne).symm

/-- Reading lines in order keeps a candidate in step with its license. -/
theorem tracks_foldl (license : License) (lines : List (List Char)) :
    Tracks license lines (lines.foldl (fun candidate line ↦ candidate.feed line) { license }) := by
  induction lines using List.reverseRecOn with
  | nil => exact tracks_start license
  | append_singleton lines line ih =>
    rw [List.foldl_append]
    exact tracks_feed ih line

/-- A candidate is recognized if its license holds at the end of all lines. -/
theorem recognized?_of_tracks {license : License} {lines : List (List Char)} {candidate : Candidate}
    (htracks : Tracks license lines candidate) :
    candidate.recognized? =
      if (license.matcher.feedLines lines).finish.1 = .holds then some license.family
      else none := by
  have hfinish : candidate.license.matcher.finish.1 =
      (license.matcher.feedLines lines).finish.1 := by
    cases hpending : candidate.pending with
    | true => rw [htracks.pending hpending]
    | false =>
      obtain ⟨hne, hverdict⟩ := htracks.decided hpending
      have hfirst := Matcher.finish_feedLines_of_decided hne []
      rw [hverdict] at hne hfirst
      have hsecond := Matcher.finish_feedLines_of_decided hne []
      exact hfirst.trans hsecond.symm
  simp only [recognized?, License.finish, hfinish, htracks.family]

theorem foldl_feed_of_decided {candidate : Candidate} (hdecided : candidate.pending = false)
    (lines : List (List Char)) :
    lines.foldl (fun candidate line ↦ candidate.feed line) candidate = candidate := by
  induction lines with
  | nil => rfl
  | cons line rest ih =>
    rw [List.foldl_cons, feed_of_decided hdecided, ih]

/-- Stopping where no candidate is pending leaves out only lines that change nothing. -/
theorem feedAll_eq_map (lines : List (List Char)) (candidates : List Candidate) :
    feedAll lines candidates = candidates.map fun candidate ↦
      (lines.map chomp).foldl (fun candidate line ↦ candidate.feed line) candidate := by
  induction lines generalizing candidates with
  | nil => simp only [feedAll, List.map_nil, List.foldl_nil, List.map_id']
  | cons line rest ih =>
    simp only [feedAll, List.map_cons, List.foldl_cons]
    by_cases hany : (candidates.map (feed (chomp line))).any (·.pending) = true
    · rw [if_pos hany, ih, List.map_map]
      rfl
    · rw [if_neg hany]
      refine List.map_congr_left fun candidate hcandidate ↦ ?_
      have hdecided : (candidate.feed (chomp line)).pending = false := by
        rw [List.any_eq_true] at hany
        by_contra hpending
        exact hany ⟨_, List.mem_map_of_mem hcandidate, Bool.eq_true_of_not_eq_false hpending⟩
      exact (foldl_feed_of_decided hdecided _).symm

end Candidate

/-! ### The order of licenses -/

namespace License

/-- Whether a license does not come behind another. -/
def notAfter (first second : License) : Bool :=
  !second.family.before first.family

theorem notAfter_iff (first second : License) :
    first.notAfter second = true ↔ first.id ≤ second.id := by
  simp only [notAfter, Family.before, Bool.not_eq_true', decide_eq_false_iff_not, not_lt]
  rfl

theorem notAfter_trans (first second third : License) (hfirst : first.notAfter second = true)
    (hsecond : second.notAfter third = true) : first.notAfter third = true := by
  rw [notAfter_iff] at *
  exact hfirst.trans hsecond

theorem notAfter_total (first second : License) :
    (first.notAfter second || second.notAfter first) = true := by
  rw [Bool.or_eq_true, notAfter_iff, notAfter_iff]
  exact le_total _ _

/-- Sorting leaves out no license and adds none. -/
theorem sort_perm (licenses : List License) : (sort licenses).Perm licenses :=
  List.mergeSort_perm licenses _

/-- Sorted licenses come in the order of their categories. -/
theorem pairwise_sort (licenses : List License) :
    (sort licenses).Pairwise fun first second ↦ first.id ≤ second.id :=
  (List.pairwise_mergeSort notAfter_trans notAfter_total licenses).imp fun h ↦
    (notAfter_iff _ _).mp h

/-- Sorting does not change the order of licenses that share a category. -/
theorem filter_sort (licenses : List License) (category : String) {selected : License → Bool}
    (hselected : ∀ license, selected license = true → license.id = category) :
    (sort licenses).filter selected = licenses.filter selected := by
  have hordered : (licenses.filter selected).Pairwise fun first second ↦
      first.notAfter second = true := by
    refine List.pairwise_of_forall_mem_list fun first hfirst second hsecond ↦ ?_
    rw [notAfter_iff, hselected first (List.mem_filter.mp hfirst).2,
      hselected second (List.mem_filter.mp hsecond).2]
  have hsublist : (licenses.filter selected).Sublist (sort licenses) :=
    List.sublist_mergeSort notAfter_trans notAfter_total hordered List.filter_sublist
  have hfiltered := hsublist.filter selected
  simp only [List.filter_filter, Bool.and_self] at hfiltered
  exact (hfiltered.eq_of_length
    ((List.mergeSort_perm licenses _).filter selected).length_eq.symm).symm

/-- Where no two licenses share a category, sorting forgets the order in which they were given. -/
theorem sort_eq_of_perm {licenses reordered : List License} (hperm : reordered.Perm licenses)
    (hdistinct : (licenses.map id).Nodup) : sort reordered = sort licenses := by
  refine List.Perm.eq_of_pairwise (fun first second hfirst hsecond hle hge ↦ ?_)
    (pairwise_sort reordered) (pairwise_sort licenses)
    ((List.mergeSort_perm reordered _).trans (hperm.trans (List.mergeSort_perm licenses _).symm))
  have hmemFirst : first ∈ licenses :=
    hperm.mem_iff.mp ((List.mergeSort_perm reordered _).mem_iff.mp hfirst)
  have hmemSecond : second ∈ licenses := (List.mergeSort_perm licenses _).mem_iff.mp hsecond
  exact List.inj_on_of_nodup_map hdistinct hmemFirst hmemSecond (le_antisymm hle hge)

/-- Copies are sorted as their licenses are. -/
theorem sort_map_fresh (licenses : List License) :
    sort (licenses.map fresh) = (sort licenses).map fresh :=
  (List.map_mergeSort (f := fresh) fun _ _ _ _ ↦ rfl).symm

end License

/-! ### The report -/

namespace Analyser

/-- Each license is read the lines of the window by itself, and the families of a report are those
of the licenses that hold at the end, in the order of the licenses. -/
theorem families_eq_of_each (licenses : List License) (policy : Policy) (window : Nat)
    (lines : List (List Char)) :
    families { licenses := licenses.map License.fresh, policy, window } lines =
      licenses.filterMap fun license ↦
        if (license.fresh.reset.matcher.feedLines ((lines.take window).map chomp)).finish.1 = .holds
        then some license.family else none := by
  simp only [families, Candidate.feedAll_eq_map, List.map_map, List.filterMap_map]
  refine List.filterMap_congr fun license _ ↦ ?_
  exact Candidate.recognized?_of_tracks (Candidate.tracks_foldl license.fresh.reset _)

/-- The families of a report are those of the licenses that recognize the lines of the window, in
the order of the licenses. Assumes: licenses with fresh matchers of the built-in kinds. -/
theorem families_eq (licenses : List License) (policy : Policy) (window : Nat)
    (hbuiltIn : ∀ license ∈ licenses, license.matcher.isBuiltIn = true)
    (lines : List (List Char)) :
    families { licenses := licenses.map License.fresh, policy, window } lines =
      (licenses.filter (·.recognizes ((lines.take window).map chomp))).map (·.family) := by
  have hrecognized : ∀ license ∈ licenses,
      (if (license.fresh.reset.matcher.feedLines ((lines.take window).map chomp)).finish.1 = .holds
        then some license.family else none) =
      if license.recognizes ((lines.take window).map chomp) then some license.family else none := by
    intro license hlicense
    have hreset : license.fresh.reset = license.fresh := by
      simp only [License.reset, License.fresh, Matcher.reset_fresh (hbuiltIn license hlicense)]
    simp only [hreset, License.recognizes, decide_eq_true_eq]
  calc families { licenses := licenses.map License.fresh, policy, window } lines
      = licenses.filterMap fun license ↦
          if license.recognizes ((lines.take window).map chomp) then some license.family
          else none :=
        (families_eq_of_each licenses policy window lines).trans (List.filterMap_congr hrecognized)
    _ = (licenses.filter (·.recognizes ((lines.take window).map chomp))).map (·.family) :=
        List.filterMap_filter.symm.trans (congrFun List.filterMap_eq_map' _)

/-- The analyser of licenses holds fresh copies of them in the order of their categories. -/
theorem ofLicenses_eq (licenses : List License) (policy : Policy) {window : Nat}
    (hwindow : 1 ≤ window) :
    ofLicenses licenses policy window =
      .ok { licenses := (License.sort licenses).map License.fresh, policy, window } := by
  have hpositive : ¬(window : Int) < 1 := by omega
  rw [ofLicenses, if_neg hpositive, License.sort_map_fresh]
  rfl

/-- An analyser with a countable window reports on all lines. -/
theorem analyse_eq {analyser : Analyser} (hcountable : analyser.window ≤ maxWindow)
    (lines : List (List Char)) (source : String) :
    analyser.analyse lines source = .ok
      { source, families := analyser.families lines
        approved := analyser.policy.approvesSome
          ((analyser.families lines).head?.map (·.category)) } := by
  rw [analyse, if_neg (Nat.not_lt.mpr hcountable)]

/-- What the first family is decides the approval. -/
theorem approvesSome_head?_iff (policy : Policy) (families : List Family) :
    policy.approvesSome (families.head?.map (·.category)) = true ↔
      ∃ family, families.head? = some family ∧ family.category ∈ policy.categories := by
  cases families.head? with
  | none => simp [Policy.approvesSome]
  | some family => simp [Policy.approvesSome, Policy.approves]

/-- The report on lines does not depend on when the reading stops. For licenses in any state and a
window of any countable number of lines, the families are those of the licenses that recognize the
window when they are read all of it: for each category those of that category in the order in which
they were given, and the categories do not decrease. The header is approved if the category of the
first family is; lines behind the window do not matter; and where no two licenses share a category,
neither does the order in which they were given. Assumes: trees of the built-in kinds. -/
theorem analyse_eq_full_reading (licenses : List License) (policy : Policy) (window : Nat)
    (hwindow : 1 ≤ window) (hcountable : window ≤ maxWindow)
    (hbuiltIn : ∀ license ∈ licenses, license.matcher.isBuiltIn = true)
    (lines : List (List Char)) (source : String) :
    ∃ analyser report, ofLicenses licenses policy window = .ok analyser ∧
      analyser.analyse lines source = .ok report ∧
      (∀ category, report.families.filter (·.category = category) =
        ((licenses.filter (·.recognizes ((lines.take window).map chomp))).map (·.family)).filter
          (·.category = category)) ∧
      report.families.Pairwise (fun first second ↦ first.category ≤ second.category) ∧
      (report.approved = true ↔
        ∃ family, report.families.head? = some family ∧ family.category ∈ policy.categories) ∧
      (∀ others : List (List Char), others.take window = lines.take window →
        analyser.analyse others source = .ok report) ∧
      ((licenses.map License.id).Nodup → ∀ reordered, reordered.Perm licenses →
        ∃ analyser', ofLicenses reordered policy window = .ok analyser' ∧
          analyser'.analyse lines source = .ok report) := by
  have hsorted : ∀ license ∈ License.sort licenses, license.matcher.isBuiltIn = true :=
    fun license hlicense ↦ hbuiltIn license ((List.mergeSort_perm licenses _).mem_iff.mp hlicense)
  have hfamilies := families_eq (License.sort licenses) policy window hsorted lines
  refine ⟨_, _, ofLicenses_eq licenses policy hwindow, analyse_eq hcountable lines source,
    fun category ↦ ?_, ?_, approvesSome_head?_iff policy _, fun others hothers ↦ ?_,
    fun hdistinct reordered hperm ↦ ?_⟩
  · rw [hfamilies, List.filter_map, List.filter_map, List.filter_filter, List.filter_filter]
    refine congrArg _ (License.filter_sort licenses category fun license hselected ↦ ?_)
    exact of_decide_eq_true (Bool.and_eq_true_iff.mp hselected).1
  · rw [hfamilies]
    exact ((License.pairwise_sort licenses).filter _).map _ fun _ _ hle ↦ hle
  · rw [analyse_eq hcountable]
    simp only [families, hothers]
  · refine ⟨_, ofLicenses_eq reordered policy hwindow, ?_⟩
    rw [License.sort_eq_of_perm hperm hdistinct]
    exact analyse_eq hcountable lines source

/-- Two of three licenses share a category, and one of the two is decided by the first line. -/
theorem analyse_eq_full_reading_shared :
    let literal := fun text ↦ Matcher.leaf none (.literal text) .holds
    let licenses : List License :=
      [⟨⟨"B", "b"⟩, .negation none (literal "x"), none, none⟩,
        ⟨⟨"A", "first"⟩, .any none [literal "x", literal "y"], none, none⟩,
        ⟨⟨"A", "second"⟩, .all none [literal "x", literal "y"], none, none⟩]
    let lines := [['x', '\r'], ['y']]
    (1 ≤ 2 ∧ 2 ≤ maxWindow ∧ ∀ license ∈ licenses, license.matcher.isBuiltIn = true) ∧
      ∃ analyser report, ofLicenses licenses ⟨["A"]⟩ (2 : Nat) = .ok analyser ∧
        analyser.analyse lines "header" = .ok report ∧
        ∀ category, report.families.filter (·.category = category) =
          ((licenses.filter (·.recognizes ((lines.take 2).map chomp))).map (·.family)).filter
            (·.category = category) := by
  intro literal licenses lines
  have hwindow : 1 ≤ 2 := by decide
  have hcountable : 2 ≤ maxWindow := by decide
  have hbuiltIn : ∀ license ∈ licenses, license.matcher.isBuiltIn = true := by
    simp [licenses, literal, Matcher.isBuiltIn, Matcher.areBuiltIn]
  obtain ⟨analyser, report, hanalyser, hreport, hfamilies, -⟩ :=
    analyse_eq_full_reading licenses ⟨["A"]⟩ 2 hwindow hcountable hbuiltIn lines "header"
  exact ⟨⟨hwindow, hcountable, hbuiltIn⟩, analyser, report, hanalyser, hreport, hfamilies⟩

end Analyser

end LicenseHeaders
