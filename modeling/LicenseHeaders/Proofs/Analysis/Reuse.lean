import LicenseHeaders.Proofs.Analysis
import LicenseHeaders.Proofs.Matcher.Construction
import LicenseHeaders.Sample

/-!
# Matchers and analysers that are used again

An analyser works on the same licenses for one header after the other. `Analyser.afterReport` is the
analyser with the licenses as a report leaves them: half read, finished, or only reset where the
window cannot be counted. A report starts with a reset, and a reset removes all that an earlier
report has left (`Analyser.alike_afterReport`), so an analyser that has been used reports what it
reported at first (`Analyser.reports_eq_map`).

`Matcher.calls_leave_no_trace` puts this together with what holds for one tree: after a reset,
in a copy for another license and in a new reference, a tree that has been called in any way answers
as one that has just been made.
-/

set_option autoImplicit false
set_option relaxedAutoImplicit false

namespace LicenseHeaders

open Text

/-! ### One license -/

namespace License

theorem reset_afterCalls {license : License} (hbuiltIn : license.matcher.isBuiltIn = true)
    (calls : List Matcher.Call) : (license.afterCalls calls).reset = license.reset := by
  rw [afterCalls_eq, reset, reset, Matcher.reset_afterCalls hbuiltIn]

/-- A fresh copy of a license does not show the calls before. Assumes: a tree of the built-in
kinds. -/
theorem fresh_afterCalls {license : License} (hbuiltIn : license.matcher.isBuiltIn = true)
    (calls : List Matcher.Call) : (license.afterCalls calls).fresh = license.fresh := by
  simp only [afterCalls_eq, fresh, Matcher.fresh, Matcher.reset_copied,
    Matcher.reset_afterCalls hbuiltIn]

end License

namespace Candidate

/-- A reset removes what reading a line to a candidate has done. -/
theorem reset_feed {candidate : Candidate}
    (hbuiltIn : candidate.license.matcher.isBuiltIn = true) (line : List Char) :
    (candidate.feed line).license.reset = candidate.license.reset := by
  rw [feed]
  split
  · exact License.reset_afterCalls hbuiltIn [.feed line]
  · rfl

theorem isBuiltIn_feed {candidate : Candidate}
    (hbuiltIn : candidate.license.matcher.isBuiltIn = true) (line : List Char) :
    (candidate.feed line).license.matcher.isBuiltIn = true := by
  rw [feed]
  split
  · exact Matcher.isBuiltIn_call hbuiltIn (.feed line)
  · exact hbuiltIn

/-- A reset removes what reading lines to a candidate and finishing it has done. -/
theorem reset_finish_foldl {candidate : Candidate}
    (hbuiltIn : candidate.license.matcher.isBuiltIn = true) (lines : List (List Char)) :
    (lines.foldl (fun candidate line ↦ candidate.feed line) candidate).license.finish.2.reset =
      candidate.license.reset := by
  induction lines generalizing candidate with
  | nil => exact License.reset_afterCalls hbuiltIn [.finish]
  | cons line rest ih =>
    rw [List.foldl_cons, ih (isBuiltIn_feed hbuiltIn line), reset_feed hbuiltIn]

end Candidate

/-! ### One analyser -/

/-- A header that is handed to an analyser. -/
inductive Header where
  | lines (given : List (List Char))
  | text (given : List Char)
  | bytes (given : Bytes)

/-- The lines of a header. -/
def Header.read : Header → List (List Char)
  | .lines given => given
  | .text given => splitLines given
  | .bytes given => fileLines (decodeUtf8Lossy given)

namespace Analyser

/-- The report on a header that belongs to a source. -/
def report (analyser : Analyser) (header : Header) (source : String) : Except Fault Report :=
  match header with
  | .lines given => analyser.analyse given source
  | .text given => analyser.analyseText given source
  | .bytes given => analyser.analyseBytes given source

/-- The licenses of an analyser with the lines of a header read to them, as far as a report on it
reads them. -/
def candidates (analyser : Analyser) (lines : List (List Char)) : List Candidate :=
  Candidate.feedAll (lines.take analyser.window)
    (analyser.licenses.map fun license ↦ { license := license.reset })

/-- An analyser as a report on a header leaves it: its licenses have been reset, and unless the
window cannot be counted, they have been read lines and told that the header is over. -/
def afterReport (analyser : Analyser) (header : Header) : Analyser :=
  { analyser with
    licenses :=
      if maxWindow < analyser.window then analyser.licenses.map License.reset
      else (analyser.candidates header.read).map fun candidate ↦ candidate.license.finish.2 }

/-- The reports of one analyser on headers in order. -/
def reports (analyser : Analyser) : List (Header × String) → List (Except Fault Report)
  | [] => []
  | (header, source) :: rest =>
    analyser.report header source :: (analyser.afterReport header).reports rest

theorem report_eq_analyse (analyser : Analyser) (header : Header) (source : String) :
    analyser.report header source = analyser.analyse header.read source := by
  cases header <;> rfl

/-- The families of a report are those of the licenses that the report leaves behind, as far as the
end of the header has told them to hold. -/
theorem families_eq_filterMap (analyser : Analyser) (lines : List (List Char)) :
    analyser.families lines = (analyser.candidates lines).filterMap Candidate.recognized? :=
  rfl

/-- Whether two analysers differ at most in what their licenses have been read. -/
structure Alike (first second : Analyser) : Prop where
  licenses : first.licenses.map License.reset = second.licenses.map License.reset
  policy : first.policy = second.policy
  window : first.window = second.window

theorem Alike.trans {first second third : Analyser} (hfirst : Alike first second)
    (hsecond : Alike second third) : Alike first third :=
  ⟨hfirst.licenses.trans hsecond.licenses, hfirst.policy.trans hsecond.policy,
    hfirst.window.trans hsecond.window⟩

/-- Analysers that are alike report alike. -/
theorem Alike.report_eq {first second : Analyser} (halike : Alike first second) (header : Header)
    (source : String) : first.report header source = second.report header source := by
  have hstart : ∀ analyser : Analyser,
      (analyser.licenses.map fun license ↦ { license := license.reset : Candidate }) =
        (analyser.licenses.map License.reset).map fun license ↦ { license } := fun analyser ↦ by
    rw [List.map_map]
    rfl
  have hfamilies : ∀ lines, first.families lines = second.families lines := fun lines ↦ by
    rw [families_eq_filterMap, families_eq_filterMap, candidates, candidates, hstart, hstart,
      halike.licenses, halike.window]
  rw [report_eq_analyse, report_eq_analyse]
  simp only [analyse, hfamilies, halike.window, halike.policy]

/-- Whether the licenses of an analyser have trees of the built-in kinds. -/
def IsBuiltIn (analyser : Analyser) : Prop :=
  ∀ license ∈ analyser.licenses, license.matcher.isBuiltIn = true

theorem isBuiltIn_iff (analyser : Analyser) :
    analyser.IsBuiltIn ↔
      ∀ license ∈ analyser.licenses.map License.reset, license.matcher.isBuiltIn = true := by
  rw [List.forall_mem_map]
  exact forall₂_congr fun license _ ↦ by rw [License.reset, Matcher.isBuiltIn_reset]

/-- An analyser that is like one of the built-in kinds is so itself. -/
theorem Alike.isBuiltIn {first second : Analyser} (halike : Alike first second)
    (hbuiltIn : second.IsBuiltIn) : first.IsBuiltIn := by
  rw [isBuiltIn_iff, halike.licenses, ← isBuiltIn_iff]
  exact hbuiltIn

/-- A report leaves an analyser behind that is like the one before. Assumes: trees of the built-in
kinds. -/
theorem alike_afterReport {analyser : Analyser} (hbuiltIn : analyser.IsBuiltIn)
    (header : Header) : Alike (analyser.afterReport header) analyser := by
  refine ⟨?_, rfl, rfl⟩
  have hreset : ∀ license ∈ analyser.licenses, license.reset.reset = license.reset :=
    fun license hlicense ↦ License.reset_afterCalls (hbuiltIn license hlicense) [.reset]
  simp only [afterReport]
  split
  · rw [List.map_map]
    exact List.map_congr_left hreset
  · rw [candidates, Candidate.feedAll_eq_map, List.map_map, List.map_map, List.map_map]
    refine List.map_congr_left fun license hlicense ↦ ?_
    have hbuiltIn : license.reset.matcher.isBuiltIn = true :=
      (Matcher.isBuiltIn_reset _).trans (hbuiltIn license hlicense)
    have hread : ∀ lines : List (List Char),
        (lines.foldl (fun candidate line ↦ candidate.feed line)
          ({ license := license.reset } : Candidate)).license.finish.2.reset =
            license.reset.reset :=
      Candidate.reset_finish_foldl hbuiltIn
    exact (hread _).trans (hreset license hlicense)

/-- Each report of an analyser is what an analyser that is like it at the start would report at
once. Assumes: trees of the built-in kinds. -/
theorem reports_eq_map {analyser another : Analyser} (hbuiltIn : analyser.IsBuiltIn)
    (halike : Alike analyser another) (headers : List (Header × String)) :
    analyser.reports headers = headers.map fun (header, source) ↦ another.report header source := by
  induction headers generalizing analyser with
  | nil => rfl
  | cons first rest ih =>
    obtain ⟨header, source⟩ := first
    have hafter := alike_afterReport hbuiltIn header
    rw [reports, List.map_cons, halike.report_eq,
      ih (hafter.isBuiltIn hbuiltIn) (hafter.trans halike)]

/-- An analyser of licenses is the same whatever the licenses were called. Assumes: trees of the
built-in kinds. -/
theorem ofLicenses_eq_of_afterCalls {licenses others : List License}
    (hbuiltIn : ∀ license ∈ licenses, license.matcher.isBuiltIn = true)
    (hcalled : List.Forall₂
      (fun license other : License ↦ ∃ calls, other = license.afterCalls calls)
      licenses others) (policy : Policy) (window : Int) :
    ofLicenses others policy window = ofLicenses licenses policy window := by
  have hfresh : others.map License.fresh = licenses.map License.fresh := by
    induction hcalled with
    | nil => rfl
    | cons hhead _ ih =>
      obtain ⟨calls, rfl⟩ := hhead
      rw [List.forall_mem_cons] at hbuiltIn
      rw [List.map_cons, List.map_cons, License.fresh_afterCalls hbuiltIn.1, ih hbuiltIn.2]
  rw [ofLicenses, ofLicenses, hfresh]

/-- The licenses of an analyser have trees of the built-in kinds if the licenses that it was made of
have. -/
theorem isBuiltIn_of_ofLicenses {licenses : List License} {policy : Policy} {window : Int}
    {analyser : Analyser} (hbuiltIn : ∀ license ∈ licenses, license.matcher.isBuiltIn = true)
    (hmade : ofLicenses licenses policy window = .ok analyser) : analyser.IsBuiltIn := by
  rw [ofLicenses] at hmade
  split at hmade
  · cases hmade
  · cases hmade
    intro license hlicense
    have hmem := (List.mergeSort_perm (licenses.map License.fresh) _).mem_iff.mp hlicense
    obtain ⟨original, horiginal, rfl⟩ := List.mem_map.mp hmem
    exact (Matcher.isBuiltIn_fresh _).trans (hbuiltIn original horiginal)

end Analyser

/-! ### Used and new -/

namespace Matcher

/-- What was called before leaves no trace. A tree that was made after a plan and has been called in
any way answers, after a reset, as one that is newly made after the plan; so does a license that
owns it after a reset, a copy of that license, and a new reference to the tree. However calls of the
tree, of the copy and of the reference are interleaved, each of the three becomes what its own calls
make of it. And one analyser reports on every one of several headers what a new analyser over the
same licenses reports, even if the licenses have been called in the meantime. -/
theorem calls_leave_no_trace [CharacterNames] {plan : Plan} {used new : Matcher}
    (hused : plan.Leaves used) (hnew : plan.Makes new) :
    (∀ calls, used.reset.answers calls = new.answers calls) ∧
    (∀ license : License, license.matcher = used → ∀ calls,
      license.reset.answers calls = new.answers calls ∧
      license.fresh.answers calls = new.answers calls) ∧
    (∀ name id calls, (ofReference name used id).answers calls = new.answers calls) ∧
    (∀ license : License, license.matcher = used → ∀ name id steps (place : Nat),
      let trees : List Matcher := [used, license.fresh.matcher, ofReference name used id]
      (afterSteps trees steps)[place]? =
        trees[place]?.map (·.afterCalls (callsAt place steps))) ∧
    (∀ (licenses others : List License) policy window analyser,
      (∀ license ∈ licenses, ∃ plan : Plan, plan.Leaves license.matcher) →
      List.Forall₂ (fun license other ↦ ∃ calls, other = License.afterCalls license calls)
        licenses others →
      Analyser.ofLicenses licenses policy window = .ok analyser →
      ∃ another, Analyser.ofLicenses others policy window = .ok another ∧
        ∀ headers, analyser.reports headers =
          headers.map fun (header, source) ↦ another.report header source) := by
  refine ⟨fun calls ↦ ?_, fun license howns calls ↦ ⟨?_, ?_⟩, fun name id calls ↦ ?_,
    fun license howns name id steps place ↦ ?_,
    fun licenses others policy window analyser hleft hcalled hmade ↦ ?_⟩
  · rw [hused.reset_eq hnew]
  · rw [License.answers_eq, License.reset, howns, hused.reset_eq hnew]
  · rw [License.answers_eq, License.fresh, howns, hused.fresh_eq hnew, answers_copied]
  · rw [ofReference, answers_reference, hused.fresh_eq hnew, answers_copied]
  · refine getElem?_afterSteps ?_ steps place
    have hcopy : license.fresh.matcher.names = [] := names_fresh _
    have href : (ofReference name used id).names = [] := names_fresh used
    simpa only [Apart, namesEach, List.flatMap_cons, List.flatMap_nil, hcopy, href,
      List.append_nil] using hused.nodup_names
  · have hbuiltIn : ∀ license ∈ licenses, license.matcher.isBuiltIn = true := by
      intro license hlicense
      obtain ⟨plan, hleaves⟩ := hleft license hlicense
      exact hleaves.isBuiltIn
    refine ⟨analyser, (Analyser.ofLicenses_eq_of_afterCalls hbuiltIn hcalled policy window).trans
      hmade, fun headers ↦ ?_⟩
    exact Analyser.reports_eq_map (Analyser.isBuiltIn_of_ofLicenses hbuiltIn hmade)
      ⟨rfl, rfl, rfl⟩ headers

section Sample

open Sample

/-- A phrase in a reference beside a registered text. The target of the reference was registered
itself and had been read a part of the phrase when it was copied, and the tree is read the whole of
it. A new reference to the tree finds the text in a line, which the tree does not see. -/
theorem calls_leave_no_trace_phrase :
    let plan : Plan := .any
      [.reference "phrase" (.registered "phrase" (.phrase "ab cd" none)) none,
        .registered "word" (.literal "MIT" none)] none
    let phrase (window : List Char) (verdict : Verdict) : Matcher :=
      leaf none (.phrase ⟨['a', 'b', 'c', 'd'], window⟩) verdict
    let word : Matcher := .registered "word" (leaf none (.literal "MIT") .unknown)
    let new := any none [.reference none "phrase" (phrase [] .unknown), word]
    let used := any none [.reference none "phrase" (phrase ['a', 'b', 'c', 'd'] .holds), word]
    let license : License := ⟨⟨"A", "a"⟩, used, none, none⟩
    let half := [Call.feed ['c', 'd'], .ask, .finish]
    (plan.Leaves used ∧ plan.Makes new) ∧
      used.reset.answers half = new.answers half ∧
      license.fresh.answers half = new.answers half ∧
      (ofReference "phrase" used none).answers half = new.answers half ∧
      (afterSteps [used, license.fresh.matcher, ofReference "phrase" used none]
        [(1, .finish), (2, .feed ['M', 'I', 'T']), (0, .ask)])[0]? =
          some (used.afterCalls [.ask]) ∧
      ∀ analyser, Analyser.ofLicenses [license] ⟨["A"]⟩ 1 = .ok analyser →
        ∃ another, Analyser.ofLicenses [license.afterCalls half] ⟨["A"]⟩ 1 = .ok another ∧
          ∀ headers, analyser.reports headers =
            headers.map fun (header, source) ↦ another.report header source := by
  have hcomputed : ofPhrase "ab cd" none =
        .ok (leaf none (.phrase ⟨['a', 'b', 'c', 'd'], []⟩) .unknown) ∧
      (any none [.reference none "phrase" (leaf none (.phrase ⟨['a', 'b', 'c', 'd'], []⟩) .unknown),
        .registered "word" (leaf none (.literal "MIT") .unknown)]).afterCalls
          [.feed ['a', 'b', ' '], .feed ['C', 'd']] =
        any none [.reference none "phrase"
            (leaf none (.phrase ⟨['a', 'b', 'c', 'd'], ['a', 'b', 'c', 'd']⟩) .holds),
          .registered "word" (leaf none (.literal "MIT") .unknown)] := by
    constructor <;> cbv
  obtain ⟨hphrase, hread⟩ := hcomputed
  intro plan phrase word new used license half
  have hcopy : reference none "phrase" (phrase [] .unknown) =
      ofReference "phrase" ((registered "phrase" (phrase [] .unknown)).afterCalls
        [.feed ['a', 'b']]) none := by
    rw [ofReference, fresh, reset_copied, reset_afterCalls rfl]
    rfl
  have hnew : plan.Makes new := by
    refine ⟨[.reference none "phrase" (phrase [] .unknown), word], ⟨_, _, ?_, ⟨_, _, ?_, rfl, rfl⟩,
      rfl⟩, rfl⟩
    · exact ⟨registered "phrase" (phrase [] .unknown), [.feed ['a', 'b']],
        ⟨phrase [] .unknown, hphrase, rfl⟩, List.nodup_singleton "phrase", hcopy⟩
    · exact ⟨leaf none (.literal "MIT") .unknown, rfl, rfl⟩
  have hused : plan.Leaves used :=
    ⟨new, _, hnew, List.nodup_singleton "word", hread.symm⟩
  obtain ⟨hreset, hlicense, hreference, hapart, hanalyser⟩ := calls_leave_no_trace hused hnew
  refine ⟨⟨hused, hnew⟩, hreset half, (hlicense license rfl half).2, hreference _ _ half,
    hapart license rfl _ _ _ 0, fun analyser hmade ↦ ?_⟩
  refine hanalyser [license] _ ⟨["A"]⟩ 1 analyser ?_ (.cons ⟨half, rfl⟩ .nil) hmade
  exact List.forall_mem_singleton.mpr ⟨plan, hused⟩

end Sample

end Matcher

end LicenseHeaders
