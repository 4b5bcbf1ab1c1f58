import LicenseHeaders.Proofs.Analysis
import LicenseHeaders.Proofs.Command.Settings

/-!
# Windows that are accepted and windows that are used

How many lines of a header are read is given to an analyser, in a file with settings or on the
command line. Each of the three accepts every number from one upwards, however large
(`Analyser.exists_ofLicenses_iff`, `Settings.window_of_ofTable`, `Command.Choices.exists_onto_iff`).
An analyser counts lines only up to `maxWindow`. With a window up to that it reports what its
licenses say to the lines of the window (`Analyser.analyse_eq_fullReport`), and with a larger one it
reports on nothing, not even on the empty header (`Analyser.accepted_window_used_iff`).
-/

set_option autoImplicit false
set_option relaxedAutoImplicit false

namespace LicenseHeaders

open Text

/-! ### What is accepted -/

namespace Settings

/-- A setting that is given is what is read of it. -/
theorem setting_of_get? {Value : Type} {table : Toml.Table} {key : String} {given : Toml.Value}
    (hgiven : table.get? key = some given) (default : Value) (read : Toml.Value → Option Value)
    (refusal : Fault) :
    setting table key default read refusal =
      match read given with
      | some value => .ok value
      | none => .error refusal := by
  unfold setting
  split
  · next hnone => cases hnone.symm.trans hgiven
  · next value hvalue =>
    cases hvalue.symm.trans hgiven
    rfl

theorem positive?_integer (number : Int) :
    positive? (.integer number) = if number < 1 then none else some number :=
  rfl

variable {window : Int} {path : Path}

/-- The window of settings is the number that their table gives, and this is positive. -/
theorem window_of_ofTable {table : Toml.Table} {settings : Settings}
    (hgiven : table.get? "header_lines" = some (.integer window))
    (hread : ofTable table path = .ok settings) : 1 ≤ window ∧ settings.window = window := by
  simp only [ofTable, setting_of_get? hgiven, positive?_integer] at hread
  split at hread
  · cases hread
  · obtain ⟨_, -, hread⟩ := bind_eq_ok_iff.mp hread
    obtain ⟨number, hnumber, hread⟩ := bind_eq_ok_iff.mp hread
    obtain ⟨_, -, hread⟩ := bind_eq_ok_iff.mp hread
    obtain ⟨_, -, hread⟩ := bind_eq_ok_iff.mp hread
    cases hread
    by_cases hsmall : window < 1
    · rw [if_pos hsmall] at hnumber
      cases hnumber
    · rw [if_neg hsmall] at hnumber
      cases hnumber
      exact ⟨Int.not_lt.mp hsmall, rfl⟩

/-- A table that gives a positive window and nothing else has settings. -/
theorem ofTable_of_one_le (hpositive : 1 ≤ window) :
    ofTable [("header_lines", .integer window)] path = .ok { window, path := some path } := by
  have hgiven : Toml.Table.get? [("header_lines", .integer window)] "header_lines" =
      some (.integer window) := rfl
  have hlarge : ¬window < 1 := Int.not_lt.mpr hpositive
  have hknown : sorted ((Toml.Table.keys [("header_lines", .integer window)]).filter
      (!names.contains ·)) = [] := List.mergeSort_nil
  simp only [ofTable, hknown, setting_of_get? hgiven, positive?_integer, if_neg hlarge]
  rfl

end Settings

namespace Command.Choices

/-- A choice of a window is taken over exactly if it is positive. -/
theorem exists_onto_iff {choices : Choices} {settings : Settings} {window : Int}
    (hchosen : choices.window = some window) :
    (∃ chosen, choices.onto settings = .ok chosen ∧ chosen.window = window) ↔ 1 ≤ window := by
  simp only [onto, hchosen]
  split
  · next hsmall =>
    refine ⟨?_, fun hpositive ↦ absurd hsmall (Int.not_lt.mpr hpositive)⟩
    rintro ⟨_, ⟨⟩, _⟩
  · next hlarge => exact ⟨fun _ ↦ Int.not_lt.mp hlarge, fun _ ↦ ⟨_, rfl, rfl⟩⟩

end Command.Choices

namespace Analyser

variable {licenses : List License} {policy : Policy} {window : Int}

theorem exists_ofLicenses_iff :
    (∃ analyser, ofLicenses licenses policy window = .ok analyser) ↔ 1 ≤ window := by
  rw [ofLicenses]
  split
  · next hsmall =>
    refine ⟨?_, fun hpositive ↦ absurd hsmall (Int.not_lt.mpr hpositive)⟩
    rintro ⟨_, ⟨⟩⟩
  · next hlarge => exact ⟨fun _ ↦ Int.not_lt.mp hlarge, fun _ ↦ ⟨_, rfl⟩⟩

/-! ### What is used -/

/-- The report on lines if every license is read all of them. -/
def fullReport (licenses : List License) (policy : Policy) (lines : List (List Char))
    (source : String) : Report :=
  let families :=
    ((License.sort licenses).filter (·.recognizes (lines.map chomp))).map (·.family)
  { source, families, approved := policy.approvesSome (families.head?.map (·.category)) }

variable {analyser : Analyser} (hmade : ofLicenses licenses policy window = .ok analyser)

include hmade

theorem toNat_window : (analyser.window : Int) = window := by
  rw [ofLicenses] at hmade
  split at hmade
  · cases hmade
  · next hlarge =>
    cases hmade
    exact Int.toNat_of_nonneg (by omega)

/-- An analyser with a window that can be counted reports what its licenses say to the lines of the
window. Assumes: trees of the built-in kinds. -/
theorem analyse_eq_fullReport
    (hbuiltIn : ∀ license ∈ licenses, license.matcher.isBuiltIn = true)
    (hcountable : window ≤ maxWindow) (lines : List (List Char)) (source : String) :
    analyser.analyse lines source =
      .ok (fullReport licenses policy (lines.take window.toNat) source) := by
  have hpositive : 1 ≤ window := exists_ofLicenses_iff.mp ⟨analyser, hmade⟩
  -- An accepted window is a natural number, which is what an analyser keeps.
  obtain ⟨number, rfl⟩ := Int.eq_ofNat_of_zero_le (by omega : 0 ≤ window)
  have hsorted : ∀ license ∈ License.sort licenses, license.matcher.isBuiltIn = true :=
    fun license hlicense ↦ hbuiltIn license ((License.sort_perm licenses).mem_iff.mp hlicense)
  rw [ofLicenses_eq licenses policy (by omega)] at hmade
  cases hmade
  rw [analyse_eq (by exact_mod_cast hcountable), families_eq _ policy number hsorted lines]
  rfl

/-- An analyser with a larger window reports on nothing. -/
theorem analyse_of_uncountable (hlarge : maxWindow < window) (lines : List (List Char))
    (source : String) : analyser.analyse lines source = .error (.value .windowTooLarge) := by
  have hwindow := toNat_window hmade
  rw [analyse, if_pos (by omega)]

omit hmade

/-- The windows that are accepted and those that are used. A number is accepted as the window of an
analyser, in a table of settings and as a choice on the command line exactly if it is positive,
however large it is. An analyser of licenses with an accepted window reports on lines exactly if the
window can be counted, whatever the lines are. Then the report is that of licenses which are read
all of the lines of the window, and so all lines where there are no more; and a window that cannot
be counted is refused with every header. Assumes: trees of the built-in kinds. -/
theorem accepted_window_used_iff
    (hbuiltIn : ∀ license ∈ licenses, license.matcher.isBuiltIn = true) (policy : Policy)
    (window : Int) :
    ((∃ analyser, ofLicenses licenses policy window = .ok analyser) ↔ 1 ≤ window) ∧
    (∀ path, 1 ≤ window → Settings.ofTable [("header_lines", .integer window)] path =
      .ok { window, path := some path }) ∧
    (∀ table path settings, Toml.Table.get? table "header_lines" = some (.integer window) →
      Settings.ofTable table path = .ok settings → 1 ≤ window ∧ settings.window = window) ∧
    (∀ (choices : Command.Choices) settings, choices.window = some window →
      ((∃ chosen, choices.onto settings = .ok chosen ∧ chosen.window = window) ↔ 1 ≤ window)) ∧
    ∀ analyser, ofLicenses licenses policy window = .ok analyser → ∀ lines source,
      ((∃ report, analyser.analyse lines source = .ok report) ↔ window ≤ maxWindow) ∧
      (window ≤ maxWindow → analyser.analyse lines source =
        .ok (fullReport licenses policy (lines.take window.toNat) source)) ∧
      (window ≤ maxWindow → lines.length ≤ window → analyser.analyse lines source =
        .ok (fullReport licenses policy lines source)) ∧
      (maxWindow < window → analyser.analyse lines source = .error (.value .windowTooLarge)) := by
  refine ⟨exists_ofLicenses_iff, fun path ↦ Settings.ofTable_of_one_le,
    fun table path settings ↦ Settings.window_of_ofTable,
    fun choices settings ↦ Command.Choices.exists_onto_iff, fun analyser hmade lines source ↦ ?_⟩
  have hused := analyse_eq_fullReport hmade hbuiltIn
  have hrefused := analyse_of_uncountable hmade
  refine ⟨⟨?_, fun hcountable ↦ ⟨_, hused hcountable lines source⟩⟩,
    fun hcountable ↦ hused hcountable lines source, fun hcountable hshort ↦ ?_,
    fun hlarge ↦ hrefused hlarge lines source⟩
  · rintro ⟨report, hreport⟩
    by_contra hlarge
    cases hreport.symm.trans (hrefused (Int.not_le.mp hlarge) lines source)
  · rw [hused hcountable lines source, List.take_of_length_le (by omega)]

/-! ### A window of two lines and one beyond all counting -/

/-- A license whose headers have a text in them. -/
def sampleLicense : License :=
  ⟨⟨"A", "Alpha"⟩, .leaf none (.literal "Foo") .unknown, none, none⟩

theorem accepted_window_used_two :
    (∀ license ∈ [sampleLicense], license.matcher.isBuiltIn = true) ∧
      ∃ analyser, ofLicenses [sampleLicense] ⟨["A"]⟩ 2 = .ok analyser ∧
        analyser.analyse ["x".toList, "Foo".toList] "foo.c" =
          .ok { source := "foo.c", families := [⟨"A", "Alpha"⟩], approved := true } := by
  have hbuiltIn : ∀ license ∈ [sampleLicense], license.matcher.isBuiltIn = true := by
    simp [sampleLicense, Matcher.isBuiltIn]
  obtain ⟨haccepted, -, -, -, hused⟩ := accepted_window_used_iff hbuiltIn ⟨["A"]⟩ 2
  obtain ⟨analyser, hmade⟩ := haccepted.mpr (by decide)
  have hreport := (hused analyser hmade ["x".toList, "Foo".toList] "foo.c").2.2.1
  have hfull : fullReport [sampleLicense] ⟨["A"]⟩ ["x".toList, "Foo".toList] "foo.c" =
      { source := "foo.c", families := [⟨"A", "Alpha"⟩], approved := true } := by
    rw [fullReport, License.sort, List.mergeSort_singleton]
    rfl
  exact ⟨hbuiltIn, analyser, hmade, hfull ▸ hreport (by decide) (by decide)⟩

/-- The first window that cannot be counted is accepted in all three places, and no header is
reported on. -/
theorem uncountable_window_accepted :
    let window : Int := maxWindow + 1
    (∃ settings, Settings.ofTable [("header_lines", .integer window)] {} = .ok settings ∧
        settings.window = window) ∧
      (∃ settings, ({ window := some window } : Command.Choices).onto {} = .ok settings ∧
        settings.window = window) ∧
      ∃ analyser, ofLicenses [sampleLicense] ⟨["A"]⟩ window = .ok analyser ∧
        analyser.analyse ["Foo".toList] "foo.c" = .error (.value .windowTooLarge) := by
  intro window
  have hpositive : 1 ≤ window := by decide
  obtain ⟨analyser, hmade⟩ := (@exists_ofLicenses_iff [sampleLicense] ⟨["A"]⟩ window).mpr hpositive
  exact ⟨⟨_, Settings.ofTable_of_one_le hpositive, rfl⟩,
    (Command.Choices.exists_onto_iff rfl).mpr hpositive, analyser, hmade,
    analyse_of_uncountable hmade (Int.lt_succ _) _ _⟩

end Analyser

end LicenseHeaders
