import LicenseHeaders.Command.Run
import LicenseHeaders.Proofs.Effects

/-!
# The settings of a command

Settings come from a file or are those that hold without one, and the command line has the last
word. Either way at least one line of a file is read: a number below one is refused wherever it is
given (`Settings.one_le_window_of_load`, `Choices.one_le_window`). So an engine that a command has
put together always has an analyser (`one_le_window_of_engine`).
-/

set_option autoImplicit false
set_option relaxedAutoImplicit false

namespace LicenseHeaders

/-! ### Settings in a file -/

namespace Settings

theorem one_le_defaultWindow : 1 ≤ (defaultWindow : Int) := by
  decide

theorem one_le_of_positive? {given : Toml.Value} {number : Int}
    (hpositive : positive? given = some number) : 1 ≤ number := by
  unfold positive? at hpositive
  split at hpositive
  · split at hpositive
    · cases hpositive
    · cases hpositive
      exact Int.not_lt.mp ‹_›
  · cases hpositive

/-- A setting is what is read of the value that is given, if there is one. -/
theorem eq_default_or_exists_of_setting {α : Type} {table : Toml.Table} {key : String}
    {default value : α} {read : Toml.Value → Option α} {refusal : Fault}
    (hsetting : setting table key default read refusal = .ok value) :
    value = default ∨ ∃ given, read given = some value := by
  unfold setting at hsetting
  split at hsetting
  · cases hsetting
    exact .inl rfl
  · split at hsetting
    · cases hsetting
      exact .inr ⟨_, ‹_›⟩
    · cases hsetting

theorem one_le_window_of_ofTable {table : Toml.Table} {path : Path} {settings : Settings}
    (hread : ofTable table path = .ok settings) : 1 ≤ settings.window := by
  simp only [ofTable] at hread
  split at hread
  · cases hread
  · obtain ⟨_, -, hread⟩ := bind_eq_ok_iff.mp hread
    obtain ⟨window, hwindow, hread⟩ := bind_eq_ok_iff.mp hread
    obtain ⟨_, -, hread⟩ := bind_eq_ok_iff.mp hread
    obtain ⟨_, -, hread⟩ := bind_eq_ok_iff.mp hread
    cases hread
    rcases eq_default_or_exists_of_setting hwindow with rfl | ⟨given, hgiven⟩
    · exact one_le_defaultWindow
    · exact one_le_of_positive? hgiven

theorem one_le_window_of_ofProject {entries : Toml.Table} {path : Path} {settings : Settings}
    (hread : ofProject entries path = .ok settings) : 1 ≤ settings.window := by
  unfold ofProject at hread
  split at hread
  · cases hread
    exact one_le_defaultWindow
  · split at hread
    · cases hread
      exact one_le_defaultWindow
    · exact one_le_window_of_ofTable hread
    · cases hread
  · cases hread

/-- Settings that are read from a file let at least one line be read. -/
theorem one_le_window_of_load {tree : FileTree} {path : Path} {settings : Settings}
    (hload : load tree path = .ok settings) : 1 ≤ settings.window := by
  simp only [load] at hload
  split at hload
  · cases hload
  · split at hload
    · cases hload
    · split at hload
      · cases hload
      · obtain ⟨entries, -, hread⟩ := bind_eq_ok_iff.mp hload
        split at hread
        · exact one_le_window_of_ofProject hread
        · exact one_le_window_of_ofTable hread

end Settings

namespace Command

/-! ### Settings on the command line -/

namespace Choices

theorem one_le_window_of_onto {choices : Choices} {given settings : Settings}
    (hgiven : 1 ≤ given.window) (honto : choices.onto given = .ok settings) :
    1 ≤ settings.window := by
  simp only [onto] at honto
  split at honto
  · cases honto
    exact hgiven
  · split at honto
    · cases honto
    · cases honto
      exact Int.not_lt.mp ‹_›

/-- The settings of a command let at least one line be read. -/
theorem one_le_window {choices : Choices} {tree : FileTree} {settings : Settings}
    (hsettings : choices.settings tree = .ok settings) : 1 ≤ settings.window := by
  have hload : ∀ path, (do choices.onto (← Settings.load tree path)) = .ok settings →
      1 ≤ settings.window := by
    intro path hrest
    obtain ⟨given, hgiven, hrest⟩ := bind_eq_ok_iff.mp hrest
    exact one_le_window_of_onto (Settings.one_le_window_of_load hgiven) hrest
  simp only [Choices.settings, pure_bind] at hsettings
  split at hsettings
  · exact hload _ hsettings
  · obtain ⟨path?, -, hrest⟩ := bind_eq_ok_iff.mp hsettings
    cases path? with
    | none => exact one_le_window_of_onto Settings.one_le_defaultWindow hrest
    | some path => exact hload path hrest

end Choices

/-! ### The engine -/

variable [Installation]

theorem window_of_assemble {tree : FileTree} {settings : Settings} {before after : Reader}
    {engine : Engine} (hassemble : Returns (Engine.assemble tree settings) before engine after) :
    engine.window = settings.window := by
  simp only [Engine.assemble] at hassemble
  -- What follows the default rules is the same whether they are read or not.
  split at hassemble <;> simp only [returns_bind_iff, returns_pure_iff] at hassemble
  · obtain ⟨_, _, _, _, _, _, _, _, _, _, _, _, _, _, _, _, _, _, rfl, _⟩ := hassemble
    rfl
  · obtain ⟨_, _, _, _, _, _, _, _, _, _, _, _, _, _, _, rfl, _⟩ := hassemble
    rfl

/-- A command has an engine if its settings load and the rules that they name do. -/
theorem returns_engine_iff {tree : FileTree} {catalogue : Catalogue} {choices : Choices}
    {before after : List Event} {engine : Engine} :
    Returns (Command.engine tree catalogue choices) before engine after ↔
      ∃ settings, choices.settings tree = .ok settings ∧
        (Engine.build tree catalogue settings).1 = .ok engine ∧
        after = before ++ (Engine.build tree catalogue settings).2 := by
  unfold Command.engine
  rw [returns_lift_bind_iff]
  refine exists_congr fun settings ↦ and_congr_right fun _ ↦ ?_
  rcases Engine.build tree catalogue settings with ⟨result, events⟩
  exact returns_modify_bind_iff.trans returns_lift_iff

/-- The engine of a command lets at least one line be read. -/
theorem one_le_window_of_engine {tree : FileTree} {catalogue : Catalogue} {choices : Choices}
    {before after : List Event} {engine : Engine}
    (hengine : Returns (Command.engine tree catalogue choices) before engine after) :
    1 ≤ engine.window := by
  obtain ⟨settings, hsettings, hbuild, -⟩ := returns_engine_iff.mp hengine
  have hassemble : Returns (Engine.assemble tree settings) { catalogue } engine
      ((Engine.assemble tree settings).run.run { catalogue }).2 :=
    Prod.ext hbuild rfl
  rw [window_of_assemble hassemble]
  exact Choices.one_le_window hsettings

end Command

end LicenseHeaders
