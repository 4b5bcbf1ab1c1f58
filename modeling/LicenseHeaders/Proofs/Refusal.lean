import LicenseHeaders.Proofs.Effects

/-!
# Which faults a result may be

A result is a value or a fault. `RaisesOnly` says that every fault that a result may be is one of
certain faults, and it is carried from the steps of a reader to the whole of it. The faults that are
meant to be raised are the configuration errors that name the source at fault (`Fault.Names`), and
`IsProper` says of a result that it is a value or such an error.
-/

set_option autoImplicit false
set_option relaxedAutoImplicit false

namespace LicenseHeaders

namespace Fault

/-- A fault is a configuration error that names a source. -/
def Names (fault : Fault) (source : String) : Prop :=
  ∃ cause node, fault = .of cause source node

theorem names_of (cause : Cause) (source node : String) : (of cause source node).Names source :=
  ⟨cause, node, rfl⟩

theorem not_names_value (refusal : ValueFault) (source : String) :
    ¬(value refusal).Names source :=
  nofun

theorem not_names_crash (cause : Crash) (source : String) : ¬(crash cause).Names source :=
  nofun

end Fault

/-! ### Results that are changed -/

section Map

variable {Value Result : Type} {step : Except Fault Value} {change : Value → Result}

theorem map_eq_error_iff {fault : Fault} :
    step.map change = .error fault ↔ step = .error fault := by
  cases step <;> simp [Except.map]

theorem map_eq_ok_iff {result : Result} :
    step.map change = .ok result ↔ ∃ value, step = .ok value ∧ change value = result := by
  cases step <;> simp [Except.map]

end Map

/-! ### Certain faults only -/

/-- If a result is a fault, it is one of certain faults. -/
def RaisesOnly {Value : Type} (allowed : Fault → Prop) (result : Except Fault Value) : Prop :=
  ∀ fault, result = .error fault → allowed fault

section RaisesOnly

variable {Value Result : Type} {allowed : Fault → Prop}

theorem raisesOnly_ok (value : Value) : RaisesOnly allowed (.ok value) :=
  nofun

theorem raisesOnly_error {fault : Fault} (hallowed : allowed fault) :
    @RaisesOnly Value allowed (.error fault) := by
  rintro _ ⟨⟩
  exact hallowed

theorem RaisesOnly.mono {wider : Fault → Prop} {result : Except Fault Value}
    (hraises : RaisesOnly allowed result) (hwider : ∀ fault, allowed fault → wider fault) :
    RaisesOnly wider result :=
  fun fault hfault ↦ hwider fault (hraises fault hfault)

/-- A step and what follows it raise certain faults only. What follows is asked about the values
that the step has, and no others. -/
theorem RaisesOnly.bind {step : Except Fault Value} {next : Value → Except Fault Result}
    (hstep : RaisesOnly allowed step)
    (hnext : ∀ value, step = .ok value → RaisesOnly allowed (next value)) :
    RaisesOnly allowed (step >>= next) := by
  cases step with
  | error cause =>
    rintro _ ⟨⟩
    exact hstep cause rfl
  | ok value => exact hnext value rfl

/-- A step raises certain faults only for a list if it does for each of its members. -/
theorem raisesOnly_mapM {Source : Type} {step : Source → Except Fault Value}
    {sources : List Source} (hstep : ∀ source ∈ sources, RaisesOnly allowed (step source)) :
    RaisesOnly allowed (sources.mapM step) := by
  intro fault hfault
  obtain ⟨source, hsource, hraises⟩ := exists_mem_of_mapM_error hfault
  exact hstep source hsource fault hraises

end RaisesOnly

/-! ### Results that are meant -/

/-- A result is a value or a configuration error that names a source. -/
def IsProper {Value : Type} (source : String) (result : Except Fault Value) : Prop :=
  (∃ value, result = .ok value) ∨ ∃ fault, result = .error fault ∧ fault.Names source

/-- If certain faults are raised where they apply and all others name the source, a result is as it
is meant to be exactly where none of these faults applies. -/
theorem isProper_iff {Value : Type} {source : String} {result : Except Fault Value}
    {applies : Fault → Prop} (hraised : ∀ fault, applies fault → result = .error fault)
    (hother : ∀ fault, applies fault → ¬fault.Names source)
    (honly : ∀ fault, result = .error fault → fault.Names source ∨ applies fault) :
    IsProper source result ↔ ∀ fault, ¬applies fault := by
  constructor
  · rintro (⟨value, hvalue⟩ | ⟨fault, hfault, hnames⟩) other happlies
    · cases hvalue.symm.trans (hraised other happlies)
    · cases hfault.symm.trans (hraised other happlies)
      exact hother fault happlies hnames
  · intro hnone
    cases result with
    | ok value => exact .inl ⟨value, rfl⟩
    | error fault => exact .inr ⟨fault, rfl, (honly fault rfl).resolve_right (hnone fault)⟩

end LicenseHeaders
