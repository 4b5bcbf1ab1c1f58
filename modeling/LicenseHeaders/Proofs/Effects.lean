import LicenseHeaders.Fault
import LicenseHeaders.Proofs.Tables

/-!
# Steps that return and steps that raise

Reading rules and building matchers are steps that change a state and may raise a fault. `Returns`
says that a step, run in a state, returns a value and leaves a state; `Raises` says that it raises a
fault and leaves one. Every step does one of the two (`returns_or_raises`). The lemmas here take a
step apart: it returns if its parts return one after the other, and it raises if one of its parts
raises after those before it have returned. What steps do to the state either way is said with
`Simulates`, which relates two steps on two kinds of states, and with `Keeps`, for a property of the
state that a step keeps whatever its outcome.
-/

set_option autoImplicit false
set_option relaxedAutoImplicit false

namespace LicenseHeaders

/-- A step returns a value and leaves a state when it is run in a state. -/
def Returns {State Value : Type} (step : ExceptT Fault (StateM State) Value) (before : State)
    (value : Value) (after : State) : Prop :=
  step.run.run before = (.ok value, after)

section Returns

variable {State Value Result : Type} {before after : State}

/-- A step that is followed by another is run first, and a fault of it is final. -/
theorem run_bind (step : ExceptT Fault (StateM State) Value)
    (next : Value → ExceptT Fault (StateM State) Result) (before : State) :
    (step >>= next).run.run before =
      match step.run.run before with
      | (.ok value, middle) => (next value).run.run middle
      | (.error fault, middle) => (.error fault, middle) := by
  rw [ExceptT.run_bind, StateT.run_bind]
  rcases step.run.run before with ⟨fault | value, middle⟩
  · rfl
  · rfl

/-- A step that starts by asking for the state is told the state that it is run in. -/
theorem run_get_bind (next : State → ExceptT Fault (StateM State) Result) (before : State) :
    (get >>= next).run.run before = (next before).run.run before :=
  rfl

/-- A result that does not depend on the state leaves the state as it is. -/
theorem run_lift (result : Except Fault Value) (before : State) :
    (liftM result : ExceptT Fault (StateM State) Value).run.run before = (result, before) := by
  cases result with
  | ok value => rfl
  | error fault => rfl

theorem returns_bind_iff {step : ExceptT Fault (StateM State) Value}
    {next : Value → ExceptT Fault (StateM State) Result} {result : Result} :
    Returns (step >>= next) before result after ↔
      ∃ value middle,
        Returns step before value middle ∧ Returns (next value) middle result after := by
  unfold Returns
  rw [run_bind]
  constructor
  · intro hreturn
    rcases hstep : step.run.run before with ⟨fault | value, middle⟩
    · rw [hstep] at hreturn
      cases hreturn
    · rw [hstep] at hreturn
      exact ⟨value, middle, rfl, hreturn⟩
  · rintro ⟨value, middle, hstep, hnext⟩
    rw [hstep]
    exact hnext

/-- A step that follows one that returns is run in the state that this leaves. -/
theorem run_bind_of_returns {step : ExceptT Fault (StateM State) Value}
    {next : Value → ExceptT Fault (StateM State) Result} {value : Value}
    (hreturns : Returns step before value after) :
    (step >>= next).run.run before = (next value).run.run after := by
  unfold Returns at hreturns
  rw [run_bind, hreturns]

/-- What is made of a value in the end changes nothing else. -/
theorem Returns.map {step : ExceptT Fault (StateM State) Value} {value : Value}
    (hreturns : Returns step before value after) (change : Value → Result) :
    Returns (change <$> step) before (change value) after := by
  unfold Returns at hreturns ⊢
  rw [ExceptT.run_map, StateT.run_map, hreturns]
  rfl

/-- Where a step returns there is nothing to handle. -/
theorem Returns.tryCatch {step : ExceptT Fault (StateM State) Value} {value : Value}
    (hreturns : Returns step before value after)
    (handler : Fault → ExceptT Fault (StateM State) Value) :
    Returns (tryCatch step handler) before value after := by
  unfold Returns at hreturns ⊢
  rw [ExceptT.run_tryCatch, StateT.run_bind, hreturns]
  rfl

theorem returns_pure_iff {value result : Value} :
    Returns (pure value : ExceptT Fault (StateM State) Value) before result after ↔
      result = value ∧ after = before := by
  constructor
  · intro h
    cases h
    exact ⟨rfl, rfl⟩
  · rintro ⟨rfl, rfl⟩
    rfl

theorem not_returns_throw {fault : Fault} {result : Value} :
    ¬Returns (throw fault : ExceptT Fault (StateM State) Value) before result after :=
  nofun

theorem returns_get_bind_iff {next : State → ExceptT Fault (StateM State) Result}
    {result : Result} :
    Returns (get >>= next) before result after ↔ Returns (next before) before result after :=
  Iff.rfl

theorem returns_modify_iff {change : State → State} {result : PUnit} :
    Returns (modify change : ExceptT Fault (StateM State) PUnit) before result after ↔
      after = change before := by
  constructor
  · intro h
    cases h
    rfl
  · rintro rfl
    rfl

/-- A step that follows a change of the state is run in the changed state. -/
theorem returns_modify_bind_iff {change : State → State}
    {next : PUnit → ExceptT Fault (StateM State) Result} {result : Result} :
    Returns (modify change >>= next) before result after ↔
      Returns (next ⟨⟩) (change before) result after :=
  Iff.rfl

/-- A result that does not depend on the state is returned if it is none of a fault. -/
theorem returns_lift_iff {result : Except Fault Value} {value : Value} :
    Returns (liftM result : ExceptT Fault (StateM State) Value) before value after ↔
      result = .ok value ∧ after = before := by
  rw [Returns, run_lift, Prod.mk.injEq, @eq_comm _ before]

/-- What is said of the state behind such a result is said of the state before it. -/
theorem exists_returns_lift_iff {first : Except Fault Value} {next : Value → State → Prop} :
    (∃ value middle,
      Returns (liftM first : ExceptT Fault (StateM State) Value) before value middle ∧
        next value middle) ↔
      ∃ value, first = .ok value ∧ next value before := by
  constructor
  · rintro ⟨value, middle, hlift, hnext⟩
    obtain ⟨hfirst, rfl⟩ := returns_lift_iff.mp hlift
    exact ⟨value, hfirst, hnext⟩
  · rintro ⟨value, hfirst, hnext⟩
    exact ⟨value, before, returns_lift_iff.mpr ⟨hfirst, rfl⟩, hnext⟩

theorem returns_lift_bind_iff {first : Except Fault Value}
    {next : Value → ExceptT Fault (StateM State) Result} {result : Result} :
    Returns (liftM first >>= next) before result after ↔
      ∃ value, first = .ok value ∧ Returns (next value) before result after :=
  returns_bind_iff.trans exists_returns_lift_iff

/-- A handler that raises faults anew changes the fault and nothing else. -/
theorem run_rethrow (step : ExceptT Fault (StateM State) Value) (change : Fault → Fault)
    (before : State) :
    (tryCatch step fun fault ↦ throw (change fault)).run.run before =
      ((step.run.run before).1.mapError change, (step.run.run before).2) := by
  rw [ExceptT.run_tryCatch, StateT.run_bind]
  rcases step.run.run before with ⟨fault | value, middle⟩
  · rfl
  · rfl

/-- A handler that raises faults anew changes nothing about what is returned. -/
theorem returns_rethrow_iff {step : ExceptT Fault (StateM State) Value} {change : Fault → Fault}
    {value : Value} :
    Returns (tryCatch step fun fault ↦ throw (change fault)) before value after ↔
      Returns step before value after := by
  unfold Returns
  rw [run_rethrow]
  rcases step.run.run before with ⟨fault | value, middle⟩
  · exact ⟨nofun, nofun⟩
  · rfl

/-- What is done finally is done where a step returns and where it raises a fault. -/
theorem run_tryFinally_modify (step : ExceptT Fault (StateM State) Value) (change : State → State)
    (before : State) :
    (tryFinally step (modify change)).run.run before =
      ((step.run.run before).1, change (step.run.run before).2) := by
  -- What is done finally depends on the outcome of the step and on nothing else of it.
  let outcome : ExceptT Fault (StateM State) Value := fun _ ↦ step.run.run before
  have houtcome : (tryFinally step (modify change)).run.run before =
      (tryFinally outcome (modify change)).run.run before := rfl
  rw [houtcome]
  dsimp only [outcome]
  rcases step.run.run before with ⟨fault | value, middle⟩
  · rfl
  · rfl

end Returns

/-- A step raises a fault and leaves a state when it is run in a state. -/
def Raises {State Value : Type} (step : ExceptT Fault (StateM State) Value) (before : State)
    (fault : Fault) (after : State) : Prop :=
  step.run.run before = (.error fault, after)

section Raises

variable {State Value Result : Type} {before after : State} {fault : Fault}

/-- A step returns or raises a fault. -/
theorem returns_or_raises (step : ExceptT Fault (StateM State) Value) (before : State) :
    (∃ value after, Returns step before value after) ∨
      ∃ fault after, Raises step before fault after := by
  rcases hstep : step.run.run before with ⟨fault | value, after⟩
  · exact .inr ⟨fault, after, hstep⟩
  · exact .inl ⟨value, after, hstep⟩

theorem raises_bind_iff {step : ExceptT Fault (StateM State) Value}
    {next : Value → ExceptT Fault (StateM State) Result} :
    Raises (step >>= next) before fault after ↔
      Raises step before fault after ∨
        ∃ value middle, Returns step before value middle ∧
          Raises (next value) middle fault after := by
  unfold Raises Returns
  rw [run_bind]
  rcases step.run.run before with ⟨cause | value, middle⟩
  · constructor
    · intro hraises
      cases hraises
      exact .inl rfl
    · rintro (hraises | ⟨_, _, ⟨⟩, _⟩)
      cases hraises
      rfl
  · constructor
    · intro hraises
      exact .inr ⟨value, middle, rfl, hraises⟩
    · rintro (⟨⟨⟩⟩ | ⟨_, _, ⟨⟩, hraises⟩)
      exact hraises

/-- A handler that raises faults anew raises what it has made of a fault. -/
theorem raises_rethrow_iff {step : ExceptT Fault (StateM State) Value} {change : Fault → Fault} :
    Raises (tryCatch step fun fault ↦ throw (change fault)) before fault after ↔
      ∃ cause, Raises step before cause after ∧ fault = change cause := by
  unfold Raises
  rw [run_rethrow]
  rcases step.run.run before with ⟨cause | value, middle⟩
  · constructor
    · intro hraises
      cases hraises
      exact ⟨cause, rfl, rfl⟩
    · rintro ⟨_, hraises, rfl⟩
      cases hraises
      rfl
  · constructor
    · exact nofun
    · rintro ⟨_, ⟨⟩, _⟩

theorem not_raises_pure {value : Value} :
    ¬Raises (pure value : ExceptT Fault (StateM State) Value) before fault after :=
  nofun

theorem raises_throw_iff {cause : Fault} :
    Raises (throw cause : ExceptT Fault (StateM State) Value) before fault after ↔
      fault = cause ∧ after = before := by
  constructor
  · intro hraises
    cases hraises
    exact ⟨rfl, rfl⟩
  · rintro ⟨rfl, rfl⟩
    rfl

theorem raises_lift_iff {result : Except Fault Value} :
    Raises (liftM result : ExceptT Fault (StateM State) Value) before fault after ↔
      result = .error fault ∧ after = before := by
  rw [Raises, run_lift, Prod.mk.injEq, @eq_comm _ before]

theorem raises_get_bind_iff {next : State → ExceptT Fault (StateM State) Result} :
    Raises (get >>= next) before fault after ↔ Raises (next before) before fault after :=
  Iff.rfl

theorem raises_lift_bind_iff {first : Except Fault Value}
    {next : Value → ExceptT Fault (StateM State) Result} :
    Raises (liftM first >>= next) before fault after ↔
      first = .error fault ∧ after = before ∨
        ∃ value, first = .ok value ∧ Raises (next value) before fault after :=
  raises_bind_iff.trans (or_congr raises_lift_iff exists_returns_lift_iff)

/-- A step that follows a change of the state is run in the changed state. -/
theorem raises_modify_bind_iff {change : State → State}
    {next : PUnit → ExceptT Fault (StateM State) Result} :
    Raises (modify change >>= next) before fault after ↔
      Raises (next ⟨⟩) (change before) fault after :=
  Iff.rfl

theorem not_raises_modify {change : State → State} :
    ¬Raises (modify change : ExceptT Fault (StateM State) PUnit) before fault after :=
  nofun

/-- What is made of a value in the end changes nothing about a fault. -/
theorem Raises.map {step : ExceptT Fault (StateM State) Value}
    (hraises : Raises step before fault after) (change : Value → Result) :
    Raises (change <$> step) before fault after := by
  unfold Raises at hraises ⊢
  rw [ExceptT.run_map, StateT.run_map, hraises]
  rfl

/-- Where a step raises a fault, the handler goes on from there. -/
theorem Raises.run_tryCatch {step : ExceptT Fault (StateM State) Value}
    (hraises : Raises step before fault after)
    (handler : Fault → ExceptT Fault (StateM State) Value) :
    (tryCatch step handler).run.run before = (handler fault).run.run after := by
  unfold Raises at hraises
  rw [ExceptT.run_tryCatch, StateT.run_bind, hraises]
  rfl

end Raises

/-! ### What steps do to the state, whatever their outcomes -/

/-- Two steps that are run in related states return the same value or raise the same fault, and they
leave related states. -/
def Simulates {First Second Value : Type} (related : First → Second → Prop)
    (first : ExceptT Fault (StateM First) Value) (second : ExceptT Fault (StateM Second) Value) :
    Prop :=
  ∀ before other, related before other →
    (first.run.run before).1 = (second.run.run other).1 ∧
      related (first.run.run before).2 (second.run.run other).2

section Simulates

variable {First Second Value Result : Type} {related : First → Second → Prop}

theorem simulates_pure (value : Value) :
    Simulates related (pure value) (pure value) :=
  fun _ _ hrelated ↦ ⟨rfl, hrelated⟩

theorem simulates_throw (fault : Fault) :
    @Simulates First Second Value related (throw fault) (throw fault) :=
  fun _ _ hrelated ↦ ⟨rfl, hrelated⟩

theorem simulates_get_bind {firstNext : First → ExceptT Fault (StateM First) Result}
    {secondNext : Second → ExceptT Fault (StateM Second) Result}
    (hnext : ∀ before other, related before other →
      Simulates related (firstNext before) (secondNext other)) :
    Simulates related (get >>= firstNext) (get >>= secondNext) :=
  fun before other hrelated ↦ hnext before other hrelated before other hrelated

theorem simulates_modify {firstChange : First → First} {secondChange : Second → Second}
    (hchange : ∀ before other, related before other →
      related (firstChange before) (secondChange other)) :
    Simulates related (modify firstChange : ExceptT Fault (StateM First) PUnit)
      (modify secondChange) :=
  fun before other hrelated ↦ ⟨rfl, hchange before other hrelated⟩

theorem simulates_bind {first : ExceptT Fault (StateM First) Value}
    {second : ExceptT Fault (StateM Second) Value}
    {firstNext : Value → ExceptT Fault (StateM First) Result}
    {secondNext : Value → ExceptT Fault (StateM Second) Result}
    (hstep : Simulates related first second)
    (hnext : ∀ value, Simulates related (firstNext value) (secondNext value)) :
    Simulates related (first >>= firstNext) (second >>= secondNext) := by
  intro before other hrelated
  obtain ⟨hresult, hmiddle⟩ := hstep before other hrelated
  rw [run_bind, run_bind]
  rcases hfirst : first.run.run before with ⟨result, middle⟩
  rcases hsecond : second.run.run other with ⟨same, otherMiddle⟩
  rw [hfirst, hsecond] at hresult hmiddle
  cases hresult
  cases result with
  | error fault => exact ⟨rfl, hmiddle⟩
  | ok value => exact hnext value middle otherMiddle hmiddle

end Simulates

/-- Whether a step returns or raises, a property of the state that holds before holds after it. -/
def Keeps {State Value : Type} (Good : State → Prop) (step : ExceptT Fault (StateM State) Value) :
    Prop :=
  ∀ before, Good before → Good (step.run.run before).2

section Keeps

variable {State Value : Type} {Good : State → Prop} {step : ExceptT Fault (StateM State) Value}

/-- A step keeps a property if it simulates itself in states that have it. -/
theorem keeps_iff_simulates :
    Keeps Good step ↔ Simulates (fun before other ↦ before = other ∧ Good before) step step := by
  constructor
  · rintro hkeeps before _ ⟨rfl, hbefore⟩
    exact ⟨rfl, rfl, hkeeps before hbefore⟩
  · intro hsimulates before hbefore
    exact (hsimulates before before ⟨rfl, hbefore⟩).2.2

theorem keeps_of_outcomes
    (hreturns : ∀ before value after, Good before → Returns step before value after → Good after)
    (hraises : ∀ before fault after, Good before → Raises step before fault after → Good after) :
    Keeps Good step := by
  intro before hbefore
  rcases hstep : step.run.run before with ⟨fault | value, after⟩
  · exact hraises before fault after hbefore hstep
  · exact hreturns before value after hbefore hstep

theorem Keeps.of_returns (hkeeps : Keeps Good step) {before after : State} {value : Value}
    (hbefore : Good before) (hreturns : Returns step before value after) : Good after := by
  have hafter := hkeeps before hbefore
  unfold Returns at hreturns
  rw [hreturns] at hafter
  exact hafter

theorem Keeps.of_raises (hkeeps : Keeps Good step) {before after : State} {fault : Fault}
    (hbefore : Good before) (hraises : Raises step before fault after) : Good after := by
  have hafter := hkeeps before hbefore
  unfold Raises at hraises
  rw [hraises] at hafter
  exact hafter

theorem keeps_pure (value : Value) :
    Keeps Good (pure value : ExceptT Fault (StateM State) Value) :=
  fun _ hbefore ↦ hbefore

theorem keeps_throw (fault : Fault) :
    Keeps Good (throw fault : ExceptT Fault (StateM State) Value) :=
  fun _ hbefore ↦ hbefore

theorem keeps_lift (result : Except Fault Value) :
    Keeps Good (liftM result : ExceptT Fault (StateM State) Value) := by
  intro before hbefore
  rw [run_lift]
  exact hbefore

theorem keeps_bind {Result : Type} {next : Value → ExceptT Fault (StateM State) Result}
    (hstep : Keeps Good step) (hnext : ∀ value, Keeps Good (next value)) :
    Keeps Good (step >>= next) := by
  simp only [keeps_iff_simulates] at hstep hnext ⊢
  exact simulates_bind hstep hnext

/-- A handler that raises faults anew keeps what the step does. -/
theorem keeps_rethrow (hstep : Keeps Good step) (change : Fault → Fault) :
    Keeps Good (tryCatch step fun fault ↦ throw (change fault)) := by
  intro before hbefore
  rw [run_rethrow]
  exact hstep before hbefore

end Keeps

/-! ### Results without a state -/

/-- An error is not a result. -/
theorem not_exists_error_eq_ok {Error Value : Type} (error : Error) :
    ¬∃ value : Value, Except.error error = .ok value := by
  rintro ⟨value, hvalue⟩
  cases hvalue

/-- What follows a result is told the result. -/
@[simp] theorem ok_bind {Cause Value Result : Type} (value : Value)
    (next : Value → Except Cause Result) : (Except.ok value >>= next) = next value :=
  rfl

/-- There is a result in the end if there is one first, and one of what follows it. -/
theorem bind_eq_ok_iff {Cause Value Result : Type} {step : Except Cause Value}
    {next : Value → Except Cause Result} {result : Result} :
    (step >>= next) = .ok result ↔ ∃ value, step = .ok value ∧ next value = .ok result := by
  cases step with
  | error cause => exact ⟨nofun, fun ⟨_, hvalue, _⟩ ↦ nomatch hvalue⟩
  | ok value =>
    rw [ok_bind]
    constructor
    · exact fun hnext ↦ ⟨value, rfl, hnext⟩
    · rintro ⟨_, ⟨⟩, hnext⟩
      exact hnext

/-- A step that may fail succeeds for a list if it succeeds for each of its members. -/
theorem mapM_eq_ok_iff {Source Target : Type} {step : Source → Except Fault Target}
    {sources : List Source} {targets : List Target} :
    sources.mapM step = .ok targets ↔
      List.Forall₂ (fun source target ↦ step source = .ok target) sources targets := by
  induction sources generalizing targets with
  | nil =>
    rw [List.mapM_nil, List.forall₂_nil_left_iff]
    exact Except.ok.injEq [] targets ▸ eq_comm
  | cons source rest ih =>
    rw [List.mapM_cons, List.forall₂_cons_left_iff]
    rcases hstep : step source with fault | target
    · exact ⟨nofun, nofun⟩
    · rcases hrest : rest.mapM step with fault | others
      · refine ⟨nofun, ?_⟩
        rintro ⟨_, others, _, hothers, _⟩
        cases hrest.symm.trans (ih.mpr hothers)
      · constructor
        · intro htargets
          cases htargets
          exact ⟨target, others, rfl, ih.mp hrest, rfl⟩
        · rintro ⟨_, others', htarget, hothers, rfl⟩
          cases htarget
          cases hrest.symm.trans (ih.mpr hothers)
          rfl

/-- A step that may fail succeeds for every member of a list if it succeeds for each of them. -/
theorem exists_mapM_eq_ok_iff {Source Target : Type} {step : Source → Except Fault Target}
    {sources : List Source} :
    (∃ targets, sources.mapM step = .ok targets) ↔
      ∀ source ∈ sources, ∃ target, step source = .ok target := by
  simp only [mapM_eq_ok_iff]
  constructor
  · rintro ⟨targets, hrelated⟩ source hsource
    obtain ⟨target, _, hstep⟩ := exists_of_mem_of_forall₂ hrelated hsource
    exact ⟨target, hstep⟩
  · exact exists_forall₂

/-- Where what each member of a list corresponds to is read of a member of another one, a list that
corresponds to the first is read of the other. -/
theorem exists_mapM_of_forall₂ {Given Source Target : Type} {step : Source → Except Fault Target}
    {relation : Given → Target → Prop} {givens : List Given} {sources : List Source}
    (hread : List.Forall₂ (fun given source ↦
      ∃ target, step source = .ok target ∧ relation given target) givens sources) :
    ∃ targets, sources.mapM step = .ok targets ∧ List.Forall₂ relation givens targets := by
  induction hread with
  | nil => exact ⟨[], rfl, .nil⟩
  | cons hhead _ ih =>
    obtain ⟨target, hstep, hrelated⟩ := hhead
    obtain ⟨targets, hrest, hothers⟩ := ih
    refine ⟨target :: targets, ?_, .cons hrelated hothers⟩
    rw [List.mapM_cons, hstep, hrest]
    rfl

/-- A step that fails for a list fails for one of its members. -/
theorem exists_mem_of_mapM_error {Source Target : Type} {step : Source → Except Fault Target}
    {sources : List Source} {fault : Fault} (hfails : sources.mapM step = .error fault) :
    ∃ source ∈ sources, step source = .error fault := by
  induction sources with
  | nil => cases hfails
  | cons source rest ih =>
    rw [List.mapM_cons] at hfails
    rcases hstep : step source with cause | target
    · rw [hstep] at hfails
      cases hfails
      exact ⟨source, List.mem_cons_self, hstep⟩
    · rcases hrest : rest.mapM step with cause | targets
      · rw [hstep, hrest] at hfails
        cases hfails
        obtain ⟨other, hother, hfault⟩ := ih hrest
        exact ⟨other, List.mem_cons_of_mem source hother, hfault⟩
      · rw [hstep, hrest] at hfails
        cases hfails

end LicenseHeaders
