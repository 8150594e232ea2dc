import DemandPaging.Proofs.WriteBack.Attempts

/-!
# How actions stop the kernel

`Action.Stops` says with which panic an action stops the kernel. `Action.Ends` says of these panics only
that room cannot be made; here there is one rule for each combinator that tells which part of an action
is to blame.
-/

namespace DemandPaging

/-- The panic with which an action stopped the kernel. -/
def Outcome.panic? {State Value : Type} : Outcome State Value → Option Panic
  | .panicked panic _ => some panic
  | .done _ _ | .failed _ _ => none

namespace Action

variable {State Value Next Element : Type}

/-- An action stops the kernel with a panic. -/
def Stops (action : Action State Value) (state : State) (panic : Panic) : Prop :=
  ∃ last, action state = .panicked panic last

variable {state : State} {panic : Panic}

/-- An outcome that shows a panic stops the kernel. -/
theorem stops_of_panic? {action : Action State Value} (stops : (action state).panic? = some panic) :
    action.Stops state panic := by
  unfold Stops
  cases outcome : action state with
  | done | failed =>
    rw [outcome] at stops
    cases stops
  | panicked cause last =>
    rw [outcome] at stops
    cases stops
    exact ⟨last, rfl⟩

/-- A sequence stops the kernel in its first part, or in its second after the first has returned. -/
theorem stops_bind {first : Action State Value} {next : Value → Action State Next} :
    (first >>= next).Stops state panic ↔ first.Stops state panic ∨
      ∃ value middle, first state = .done value middle ∧ (next value).Stops middle panic := by
  constructor
  · rintro ⟨last, stopped⟩
    rcases bind_eq_panicked_iff.mp stopped with early | ⟨value, middle, done, late⟩
    · exact .inl ⟨last, early⟩
    · exact .inr ⟨value, middle, done, last, late⟩
  · rintro (⟨last, early⟩ | ⟨value, middle, done, last, late⟩)
    · exact ⟨last, bind_eq_panicked_iff.mpr (.inl early)⟩
    · exact ⟨last, bind_eq_panicked_iff.mpr (.inr ⟨value, middle, done, late⟩)⟩

/-- Only the first part of an action can be to blame if the others make no room. -/
theorem stops_bind_iff_of_makesNoRoom {first : Action State Value} {next : Value → Action State Next}
    (exhaustion : panic.IsExhaustion) (makesNoRoom : ∀ value, (next value).MakesNoRoom) :
    (first >>= next).Stops state panic ↔ first.Stops state panic := by
  rw [stops_bind]
  refine ⟨fun stops => stops.elim id ?_, .inl⟩
  rintro ⟨value, middle, -, last, late⟩
  exact absurd exhaustion (makesNoRoom value middle panic last late)

/-- An action that needs no room does not stop for want of it. -/
theorem MakesNoRoom.not_stops {action : Action State Value} (makesNoRoom : action.MakesNoRoom)
    (exhaustion : panic.IsExhaustion) : ¬ action.Stops state panic :=
  fun ⟨last, stopped⟩ => makesNoRoom state panic last stopped exhaustion

/-- Where returns and failures are accounted for, only exhaustion stops the kernel. -/
theorem Ends.isExhaustion_of_stops {action : Action State Value} {whenDone : Value → State → Prop}
    {whenFailed : VmError → State → Prop} (ends : action.Ends state whenDone whenFailed)
    (stops : action.Stops state panic) : panic.IsExhaustion := by
  obtain ⟨last, stopped⟩ := stops
  exact (ends_iff.mp ends).2.2 panic last stopped

/-- Catching an error does not keep a panic from stopping the kernel. -/
theorem stops_attempt {action : Action State Value} :
    action.attempt.Stops state panic ↔ action.Stops state panic :=
  exists_congr fun _ => attempt_eq_panicked_iff

/-- A clean-up does not change with which panic an action stops. -/
theorem stops_unwinding {action : Action State Value} {cleanup : Action State Unit} :
    (action.unwinding cleanup).Stops state panic ↔ action.Stops state panic := by
  unfold Stops unwinding
  cases action state <;> simp

/-- What follows a check is reached only if the check passes. -/
theorem stops_require_bind {condition : Bool} {error : VmError} {next : Unit → Action State Next} :
    (require condition error >>= next).Stops state panic ↔
      condition = true ∧ (next ()).Stops state panic := by
  cases condition with
  | true => exact ⟨fun stops => ⟨rfl, stops⟩, fun stops => stops.2⟩
  | false =>
    constructor
    · rintro ⟨_, stopped⟩
      cases stopped
    · rintro ⟨same, _⟩
      cases same

/-- What follows a choice is reached only if there is a value. -/
theorem stops_orFail_bind {option : Option Value} {error : VmError} {next : Value → Action State Next} :
    (orFail option error >>= next).Stops state panic ↔
      ∃ value, option = some value ∧ (next value).Stops state panic := by
  cases option with
  | none =>
    constructor
    · rintro ⟨_, stopped⟩
      cases stopped
    · rintro ⟨_, same, _⟩
      cases same
  | some value =>
    constructor
    · exact fun stops => ⟨value, rfl, stops⟩
    · rintro ⟨_, same, stops⟩
      cases same
      exact stops

/-- Work on a list stops the kernel at one of its elements, when those before are worked through. -/
theorem stops_forEach {step : Element → Action State Unit} {elements : List Element} :
    (forEach step elements).Stops state panic ↔
      ∃ earlier element rest middle, elements = earlier ++ element :: rest ∧
        forEach step earlier state = .done () middle ∧ (step element).Stops middle panic := by
  induction elements generalizing state with
  | nil =>
    constructor
    · rintro ⟨_, stopped⟩
      cases stopped
    · rintro ⟨earlier, element, rest, middle, parts, -⟩
      exact absurd parts.symm (by simp)
  | cons first others inductionHypothesis =>
    refine stops_bind.trans ⟨?_, ?_⟩
    · rintro (here | ⟨_, between, done, late⟩)
      · exact ⟨[], first, others, state, rfl, rfl, here⟩
      · obtain ⟨earlier, element, rest, middle, rfl, worked, stops⟩ := inductionHypothesis.mp late
        exact ⟨first :: earlier, element, rest, middle, rfl,
          bind_eq_done_iff.mpr ⟨_, between, done, worked⟩, stops⟩
    · rintro ⟨earlier, element, rest, middle, parts, worked, stops⟩
      cases earlier with
      | nil =>
        cases worked
        cases parts
        exact .inl stops
      | cons before earlier =>
        cases parts
        obtain ⟨_, between, done, worked⟩ := bind_eq_done_iff.mp worked
        exact .inr ⟨_, between, done,
          inductionHypothesis.mpr ⟨earlier, element, rest, middle, rfl, worked, stops⟩⟩

end Action

end DemandPaging
