import DemandPaging.Action

/-!
# How actions end

`Action.Ends` states what holds when an action is done and what holds when it has failed. It also
says that the action panics at most because room has to be made and cannot be made: every other
panic is a contradiction in the kernel's own tables, and an action that ends in one has no `Ends`.
Each combinator has one rule, which turns a statement about a sequence into one about its parts.
-/

namespace DemandPaging

/-- The error that an action failed with. -/
def Outcome.error? {State Value : Type} : Outcome State Value → Option VmError
  | .failed error _ => some error
  | .done _ _ | .panicked _ _ => none

/-- An outcome that shows an error is a failure in some state. -/
theorem Outcome.exists_of_error? {State Value : Type} {outcome : Outcome State Value}
    {error : VmError} (fails : outcome.error? = some error) :
    ∃ last, outcome = .failed error last := by
  cases outcome with
  | done value last => cases fails
  | failed actual last =>
    obtain rfl := Option.some.inj fails
    exact ⟨last, rfl⟩
  | panicked panic last => cases fails

/-- The value that an action returned when it was done. -/
def Outcome.value? {State Value : Type} : Outcome State Value → Option Value
  | .done value _ => some value
  | .failed _ _ | .panicked _ _ => none

/-- An outcome that shows a value is a return in some state. -/
theorem Outcome.exists_of_value? {State Value : Type} {outcome : Outcome State Value} {value : Value}
    (returns : outcome.value? = some value) : ∃ last, outcome = .done value last := by
  cases outcome with
  | done actual last =>
    obtain rfl := Option.some.inj returns
    exact ⟨last, rfl⟩
  | failed error last | panicked panic last => cases returns

/-- The state that an action left when it was done. -/
def Outcome.done? {State Value : Type} : Outcome State Value → Option State
  | .done _ last => some last
  | .failed _ _ | .panicked _ _ => none

/-- An outcome that shows a last state is a return of some value. -/
theorem Outcome.exists_of_done? {State Value : Type} {outcome : Outcome State Value} {last : State}
    (done : outcome.done? = some last) : ∃ value, outcome = .done value last := by
  cases outcome with
  | done value actual =>
    obtain rfl := Option.some.inj done
    exact ⟨value, rfl⟩
  | failed error last | panicked panic last => cases done

/-- The panics that are no contradiction: room has to be made, and cannot be made. -/
inductive Panic.IsExhaustion : Panic → Prop where
  | outOfFrames : IsExhaustion .outOfFrames
  | swapFull : IsExhaustion .swapFull
  | swapWriteFailed (slot : SwapSlot) (code : ErrorCode) : IsExhaustion (.swapWriteFailed slot code)
  | writeBackFailed (page : PageNumber) (error : VmError) :
    IsExhaustion (.writeBackFailed page error)

namespace Action

variable {State Value Next Whole Element : Type}

/-- What holds once an action is done, and what once it has failed; if it panics, then because room
cannot be made. -/
def Ends (action : Action State Value) (state : State) (whenDone : Value → State → Prop)
    (whenFailed : VmError → State → Prop) : Prop :=
  match action state with
  | .done value last => whenDone value last
  | .failed error last => whenFailed error last
  | .panicked panic _ => panic.IsExhaustion

variable {state : State} {whenDone : Value → State → Prop} {whenFailed : VmError → State → Prop}

/-- An action ends well exactly when each of its three possible outcomes is a good one. -/
theorem ends_iff {action : Action State Value} :
    action.Ends state whenDone whenFailed ↔
      (∀ value last, action state = .done value last → whenDone value last) ∧
      (∀ error last, action state = .failed error last → whenFailed error last) ∧
      ∀ panic last, action state = .panicked panic last → panic.IsExhaustion := by
  unfold Ends
  cases action state <;> simp

theorem Ends.of_done {action : Action State Value} {value : Value} {last : State}
    (ends : action.Ends state whenDone whenFailed) (done : action state = .done value last) :
    whenDone value last :=
  (ends_iff.mp ends).1 value last done

theorem Ends.of_failed {action : Action State Value} {error : VmError} {last : State}
    (ends : action.Ends state whenDone whenFailed) (failed : action state = .failed error last) :
    whenFailed error last :=
  (ends_iff.mp ends).2.1 error last failed

/-- The postconditions of an action may be weakened. -/
theorem Ends.mono {action : Action State Value} {whenDone' : Value → State → Prop}
    {whenFailed' : VmError → State → Prop} (ends : action.Ends state whenDone whenFailed)
    (done : ∀ value last, whenDone value last → whenDone' value last)
    (failed : ∀ error last, whenFailed error last → whenFailed' error last) :
    action.Ends state whenDone' whenFailed' := by
  unfold Ends at *
  cases outcome : action state with
  | done value last =>
    rw [outcome] at ends
    exact done value last ends
  | failed error last =>
    rw [outcome] at ends
    exact failed error last ends
  | panicked panic last =>
    rw [outcome] at ends
    exact ends

/-- What an action ends with is what it returns. -/
theorem Ends.outcome {action : Action State Value} (ends : action.Ends state whenDone whenFailed) :
    action.Ends state (fun value last => action state = .done value last ∧ whenDone value last)
      (fun error last => action state = .failed error last ∧ whenFailed error last) := by
  unfold Ends at *
  cases outcome : action state with
  | done value last =>
    rw [outcome] at ends
    exact ⟨rfl, ends⟩
  | failed error last =>
    rw [outcome] at ends
    exact ⟨rfl, ends⟩
  | panicked panic last =>
    rw [outcome] at ends
    exact ends

/-- Two statements about the same action hold together. -/
theorem Ends.and {action : Action State Value} {whenDone' : Value → State → Prop}
    {whenFailed' : VmError → State → Prop} (ends : action.Ends state whenDone whenFailed)
    (ends' : action.Ends state whenDone' whenFailed') :
    action.Ends state (fun value last => whenDone value last ∧ whenDone' value last)
      (fun error last => whenFailed error last ∧ whenFailed' error last) :=
  ends.outcome.mono (fun _ _ done => ⟨done.2, ends'.of_done done.1⟩)
    (fun _ _ failed => ⟨failed.2, ends'.of_failed failed.1⟩)

/-! ## One rule for each combinator -/

/-- The rule for sequences: the second computation starts where the first one has returned. -/
theorem ends_bind {first : Action State Value} {next : Value → Action State Next}
    {whenDone : Next → State → Prop} :
    (first >>= next).Ends state whenDone whenFailed ↔
      first.Ends state (fun value middle => (next value).Ends middle whenDone whenFailed)
        whenFailed := by
  unfold Ends
  rw [bind_apply]
  cases first state <;> rfl

/-- Changing the result of a computation changes the first postcondition only. -/
theorem ends_map {first : Action State Value} {change : Value → Next}
    {whenDone : Next → State → Prop} :
    (change <$> first).Ends state whenDone whenFailed ↔
      first.Ends state (fun value last => whenDone (change value) last) whenFailed := by
  rw [map_eq_pure_bind, ends_bind]
  rfl

theorem ends_pure {result : Value} :
    (pure result : Action State Value).Ends state whenDone whenFailed ↔ whenDone result state :=
  Iff.rfl

theorem ends_value {result : Value} :
    (value result : Action State Value).Ends state whenDone whenFailed ↔ whenDone result state :=
  Iff.rfl

theorem ends_current {whenDone : State → State → Prop} :
    (current : Action State State).Ends state whenDone whenFailed ↔ whenDone state state :=
  Iff.rfl

theorem ends_change {update : State → State} {whenDone : Unit → State → Prop} :
    (change update).Ends state whenDone whenFailed ↔ whenDone () (update state) :=
  Iff.rfl

theorem ends_view {look : State → Value} :
    (view look).Ends state whenDone whenFailed ↔ whenDone (look state) state :=
  Iff.rfl

theorem ends_fail {error : VmError} :
    (fail error : Action State Value).Ends state whenDone whenFailed ↔ whenFailed error state :=
  Iff.rfl

/-- A check ends in both ways, according to its condition. -/
theorem ends_require {condition : Bool} {error : VmError} {whenDone : Unit → State → Prop} :
    (require condition error).Ends state whenDone whenFailed ↔
      (condition = true → whenDone () state) ∧ (condition = false → whenFailed error state) := by
  cases condition <;> simp [require, ends_value, ends_fail]

/-- An assertion that is known to hold is passed without a trace. -/
theorem ends_assert {condition : Bool} {panic : Panic} {whenDone : Unit → State → Prop}
    (holds : condition = true) :
    (assert condition panic).Ends state whenDone whenFailed ↔ whenDone () state := by
  simp [assert, holds, ends_value]

/-- An option becomes a return or a failure. -/
theorem ends_orFail {option : Option Value} {error : VmError} :
    (orFail option error).Ends state whenDone whenFailed ↔
      (∀ result, option = some result → whenDone result state) ∧
        (option = none → whenFailed error state) := by
  cases option <;> simp [orFail, ends_value, ends_fail]

/-- A result becomes a return or a failure. -/
theorem ends_ofExcept {result : Except VmError Value} :
    (ofExcept result).Ends state whenDone whenFailed ↔
      (∀ value, result = .ok value → whenDone value state) ∧
        (∀ error, result = .error error → whenFailed error state) := by
  cases result <;> simp [ofExcept, ends_value, ends_fail]

theorem ends_exactly {result : Value} :
    (exactly (.ok result) : Action State Value).Ends state whenDone whenFailed ↔
      whenDone result state :=
  Iff.rfl

/-- An attempt turns failure into a value. -/
theorem ends_attempt {action : Action State Value}
    {whenDone : Except VmError Value → State → Prop} :
    action.attempt.Ends state whenDone whenFailed ↔
      action.Ends state (fun value last => whenDone (.ok value) last)
        (fun error last => whenDone (.error error) last) := by
  unfold Ends attempt
  cases action state <;> rfl

/-- A clean-up does not change how an action ends; only the state behind a panic is another one. -/
theorem ends_unwinding {action : Action State Value} {cleanup : Action State Unit} :
    (action.unwinding cleanup).Ends state whenDone whenFailed ↔
      action.Ends state whenDone whenFailed := by
  unfold Ends unwinding
  cases action state <;> rfl

/-- An action on a part of the state ends as it does there, with the part put back. -/
theorem ends_zoom {part : Whole → State} {restore : Whole → State → Whole} {whole : Whole}
    {action : Action State Value} {whenDone : Value → Whole → Prop}
    {whenFailed : VmError → Whole → Prop} :
    (action.zoom part restore).Ends whole whenDone whenFailed ↔
      action.Ends (part whole) (fun value last => whenDone value (restore whole last))
        (fun error last => whenFailed error (restore whole last)) := by
  unfold Ends zoom
  cases action (part whole) <;> rfl

theorem ends_forEach_nil {step : Element → Action State Unit} {whenDone : Unit → State → Prop} :
    (forEach step []).Ends state whenDone whenFailed ↔ whenDone () state :=
  Iff.rfl

/-- A loop goes on with the rest after each round that returned. -/
theorem ends_forEach_cons {step : Element → Action State Unit} {element : Element}
    {rest : List Element} {whenDone : Unit → State → Prop} :
    (forEach step (element :: rest)).Ends state whenDone whenFailed ↔
      (step element).Ends state
        (fun _ middle => (forEach step rest).Ends middle whenDone whenFailed) whenFailed :=
  ends_bind

/-! ## Actions that make no room -/

/-- An action that never has to make room: it stops the kernel at most over a contradiction. -/
def MakesNoRoom (action : Action State Value) : Prop :=
  ∀ state panic last, action state = .panicked panic last → ¬ panic.IsExhaustion

/-- An action that ends well, cannot fail and makes no room is done. -/
theorem Ends.completes {action : Action State Value}
    (ends : action.Ends state whenDone fun _ _ => False) (makesNoRoom : action.MakesNoRoom) :
    ∃ value last, action state = .done value last ∧ whenDone value last := by
  obtain ⟨done, failed, panicked⟩ := ends_iff.mp ends
  cases outcome : action state with
  | done value last => exact ⟨value, last, rfl, done value last outcome⟩
  | failed error last => exact (failed error last outcome).elim
  | panicked panic last =>
    exact absurd (panicked panic last outcome) (makesNoRoom state panic last outcome)

namespace MakesNoRoom

/-- A sequence asks for room only where one of its parts does. -/
theorem bind {first : Action State Value} {next : Value → Action State Next}
    (before : first.MakesNoRoom) (after : ∀ value, (next value).MakesNoRoom) :
    (first >>= next).MakesNoRoom := by
  intro state panic last stopped
  rcases bind_eq_panicked_iff.mp stopped with early | ⟨value, middle, _, late⟩
  · exact before state panic last early
  · exact after value middle panic last late

theorem pure (result : Value) : (Pure.pure result : Action State Value).MakesNoRoom := nofun

theorem current : (Action.current : Action State State).MakesNoRoom := nofun

theorem change (update : State → State) : (Action.change update).MakesNoRoom := nofun

theorem view (look : State → Value) : (Action.view look).MakesNoRoom := nofun

theorem fail (error : VmError) : (Action.fail error : Action State Value).MakesNoRoom := nofun

theorem orFail (option : Option Value) (error : VmError) :
    (Action.orFail option error : Action State Value).MakesNoRoom := by
  cases option <;> exact nofun

theorem ofExcept (result : Except VmError Value) :
    (Action.ofExcept result : Action State Value).MakesNoRoom := by
  cases result <;> exact nofun

/-- An assertion whose panic is no exhaustion cannot be taken for a shortage. -/
theorem assert {condition : Bool} {panic : Panic} (contradicts : ¬ panic.IsExhaustion) :
    (Action.assert condition panic : Action State Unit).MakesNoRoom := by
  intro state cause last stopped
  cases condition with
  | true => cases stopped
  | false =>
    cases stopped
    exact contradicts

theorem require (condition : Bool) (error : VmError) :
    (Action.require condition error : Action State Unit).MakesNoRoom := by
  cases condition <;> exact nofun

/-- An overflow is a contradiction. -/
theorem exactly (result : Except Overflow Value) :
    (Action.exactly result : Action State Value).MakesNoRoom := by
  intro state panic last stopped
  cases result with
  | ok value => cases stopped
  | error overflow =>
    cases stopped
    exact nofun

/-- Catching an error adds no panic. -/
theorem attempt {action : Action State Value} (makesNoRoom : action.MakesNoRoom) :
    action.attempt.MakesNoRoom := by
  intro state panic last stopped
  apply makesNoRoom state panic last
  unfold Action.attempt at stopped
  cases outcome : action state with
  | done value middle => simp [outcome] at stopped
  | failed error middle => simp [outcome] at stopped
  | panicked cause middle =>
    rw [outcome] at stopped
    cases stopped
    rfl

/-- The panics of an action on a part are the panics of the whole. -/
theorem zoom {part : Whole → State} {restore : Whole → State → Whole}
    {action : Action State Value} (makesNoRoom : action.MakesNoRoom) :
    (action.zoom part restore).MakesNoRoom := by
  intro whole panic last stopped
  unfold Action.zoom at stopped
  cases outcome : action (part whole) with
  | done value middle => simp [outcome, Outcome.mapState] at stopped
  | failed error middle => simp [outcome, Outcome.mapState] at stopped
  | panicked cause middle =>
    simp only [outcome, Outcome.mapState, Outcome.panicked.injEq] at stopped
    rw [← stopped.1]
    exact makesNoRoom _ _ _ outcome

/-- A loop asks for room only where one of its rounds does. -/
theorem forEach {step : Element → Action State Unit}
    (makesNoRoom : ∀ element, (step element).MakesNoRoom) (elements : List Element) :
    (Action.forEach step elements).MakesNoRoom := by
  induction elements with
  | nil => exact nofun
  | cons element rest inductionHypothesis =>
    exact (makesNoRoom element).bind fun _ => inductionHypothesis

end MakesNoRoom

end Action

end DemandPaging
