import DemandPaging.Failure

/-!
# Actions on a state

An `Action` reads and changes a state and ends in one of three ways, its `Outcome`: it is done
with a value, it failed with an error that the caller may handle, or the kernel panicked. All
three keep the state as it was left, so what an operation did before it failed stays visible.
-/

namespace DemandPaging

/-- How an action ended, and the state it left. -/
inductive Outcome (State Value : Type) where
  | done (value : Value) (state : State)
  | failed (error : VmError) (state : State)
  | panicked (panic : Panic) (state : State)

namespace Outcome

/-- The state an action left, however it ended. -/
def state {State Value : Type} : Outcome State Value → State
  | .done _ state => state
  | .failed _ state => state
  | .panicked _ state => state

/-- Applies a function to the state that an action left. -/
def mapState {State Larger Value : Type} (embed : State → Larger) :
    Outcome State Value → Outcome Larger Value
  | .done value state => .done value (embed state)
  | .failed error state => .failed error (embed state)
  | .panicked panic state => .panicked panic (embed state)

end Outcome

/-- A computation on a state. -/
def Action (State Value : Type) : Type := State → Outcome State Value

namespace Action

variable {State Value Next : Type}

/-- Does nothing and returns a value. -/
def value (result : Value) : Action State Value := fun state => .done result state

/-- Runs one action and, if it is done, the next on its value. -/
def andThen (first : Action State Value) (next : Value → Action State Next) :
    Action State Next := fun state =>
  match first state with
  | .done value state => next value state
  | .failed error state => .failed error state
  | .panicked panic state => .panicked panic state

instance : Monad (Action State) where
  pure := value
  bind := andThen

/-- The current state. -/
def current : Action State State := fun state => .done state state

/-- Replaces the state by what a function makes of it. -/
def change (update : State → State) : Action State Unit := fun state => .done () (update state)

/-- A view of the current state. -/
def view (look : State → Value) : Action State Value := fun state => .done (look state) state

/-- Fails with an error. -/
def fail (error : VmError) : Action State Value := fun state => .failed error state

/-- Stops the kernel. -/
def halt (panic : Panic) : Action State Value := fun state => .panicked panic state

/-- Fails unless a condition holds. -/
def require (condition : Bool) (error : VmError) : Action State Unit :=
  if condition then value () else fail error

/-- Stops the kernel unless a condition holds. -/
def assert (condition : Bool) (panic : Panic) : Action State Unit :=
  if condition then value () else halt panic

/-- The value of an option, or the error where there is none. -/
def orFail (option : Option Value) (error : VmError) : Action State Value :=
  match option with
  | some result => value result
  | none => fail error

/-- Ends as a finished computation did. -/
def ofExcept : Except VmError Value → Action State Value
  | .ok result => value result
  | .error error => fail error

/-- The value of exact arithmetic; an overflow stops the kernel. -/
def exactly : Except Overflow Value → Action State Value
  | .ok result => value result
  | .error overflow => halt (.overflow overflow)

/-- Runs an action and returns its error as a value. -/
def attempt (action : Action State Value) : Action State (Except VmError Value) := fun state =>
  match action state with
  | .done value state => .done (.ok value) state
  | .failed error state => .done (.error error) state
  | .panicked panic state => .panicked panic state

/-- Runs `cleanup` on the state in which an action panicked; the panic goes on. -/
def unwinding (action : Action State Value) (cleanup : Action State Unit) :
    Action State Value := fun state =>
  match action state with
  | .panicked panic state => .panicked panic (cleanup state).state
  | outcome => outcome

/-- Runs an action on a part of the state. The part is put back however the action ends. -/
def zoom {Whole : Type} (part : Whole → State) (restore : Whole → State → Whole)
    (action : Action State Value) : Action Whole Value := fun whole =>
  (action (part whole)).mapState (restore whole)

/-- Runs an action on each element of a list in turn. -/
def forEach {Element : Type} (step : Element → Action State Unit) :
    List Element → Action State Unit
  | [] => value ()
  | element :: rest => andThen (step element) fun _ => forEach step rest

/-! ## What each combinator does to a state -/

@[simp] theorem pure_apply (result : Value) (state : State) :
    (pure result : Action State Value) state = .done result state := rfl

/-- How the first computation ends decides whether the second one starts at all. -/
theorem bind_apply (first : Action State Value) (next : Value → Action State Next)
    (state : State) : (first >>= next) state =
      match first state with
      | .done value state => next value state
      | .failed error state => .failed error state
      | .panicked panic state => .panicked panic state := rfl

/-- After a computation that returned, the next one goes on from the state it left. -/
theorem bind_of_done {first : Action State Value} {next : Value → Action State Next}
    {state later : State} {result : Value} (done : first state = .done result later) :
    (first >>= next) state = next result later := by
  rw [bind_apply, done]

/-- A computation that failed is the end of the whole sequence. -/
theorem bind_of_failed {first : Action State Value} {next : Value → Action State Next}
    {state later : State} {error : VmError} (failed : first state = .failed error later) :
    (first >>= next) state = .failed error later := by
  rw [bind_apply, failed]

/-- A sequence is done exactly when both of its parts are. -/
theorem bind_eq_done_iff {first : Action State Value} {next : Value → Action State Next}
    {state last : State} {result : Next} :
    (first >>= next) state = .done result last ↔
      ∃ value middle, first state = .done value middle ∧ next value middle = .done result last := by
  rw [bind_apply]
  cases first state with
  | done value middle =>
    constructor
    · exact fun done => ⟨value, middle, rfl, done⟩
    · rintro ⟨_, _, same, done⟩
      cases same
      exact done
  | failed error middle => exact ⟨nofun, fun ⟨_, _, same, _⟩ => nomatch same⟩
  | panicked panic middle => exact ⟨nofun, fun ⟨_, _, same, _⟩ => nomatch same⟩

/-- A sequence fails when its first part does, or when that is done and the second part fails. -/
theorem bind_eq_failed_iff {first : Action State Value} {next : Value → Action State Next}
    {state last : State} {error : VmError} :
    (first >>= next) state = .failed error last ↔
      first state = .failed error last ∨
        ∃ value middle, first state = .done value middle ∧
          next value middle = .failed error last := by
  rw [bind_apply]
  cases first state with
  | done value middle =>
    constructor
    · exact fun failed => .inr ⟨value, middle, rfl, failed⟩
    · rintro (same | ⟨_, _, same, failed⟩)
      · cases same
      · cases same
        exact failed
  | failed cause middle =>
    constructor
    · intro same
      cases same
      exact .inl rfl
    · rintro (same | ⟨_, _, same, _⟩)
      · cases same
        rfl
      · cases same
  | panicked panic middle =>
    constructor
    · exact nofun
    · rintro (same | ⟨_, _, same, _⟩) <;> cases same

/-- A sequence panics when its first part does, or when that is done and the second part
panics. -/
theorem bind_eq_panicked_iff {first : Action State Value} {next : Value → Action State Next}
    {state last : State} {panic : Panic} :
    (first >>= next) state = .panicked panic last ↔
      first state = .panicked panic last ∨
        ∃ value middle, first state = .done value middle ∧
          next value middle = .panicked panic last := by
  rw [bind_apply]
  cases first state with
  | done value middle =>
    constructor
    · exact fun panicked => .inr ⟨value, middle, rfl, panicked⟩
    · rintro (same | ⟨_, _, same, panicked⟩)
      · cases same
      · cases same
        exact panicked
  | failed error middle =>
    constructor
    · exact nofun
    · rintro (same | ⟨_, _, same, _⟩) <;> cases same
  | panicked cause middle =>
    constructor
    · intro same
      cases same
      exact .inl rfl
    · rintro (same | ⟨_, _, same, _⟩)
      · cases same
        rfl
      · cases same

@[simp] theorem value_apply (result : Value) (state : State) :
    value result state = .done result state := rfl

@[simp] theorem current_apply (state : State) :
    (current : Action State State) state = .done state state := rfl

@[simp] theorem change_apply (update : State → State) (state : State) :
    change update state = .done () (update state) := rfl

@[simp] theorem view_apply (look : State → Value) (state : State) :
    view look state = .done (look state) state := rfl

@[simp] theorem fail_apply (error : VmError) (state : State) :
    (fail error : Action State Value) state = .failed error state := rfl

@[simp] theorem halt_apply (panic : Panic) (state : State) :
    (halt panic : Action State Value) state = .panicked panic state := rfl

/-- A check passes exactly when its condition holds, and it changes nothing. -/
theorem require_eq_done_iff {condition : Bool} {error : VmError} {state last : State} :
    require condition error state = .done () last ↔ condition = true ∧ state = last := by
  cases condition <;> simp [require]

/-- A check fails exactly when its condition does not hold, with its own error. -/
theorem require_eq_failed_iff {condition : Bool} {error cause : VmError} {state last : State} :
    require condition error state = .failed cause last ↔
      condition = false ∧ error = cause ∧ state = last := by
  cases condition <;> simp [require]

/-- An attempt never fails. -/
theorem attempt_ne_failed {action : Action State Value} {error : VmError}
    {state last : State} : attempt action state ≠ .failed error last := by
  unfold attempt
  cases action state <;> exact nofun

instance : LawfulMonad (Action State) := LawfulMonad.mk' (Action State)
  (fun action => by
    funext state
    show andThen action (fun result => value result) state = action state
    unfold andThen
    cases action state <;> rfl)
  (fun _ _ => rfl)
  (fun first second third => by
    funext state
    show andThen (andThen first second) third state =
      andThen first (fun result => andThen (second result) third) state
    unfold andThen
    cases first state <;> rfl)

end Action

end DemandPaging
