import DemandPaging.Proofs.Course.Basic
import DemandPaging.Proofs.WriteBack.Attempts

/-!
# When initializers are run

The initializer of a page is run when the page is loaded for the first time, after the page has got
its first content, and at no other time. So every run is the run of a transition that claims a page,
and each such transition runs one initializer at most.
-/

namespace DemandPaging

variable {config : Config}

/-- Whether an event is a run of the given initializer. -/
def Event.isRunOf (id : InitializerId) : Event → Bool
  | .initializing other _ => other == id
  | _ => false

namespace Environment

variable {environment : Environment config}

/-- The run of an initializer is the last of the list once it has begun. -/
theorem initializations_record_initializing {id : InitializerId} {number : PageNumber} :
    (environment.record (.initializing id number)).initializations =
      environment.initializations ++ [.initializing id number] := by
  simp [initializations, record, Event.isInitialization]

/-- The count of runs is part of the record of initializer runs. -/
theorem runsOf_of_initialized {after : Environment config}
    (same : after.initialized = environment.initialized) (id : InitializerId) :
    after.runsOf id = environment.runsOf id := by
  have runs : after.runs = environment.runs := congrArg Prod.fst same
  rw [runsOf, runsOf, runs]

theorem ignoresReading_initialized : IgnoresReading (@initialized config) where
  swap _ _ := rfl
  files _ _ := rfl
  reading environment _ _ _ := environment.initialized_record rfl
  shortRead environment _ _ _ := environment.initialized_record rfl

end Environment

/-! ## Loading a page -/

/-- Replacing the result of an action does not change the state that it leaves. -/
theorem Action.state_bind_pure {State Value Next : Type} (action : Action State Value)
    (result : Next) (state : State) :
    ((action >>= fun _ => pure result) state).state = (action state).state := by
  rw [bind_apply]
  cases action state <;> rfl

/-- Running an initializer is recorded and counted, whether or not the run succeeds. -/
theorem FrameAction.environment_runInitializer (initializer : Initializer config)
    (number : PageNumber) (window : FrameWindow config) :
    (runInitializer initializer number window).state.environment =
      { window.environment.record (.initializing initializer.id number) with
        runs := window.environment.runsAfter (some initializer) } := by
  unfold runInitializer EnvironmentAction.countRun EnvironmentAction.record
  simp only [Action.bind_apply, onEnvironment, Action.zoom, Action.change_apply, Outcome.mapState,
    Action.view_apply, Action.pure_apply, Action.current_apply, changeBytes]
  cases (initializer.run ((window.environment.record
    (.initializing initializer.id number)).runsOf initializer.id + 1) number window.bytes).2 <;> rfl

namespace PageKind

/-- The runs of initializers that an attempt to load a page makes. -/
def initializes (number : PageNumber) (window : FrameWindow config) : PageKind config → List Event
  | .unloaded target (some initializer) =>
    match target.load window with
    | .done _ _ => [.initializing initializer.id number]
    | _ => []
  | _ => []

variable {number : PageNumber} {window after : FrameWindow config} {kind later : PageKind config}

/-- A page that is loaded has had its initializer run, if it waited for one. -/
theorem initializes_of_loaded (loaded : kind.load number window = .done later after) :
    kind.initializes number window =
      kind.initializer?.toList.map (.initializing ·.id number) := by
  match kind with
  | .unloaded target (some initializer) =>
    obtain ⟨value, middle, filled, _⟩ := Action.bind_eq_done_iff.mp loaded
    simp [initializes, filled, initializer?]
  | .unloaded _ none | .anonymous _ | .file _ => rfl

/-- Loading records and counts the runs that it makes. -/
theorem initialized_load (number : PageNumber) (kind : PageKind config)
    (window : FrameWindow config) :
    kind.initializes number window = [] ∧
        (kind.load number window).state.environment.initialized =
          window.environment.initialized ∨
      ∃ initializer, kind.initializer? = some initializer ∧
        kind.initializes number window = [.initializing initializer.id number] ∧
        (kind.load number window).state.environment.initialized =
          (window.environment.runsAfter (some initializer),
            window.environment.initializations ++ [.initializing initializer.id number]) := by
  match kind with
  | .unloaded target (some initializer) =>
    have kept := (target.keeps_load Environment.ignoresReading_initialized).same window
    have step : (PageKind.unloaded target (some initializer)).load number =
        target.load >>= fun filled =>
          FrameAction.runInitializer initializer number >>= fun _ => pure filled := rfl
    rw [step, Action.bind_apply]
    cases filled : target.load window with
    | failed | panicked =>
      rw [filled] at kept
      exact .inl ⟨by simp [initializes, filled], kept⟩
    | done value middle =>
      rw [filled] at kept
      refine .inr ⟨initializer, rfl, by simp [initializes, filled], ?_⟩
      have runs : middle.environment.runs = window.environment.runs := congrArg Prod.fst kept
      have ran : middle.environment.initializations = window.environment.initializations :=
        congrArg Prod.snd kept
      have same : middle.environment.runsAfter (some initializer) =
          window.environment.runsAfter (some initializer) := by
        simp only [Environment.runsAfter, Environment.runsOf, runs]
      simp only [Action.state_bind_pure, FrameAction.environment_runInitializer, same]
      exact Prod.ext rfl (ran ▸ Environment.initializations_record_initializing)
  | .unloaded _ none | .anonymous _ | .file _ =>
    refine .inl ⟨rfl, (keeps_load_of_runs Environment.ignoresReading_initialized number _ ?_).same
      window⟩
    intro _ _ same
    cases same

end PageKind

/-! ## What transitions run -/

/-- The runs of initializers that a transition makes: it claims one page at most. -/
def Move.initializations (move : Move config) : List Event :=
  match move.transition with
  | .load key number frame | .spoil key number frame _ =>
    match move.before.page? key number with
    | some page =>
      page.kind.initializes number ((move.before.record (.loading key number)).window frame)
    | none => []
  | _ => []

/-- A mere report is no run of an initializer. -/
theorem Event.isInitialization_of_isNote {event : Event} (isNote : event.isNote = true) :
    event.isInitialization = false := by
  cases event <;> first | rfl | cases isNote

namespace Transition

open Machine

variable {transition : Transition config} {machine next : Machine config}

/-- A transition that claims no page and lists no initializer. -/
def KeepsInitializers : Transition config → Prop
  | .load _ _ _ | .spoil _ _ _ _ | .listInitializer _ => False
  | _ => True

/-- Where no page is claimed no initializer is run. -/
theorem Leads.initialized_eq (leads : transition.Leads machine next)
    (keeps : transition.KeepsInitializers) :
    next.environment.initialized = machine.environment.initialized := by
  cases leads with
  | load | spoil | listInitializer => exact keeps.elim
  | register | unregister | store | set | forget | setFile | createFile | setSwapFaults | lend
  | reclaim => rfl
  | note isNote =>
    exact Environment.initialized_record _ (Event.isInitialization_of_isNote isNote)
  | take =>
    rw [environment_take]
    exact Environment.initialized_record _ rfl
  | release => rw [environment_release]
  | pin => rw [environment_updateTable]
  | create => rw [environment_addSpace]
  | copy =>
    rw [environment_settleCopy]
    exact Environment.initialized_record _ rfl
  | evict _ _ _ _ stored =>
    have same := (PageKind.keeps_store Environment.ignoresSaving_initialized _ _ _ _).of_done stored
    rw [environment_beforeStore, Environment.initialized_record _ rfl,
      Environment.initialized_record _ rfl] at same
    rw [environment_vacate]
    exact same
  | discard _ _ ended =>
    exact (PageKind.keeps_discard Environment.ignoresSaving_initialized _ _).of_done ended
  | discardResident _ _ ended =>
    rw [environment_endResident]
    exact (PageKind.keeps_discard Environment.ignoresSaving_initialized _ _).attempt.of_done ended

/-- What a transition with the given runs records and counts. -/
inductive Initializes (transition : Transition config) (machine next : Machine config)
    (runs : List Event) : Prop where
  | none (nothing : runs = [])
      (same : next.environment.initialized = machine.environment.initialized)
  | one {key : SpaceKey} {page : Page config} {initializer : Initializer config}
      (claims : transition.Claims key page.number)
      (found : machine.page? key page.number = some page)
      (waits : page.kind.initializer? = some initializer)
      (once : runs = [.initializing initializer.id page.number])
      (counted : next.environment.initialized =
        (machine.environment.runsAfter (some initializer),
          machine.environment.initializations ++ [.initializing initializer.id page.number]))

/-- A claim records the initializer that the attempt to load the page ran, if any. -/
theorem initializes_of_attempt {key : SpaceKey} {page : Page config} {frame : FrameNumber}
    {after : FrameWindow config} (claims : transition.Claims key page.number)
    (found : machine.page? key page.number = some page)
    (attempted : (page.kind.load page.number
      ((machine.record (.loading key page.number)).window frame)).state = after)
    (ends : next.environment.initialized = after.environment.initialized) :
    transition.Initializes machine next (page.kind.initializes page.number
      ((machine.record (.loading key page.number)).window frame)) := by
  have begins : ((machine.record (.loading key page.number)).window frame).environment.initialized =
      machine.environment.initialized := Environment.initialized_record _ rfl
  have ran := page.kind.initialized_load page.number
    ((machine.record (.loading key page.number)).window frame)
  rw [attempted, ← ends] at ran
  rcases ran with ⟨nothing, same⟩ | ⟨initializer, waits, once, counted⟩
  · exact .none nothing (same.trans begins)
  · have recorded : (machine.environment.record (.loading key page.number)).initializations =
        machine.environment.initializations := congrArg Prod.snd begins
    exact .one claims found waits once (counted.trans (Prod.ext rfl (congrArg (· ++ _) recorded)))

/-- A transition runs one initializer at most, that of a page that it claims. -/
theorem Leads.initializes (leads : transition.Leads machine next)
    (unlisted : ∀ id, transition ≠ .listInitializer id) :
    transition.Initializes machine next (Move.initializations ⟨machine, transition⟩) := by
  by_cases keeps : transition.KeepsInitializers
  · refine .none ?_ (leads.initialized_eq keeps)
    cases transition <;> first | rfl | exact keeps.elim
  · cases leads with
    | load found _ _ loaded =>
      simp only [Move.initializations, found]
      refine initializes_of_attempt ⟨rfl, rfl⟩ found (congrArg Outcome.state loaded) ?_
      rw [environment_settleLoaded]
      exact Environment.initialized_record _ rfl
    | spoil found _ _ failed =>
      simp only [Move.initializations, found]
      refine initializes_of_attempt ⟨rfl, rfl⟩ found (congrArg Outcome.state failed) ?_
      exact Environment.initialized_record _ rfl
    | listInitializer => exact absurd rfl (unlisted _)
    | _ => exact absurd trivial keeps

/-- A transition that runs an initializer claims a page that waits for it. -/
theorem Leads.claims_of_initializations (leads : transition.Leads machine next)
    (runs : Move.initializations ⟨machine, transition⟩ ≠ []) :
    ∃ key page initializer, transition.Claims key page.number ∧
      machine.page? key page.number = some page ∧ page.kind.initializer? = some initializer ∧
        Move.initializations ⟨machine, transition⟩ = [.initializing initializer.id page.number] := by
  have unlisted : ∀ id, transition ≠ .listInitializer id := by
    rintro id rfl
    exact runs rfl
  cases leads.initializes unlisted with
  | none nothing => exact absurd nothing runs
  | one claims found waits once => exact ⟨_, _, _, claims, found, waits, once⟩

/-- The runs that a transition makes are recorded, and nothing else is recorded as a run. -/
theorem Leads.initializations_eq (leads : transition.Leads machine next) :
    next.environment.initializations =
      machine.environment.initializations ++ Move.initializations ⟨machine, transition⟩ := by
  by_cases lists : ∃ id, transition = .listInitializer id
  · obtain ⟨id, rfl⟩ := lists
    cases leads
    exact (List.append_nil _).symm
  · cases leads.initializes fun id same => lists ⟨id, same⟩ with
    | none nothing same =>
      rw [nothing, List.append_nil]
      exact congrArg Prod.snd same
    | one _ _ _ once counted =>
      rw [once]
      exact congrArg Prod.snd counted

/-- How often each initializer has been run is counted. -/
theorem Leads.runsOf_eq (leads : transition.Leads machine next) (consistent : machine.Consistent)
    (id : InitializerId) : next.environment.runsOf id = machine.environment.runsOf id +
      (Move.initializations ⟨machine, transition⟩).countP (·.isRunOf id) := by
  by_cases lists : ∃ id, transition = .listInitializer id
  · obtain ⟨listed, rfl⟩ := lists
    cases leads with
    | listInitializer =>
      show ((OrderedMap.insert _ _ _).get? id).getD 0 = _
      rw [OrderedMap.get?_insert_eq]
      split
      · next same =>
        rw [same, Environment.runsOf, consistent.names.fresh_initializer]
        rfl
      · rfl
  · cases leads.initializes fun id same => lists ⟨id, same⟩ with
    | none nothing same =>
      rw [nothing]
      exact Environment.runsOf_of_initialized same id
    | @one _ _ initializer _ found waits once counted =>
      have named := consistent.named _ _ _ _ found waits
      have runs : next.environment.runs = machine.environment.runsAfter (some initializer) :=
        congrArg Prod.fst counted
      rw [once]
      by_cases here : id = initializer.id
      · subst here
        rw [Environment.runsOf_after runs named]
        simp [Event.isRunOf]
      · rw [Environment.runsOf, runs, Environment.runsAfter, OrderedMap.get?_modify_eq,
          if_neg here]
        simp [Event.isRunOf, Ne.symm here, Environment.runsOf]

end Transition

namespace Trail

variable {start machine : Machine config} {moves : List (Move config)}

/-- The runs of initializers on a way are those of its transitions. -/
theorem initializations_eq (trail : Trail start moves machine) :
    machine.environment.initializations =
      start.environment.initializations ++ moves.flatMap Move.initializations := by
  induction trail with
  | refl => simp
  | step _ leads inductionHypothesis =>
    rw [leads.initializations_eq, inductionHypothesis, List.flatMap_append, List.append_assoc]
    simp

/-- Every run is counted. -/
theorem runsOf_eq (trail : Trail start moves machine) (consistent : start.Consistent)
    (id : InitializerId) : machine.environment.runsOf id = start.environment.runsOf id +
      (moves.flatMap Move.initializations).countP (·.isRunOf id) := by
  induction trail with
  | refl => rfl
  | step prior leads inductionHypothesis =>
    rw [leads.runsOf_eq (prior.consistent consistent).1, inductionHypothesis, List.flatMap_append,
      List.countP_append, Nat.add_assoc]
    simp

end Trail

end DemandPaging
