import DemandPaging.Proofs.Operation

/-!
# Runs

A `Run` is a sequence of operations, each of which ends with an answer or with an error; a run does
not go on once the kernel has stopped. What it performed is its log. Between the operations of a run
that began with a fresh machine the machine is at rest.
-/

namespace DemandPaging

variable {config : Config}

namespace Operation

/-- An operation ends, with an answer or with an error, and leaves a machine. -/
def Yields (operation : Operation config) (machine : Machine config)
    (result : Except VmError Answer) (later : Machine config) : Prop :=
  operation.perform machine =
    match result with
    | .ok answer => .done answer later
    | .error error => .failed error later

variable {operation : Operation config} {machine later : Machine config}
  {result : Except VmError Answer}

/-- An operation that ends takes one of the ways that are open to it. -/
theorem Yields.performs (yields : operation.Yields machine result later)
    (atRest : machine.AtRest) (permitted : operation.IsPermitted machine) :
    operation.Performs machine result later := by
  have ends := perform_ends atRest operation permitted
  cases result with
  | ok answer => exact ends.of_done yields
  | error error => exact ends.of_failed yields

/-- Whether an operation ends, with a result and a machine that pass a check. -/
def yieldsWith (operation : Operation config) (machine : Machine config)
    (check : Except VmError Answer → Machine config → Bool) : Bool :=
  match operation.perform machine with
  | .done answer later => check (.ok answer) later
  | .failed error later => check (.error error) later
  | .panicked _ _ => false

/-- A check that passes has been made on how the operation ends. -/
theorem exists_of_yieldsWith {check : Except VmError Answer → Machine config → Bool}
    (passes : operation.yieldsWith machine check = true) :
    ∃ result later, operation.Yields machine result later ∧ check result later = true := by
  unfold yieldsWith at passes
  split at passes
  · next answer later done => exact ⟨.ok answer, later, done, passes⟩
  · next error later failed => exact ⟨.error error, later, failed, passes⟩
  · cases passes

end Operation

/-- The operations that were performed, and how each of them ended. -/
abbrev OperationLog (config : Config) := List (Operation config × Except VmError Answer)

/-- A sequence of operations that leads from one machine to another. -/
inductive Run (start : Machine config) : OperationLog config → Machine config → Prop where
  | nil : Run start [] start
  | step {log : OperationLog config} {machine later : Machine config} {operation : Operation config}
      {result : Except VmError Answer} (prior : Run start log machine)
      (permitted : operation.IsPermitted machine)
      (yields : operation.Yields machine result later) :
    Run start (log ++ [(operation, result)]) later

instance (operation : Operation config) (machine : Machine config) :
    Decidable (operation.IsPermitted machine) := by
  cases operation <;> unfold Operation.IsPermitted <;> infer_instance

/-- Performs operations one after the other, unless one of them stops the kernel. -/
def performAll : List (Operation config) → Machine config →
    Option (OperationLog config × Machine config)
  | [], machine => some ([], machine)
  | operation :: rest, machine =>
    if operation.IsPermitted machine then
      match operation.perform machine with
      | .done answer later =>
        (performAll rest later).map fun (log, last) => ((operation, .ok answer) :: log, last)
      | .failed error later =>
        (performAll rest later).map fun (log, last) => ((operation, .error error) :: log, last)
      | .panicked _ _ => none
    else none

/-- What can be performed goes on a run. -/
theorem Run.append {start machine later : Machine config} {log more : OperationLog config}
    {operations : List (Operation config)} (run : Run start log machine)
    (performed : performAll operations machine = some (more, later)) :
    Run start (log ++ more) later := by
  induction operations generalizing log more machine with
  | nil =>
    cases performed
    rwa [List.append_nil]
  | cons operation rest inductionHypothesis =>
    unfold performAll at performed
    split at performed
    · next permitted =>
      split at performed
      · next answer middle done =>
        obtain ⟨⟨log', last⟩, goesOn, same⟩ := Option.map_eq_some_iff.mp performed
        cases same
        have step : Run start (log ++ [(operation, .ok answer)]) middle := run.step permitted done
        simpa using inductionHypothesis step goesOn
      · next error middle failed =>
        obtain ⟨⟨log', last⟩, goesOn, same⟩ := Option.map_eq_some_iff.mp performed
        cases same
        have step : Run start (log ++ [(operation, .error error)]) middle :=
          run.step permitted failed
        simpa using inductionHypothesis step goesOn
      · cases performed
    · cases performed

/-- The frames of a pool of the given size. -/
def FramePool.allFrames (frames : Nat) : List FrameNumber :=
  (List.range frames).map FrameNumber.mk

namespace Run

open Machine

variable {frames slots : Nat} {log : OperationLog config} {start machine : Machine config}

/-- Runs preserve what every operation preserves. -/
theorem preserves {holds : Machine config → Prop} (run : Run start log machine)
    (initially : holds start)
    (preserved : ∀ (operation : Operation config) machine result later, holds machine →
      operation.IsPermitted machine → operation.Yields machine result later → holds later) :
    holds machine := by
  induction run with
  | nil => exact initially
  | step _ permitted yields inductionHypothesis =>
    exact preserved _ _ _ _ inductionHypothesis permitted yields

/-- A machine at rest is at rest after a run. -/
theorem atRest_of_start (run : Run start log machine) (atRest : start.AtRest) :
    machine.AtRest := by
  apply run.preserves atRest
  intro operation middle result later middleRest permitted yields
  exact ((yields.performs middleRest permitted).passes middleRest).atRest

/-- A machine that was just started is at rest. -/
theorem boot_atRest (config : Config) (frames slots : Nat) : (boot config frames slots).AtRest where
  consistent := boot_consistent config frames slots
  idle := boot_pending config frames slots

/-- Between the operations of a run no frame is in hand and the tables are in order. -/
theorem atRest (run : Run (boot config frames slots) log machine) : machine.AtRest :=
  run.atRest_of_start (boot_atRest config frames slots)

/-- The frames of the machine are those that it began with, wherever they are now. -/
theorem frames_perm (run : Run (boot config frames slots) log machine) :
    machine.frames.Perm (FramePool.allFrames frames) := by
  induction run with
  | nil =>
    have outside : (OrderedMap.empty : OrderedMap FrameNumber Unit).keys = [] := rfl
    simp [Machine.frames, boot, FramePool.ofSize, FramePool.allFrames, FrameTable.frames, outside]
  | step prior permitted yields inductionHypothesis =>
    have before := prior.atRest
    have passes := (yields.performs before permitted).passes before
    exact (passes.path.frames_conserved before.consistent).trans inductionHypothesis

/-- Every frame in a queue is one of the frames that the machine began with. -/
theorem index_lt_of_mem (run : Run (boot config frames slots) log machine) {subsystem : Subsystem}
    {frame : FrameNumber} (member : frame ∈ (machine.table subsystem).frames) :
    frame.index < frames := by
  have known := (run.frames_perm.mem_iff).mp (mem_frames_of_table member)
  obtain ⟨index, inside, rfl⟩ := List.mem_map.mp known
  exact List.mem_range.mp inside

end Run

/-! ## A small machine -/

/-- Pages of four bytes, and user memory below the address 128. -/
def Config.small : Config where
  pageShift := 2
  pageShift_lt := by decide
  stackTop := 64
  userEnd := 128
  stackCeiling := 16

/-- A program in the first space of the main subsystem that uses anonymous pages and a mapped file,
and forks. -/
def crowdedProgram : List (Operation .small) :=
  let space : SpaceKey := ⟨.main, ⟨1⟩⟩
  [.create .main,
    .request space (.allocate .anonymous ⟨4⟩ true none),
    .request space (.allocate .anonymous ⟨8⟩ true none),
    .request space (.write ⟨6⟩ #[1, 2, 3, 4]),
    .createFile #[10, 11, 12, 13, 14, 15],
    .request space (.map ⟨16⟩ 6 true ⟨0⟩ 0),
    .request space (.write ⟨18⟩ #[5, 6, 7]),
    .fork space,
    .request space (.read ⟨6⟩ #[0, 0, 0, 0]),
    .request space (.unmap ⟨16⟩)]

/-- On three frames the program runs to its end, and pages are evicted on the way. -/
theorem crowdedProgram_performed : ∃ log machine,
    performAll crowdedProgram (.boot .small 3 8) = some (log, machine) ∧
      0 < machine.mainTable.evictions := by
  have performed : ((performAll crowdedProgram (.boot .small 3 8)).any
      fun (_, machine) => 0 < machine.mainTable.evictions) = true := by
    decide +kernel
  obtain ⟨⟨log, machine⟩, outcome, evicted⟩ := (Option.any_eq_true _ _).mp performed
  exact ⟨log, machine, outcome, of_decide_eq_true evicted⟩

end DemandPaging
