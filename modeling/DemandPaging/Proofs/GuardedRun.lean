import DemandPaging.Proofs.Run

/-!
# Runs under a condition

A `GuardedRun` is a run each of whose operations meets a condition in the machine on which it is
performed. Where programs must not do something for a property to hold, the condition says so.
-/

namespace DemandPaging

variable {config : Config}

/-- A run whose operations all meet a condition. -/
inductive GuardedRun (guard : Machine config → Operation config → Prop) (start : Machine config) :
    OperationLog config → Machine config → Prop where
  | nil : GuardedRun guard start [] start
  | step {log : OperationLog config} {machine later : Machine config} {operation : Operation config}
      {result : Except VmError Answer} (prior : GuardedRun guard start log machine)
      (permitted : operation.IsPermitted machine) (guarded : guard machine operation)
      (yields : operation.Yields machine result later) :
    GuardedRun guard start (log ++ [(operation, result)]) later

/-- Performs operations that meet a condition, unless one of them stops the kernel. -/
def performGuarded (guard : Machine config → Operation config → Prop)
    [∀ machine operation, Decidable (guard machine operation)] :
    List (Operation config) → Machine config → Option (OperationLog config × Machine config)
  | [], machine => some ([], machine)
  | operation :: rest, machine =>
    if guard machine operation then
      (performAll [operation] machine).bind fun (first, middle) =>
        (performGuarded guard rest middle).map fun (log, last) => (first ++ log, last)
    else none

namespace GuardedRun

variable {guard : Machine config → Operation config → Prop} {start machine later : Machine config}
  {log more : OperationLog config}

/-- A guarded run is a run. -/
theorem run (guarded : GuardedRun guard start log machine) : Run start log machine := by
  induction guarded with
  | nil => exact .nil
  | step _ permitted _ yields inductionHypothesis => exact inductionHypothesis.step permitted yields

/-- Guarded runs preserve what every operation that meets the condition preserves. -/
theorem preserves {holds : Machine config → Prop} (guarded : GuardedRun guard start log machine)
    (initially : holds start)
    (preserved : ∀ (operation : Operation config) log machine result later,
      Run start log machine → holds machine → operation.IsPermitted machine →
        guard machine operation → operation.Yields machine result later → holds later) :
    holds machine := by
  induction guarded with
  | nil => exact initially
  | step prior permitted meets yields inductionHypothesis =>
    exact preserved _ _ _ _ _ prior.run inductionHypothesis permitted meets yields

/-- One operation that can be performed goes on a guarded run. -/
theorem append_one {operation : Operation config} (guarded : GuardedRun guard start log machine)
    (meets : guard machine operation)
    (performed : performAll [operation] machine = some (more, later)) :
    GuardedRun guard start (log ++ more) later := by
  unfold performAll at performed
  split at performed
  · next permitted =>
    split at performed
    · next done =>
      cases performed
      exact guarded.step permitted meets done
    · next failed =>
      cases performed
      exact guarded.step permitted meets failed
    · cases performed
  · cases performed

/-- What can be performed goes on a guarded run. -/
theorem append [∀ machine operation, Decidable (guard machine operation)]
    {operations : List (Operation config)} (guarded : GuardedRun guard start log machine)
    (performed : performGuarded guard operations machine = some (more, later)) :
    GuardedRun guard start (log ++ more) later := by
  induction operations generalizing log more machine with
  | nil =>
    cases performed
    rwa [List.append_nil]
  | cons operation rest inductionHypothesis =>
    unfold performGuarded at performed
    split at performed
    · next meets =>
      obtain ⟨⟨first, middle⟩, one, performed⟩ := Option.bind_eq_some_iff.mp performed
      obtain ⟨⟨others, last⟩, goesOn, same⟩ := Option.map_eq_some_iff.mp performed
      cases same
      rw [← List.append_assoc]
      exact inductionHypothesis (guarded.append_one meets one) goesOn
    · cases performed

end GuardedRun

end DemandPaging
