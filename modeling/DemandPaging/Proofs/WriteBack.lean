import DemandPaging.Proofs.Causes
import DemandPaging.Proofs.Teardown

/-!
# Write-back

In every run a page of a file that stops being resident is written back exactly once if it was written
to since it became resident, and never otherwise; nothing else is ever written to files; and what a
file does not take is reported. No operation on user memory changes the length of a file.
-/

namespace DemandPaging

variable {config : Config}

/-! ## Along a run -/

/-- No operation shortens a file. -/
theorem Transition.IsDueTo.size_le {operation : Operation config} {current : Machine config}
    {id : FileId} {contents : File}
    (due : (Transition.setFile id contents).IsDueTo operation current) :
    (current.environment.file id).data.size ≤ contents.data.size := by
  rcases due with same | ⟨_, _, _, rfl⟩
  · exact Nat.le_of_eq (congrArg Array.size same).symm
  · rw [File.size_data_store]
    exact Nat.le_max_left _ _

/-- On a way that operations take, no file becomes shorter than the pages that were read from it. -/
theorem Trail.filesReach {start last : Machine config} {moves : List (Move config)}
    (trail : Trail start moves last) (consistent : start.Consistent) (reach : start.FilesReach)
    (due : ∀ move ∈ moves, ∃ operation, move.transition.IsDueTo operation move.before) :
    last.FilesReach ∧ ∀ move ∈ moves, move.before.FilesReach := by
  apply trail.preserves_of_consistent consistent reach
  intro move next listed before reached leads
  obtain ⟨operation, isDue⟩ := due move listed
  apply leads.filesReach before reached
  intro id contents isSet
  rw [isSet] at isDue
  exact isDue.size_le

/-- Only outsiders change the length of a file. -/
theorem Trail.size_eq {start last : Machine config} {moves : List (Move config)}
    {operation : Operation config} {id : FileId} (trail : Trail start moves last)
    (consistent : start.Consistent) (reach : start.FilesReach)
    (due : ∀ move ∈ moves, move.transition.IsDueTo operation move.before)
    (unwritten : ∀ offset bytes, operation ≠ .writeFile id offset bytes)
    (uncreated : ∀ data, operation ≠ .createFile data) :
    (last.environment.file id).data.size = (start.environment.file id).data.size := by
  induction trail with
  | refl => rfl
  | @step moves machine next transition trail leads inductionHypothesis =>
    have earlier : ∀ move ∈ moves, move.transition.IsDueTo operation move.before :=
      fun move listed => due move (List.mem_append_left _ listed)
    have isDue : transition.IsDueTo operation machine :=
      due ⟨machine, transition⟩ (List.mem_append_right _ List.mem_cons_self)
    refine Eq.trans ?_ (inductionHypothesis earlier)
    by_cases set : ∃ contents, transition = .setFile id contents
    · obtain ⟨contents, rfl⟩ := set
      rcases isDue with same | ⟨offset, bytes, isWrite, _⟩
      · cases leads
        show ((machine.environment.setFile id contents).file id).data.size = _
        rw [Environment.file_setFile]
        split
        · rw [same]
        · rfl
      · exact absurd isWrite (unwritten offset bytes)
    · apply leads.size_eq (trail.consistent consistent).1
      · exact (trail.filesReach consistent reach fun move listed =>
          ⟨operation, earlier move listed⟩).1
      · exact fun contents isSet => set ⟨contents, isSet⟩
      · rintro data rfl
        exact uncreated data isDue

namespace Chronicle

variable {start machine : Machine config} {episodes : List (Episode config)}

/-- On a chronicle no file becomes shorter than the pages that were read from it. -/
theorem filesReach (chronicle : Chronicle start episodes machine) (consistent : start.Consistent)
    (reach : start.FilesReach) :
    machine.FilesReach ∧ ∀ move ∈ Episode.allMoves episodes, move.before.FilesReach := by
  apply chronicle.trail.filesReach consistent reach
  intro move listed
  obtain ⟨episode, known, member⟩ := List.mem_flatMap.mp listed
  exact ⟨episode.operation, chronicle.isDueTo episode known move member⟩

end Chronicle

/-- Where no page is resident, none was read from a file. -/
theorem Machine.filesReach_of_fresh {machine : Machine config}
    (fresh : ∀ key number, machine.frame? key number = none) : machine.FilesReach := by
  refine ⟨fun {key number page _} found resident _ => ?_⟩
  have absent : (machine.page? key number).bind Page.frame = none := fresh key number
  rw [found] at absent
  rw [show page.frame = none from absent] at resident
  cases resident

/-! ## Reports -/

namespace Machine

variable (machine : Machine config)

/-- An operation that ends pages fails exactly if content is lost. -/
def FailsIf (lost : Prop) (action : KernelAction config Unit) : Prop :=
  (∃ later, action machine = .done () later) ∧ ¬ lost ∨
    (∃ error later, action machine = .failed error later) ∧ lost

/-- An operation that cannot fail reports the pages of a space whose content is lost, and no others. -/
def Reports (key : SpaceKey) (action : KernelAction config Unit) : Prop :=
  ∃ later, action machine = .done () later ∧ later.losses = machine.losses ++
    (machine.turns key (machine.space key).pages.keys).filterMap (machine.lossReport? key)

/-- Content that is lost when a page ends does not get lost unnoticed. -/
structure ReportsFailures : Prop where
  removed : ∀ {key : SpaceKey} {address : VirtualAddress},
    (machine.page? key (address.page config)).isSome →
      machine.FailsIf
        (machine.loss? key ⟨address.page config, machine.environment.moment + 1⟩ ≠ none)
        (KernelAction.removeAddress key address)
  unmapped : ∀ {key : SpaceKey} {address : VirtualAddress} {region : Region},
    address.isPageAligned config = true →
    (machine.space key).regions.get? (address.page config) = some region →
      machine.FailsIf (∃ turn ∈ machine.turns key (machine.ownedBy key region),
        machine.loss? key turn ≠ none) (KernelAction.unmapFile key address)
  tornDown : ∀ key, machine.Reports key (KernelAction.tearDown key)
  dropped : ∀ key, machine.Reports key (KernelAction.dropSpace key)
  /-- The space that a failed fork leaves is dropped, and its losses are reported as well. -/
  unforked : ∀ {parent : SpaceKey} {error : VmError} {later : Machine config},
    KernelAction.forkSpace parent machine = .failed error later →
      ∃ spoiled, KernelAction.dropSpace (machine.nextKey parent.subsystem) spoiled = .done () later ∧
        spoiled.Reports (machine.nextKey parent.subsystem)
          (KernelAction.dropSpace (machine.nextKey parent.subsystem))

variable {machine}

/-- An action that returns without a loss and fails with one fails exactly if content is lost. -/
theorem failsIf_of_ends {lost : Prop} {action : KernelAction config Unit}
    (ends : action.Ends machine (fun _ _ => ¬ lost) (fun _ _ => lost))
    (makesNoRoom : action.MakesNoRoom) : machine.FailsIf lost action := by
  obtain ⟨done, failed, panicked⟩ := Action.ends_iff.mp ends
  cases outcome : action machine with
  | done _ later => exact .inl ⟨⟨later, outcome⟩, done () later outcome⟩
  | failed error later => exact .inr ⟨⟨error, later, outcome⟩, failed error later outcome⟩
  | panicked panic last => exact absurd (panicked panic last outcome) (makesNoRoom _ panic last outcome)

/-- A teardown reports the pages whose content is lost. -/
theorem reports_tearDown (atRest : machine.AtRest) (key : SpaceKey) :
    machine.Reports key (KernelAction.tearDown key) := by
  have ends : (KernelAction.tearDown key).Ends machine
      (fun _ later => later.losses = machine.losses ++
        (machine.turns key (machine.space key).pages.keys).filterMap (machine.lossReport? key))
      (fun _ _ => False) := by
    unfold KernelAction.tearDown
    simp only [Action.ends_bind, KernelAction.ends_space]
    exact (KernelAction.tearDownPages_clears _ (machine.space key).pages.nodup_keys atRest).mono
      (fun _ _ clears => clears.losses) (fun _ _ => id)
  obtain ⟨_, later, done, losses⟩ := ends.completes (KernelAction.makesNoRoom_tearDown key)
  exact ⟨later, done, losses⟩

/-- Dropping a space reports exactly the pages whose content is lost. -/
theorem reports_dropSpace (atRest : machine.AtRest) (key : SpaceKey) :
    machine.Reports key (KernelAction.dropSpace key) := by
  obtain ⟨later, done, losses⟩ := reports_tearDown atRest key
  exact ⟨_, KernelAction.dropSpace_of_tearDown done, losses⟩

/-- A fork that fails ends with the drop of the space that it created. -/
theorem drops_of_unforked (atRest : machine.AtRest) {parent : SpaceKey} {error : VmError}
    {later : Machine config} (failed : KernelAction.forkSpace parent machine = .failed error later) :
    ∃ spoiled : Machine config, spoiled.AtRest ∧
      KernelAction.dropSpace (machine.nextKey parent.subsystem) spoiled = .done () later := by
  have creates := KernelAction.createSpace_ends machine parent.subsystem
  rcases Action.bind_eq_failed_iff.mp failed with early | ⟨child, created, done, failed⟩
  · exact (creates.of_failed early).elim
  obtain ⟨rfl, root, rfl⟩ := creates.of_done done
  have createdRest := addSpace_atRest atRest parent.subsystem root
  have spaceExists : ((machine.addSpace parent.subsystem root).spaces.get?
      (machine.nextKey parent.subsystem)).isSome := by
    rw [spaces_addSpace, OrderedMap.get?_insert_self]
    rfl
  rcases Action.bind_eq_failed_iff.mp failed with early | ⟨result, spoiled, copied, failed⟩
  · exact absurd early Action.attempt_ne_failed
  rcases Action.attempt_eq_done_iff.mp copied with ⟨_, rfl, _⟩ | ⟨cause, rfl, spoils⟩
  · cases failed
  have spoiledRest := ((Action.ends_unwinding.mpr
    (KernelAction.copySpace_ends createdRest spaceExists)).of_failed spoils).1.atRest
  rcases Action.bind_eq_failed_iff.mp failed with early | ⟨_, last, dropped, failed⟩
  · exact ((KernelAction.dropSpace_ends spoiledRest).of_failed early).elim
  · cases failed
    exact ⟨spoiled, spoiledRest, dropped⟩

/-- Between operations, whatever ends a page next reports its loss. -/
theorem AtRest.reportsFailures (atRest : machine.AtRest) : machine.ReportsFailures where
  removed := by
    intro key address known
    obtain ⟨page, found⟩ := Option.isSome_iff_exists.mp known
    have number := atRest.consistent.fits.number_eq found
    rw [← number] at found
    have ends := KernelAction.removePage_settles atRest.consistent found
    rw [number] at ends
    apply failsIf_of_ends _ (KernelAction.makesNoRoom_removePage key (address.page config))
    refine ends.mono (fun _ _ saved lost => lost saved.2) fun _ _ lost => ?_
    rw [lost.2]
    exact Option.some_ne_none _
  unmapped := by
    intro key address region aligned recorded
    obtain ⟨result, later, done, removes⟩ :=
      KernelAction.unmapFile_removesOwned atRest aligned recorded
    have answers := removes.answer_eq atRest.consistent
    cases result with
    | ok =>
      have saved := (report_eq_ok_iff.mp answers.symm).2
      exact .inl ⟨⟨later, done⟩, fun ⟨turn, listed, lost⟩ => lost (saved turn listed)⟩
    | error error =>
      refine .inr ⟨⟨error, later, done⟩, ?_⟩
      by_contra saved
      have none : ∀ turn ∈ machine.turns key (machine.ownedBy key region),
          machine.loss? key turn = none := fun turn listed =>
        by_contra fun lost => saved ⟨turn, listed, lost⟩
      cases answers.trans (report_eq_ok_iff.mpr ⟨rfl, none⟩)
  tornDown key := reports_tearDown atRest key
  dropped key := reports_dropSpace atRest key
  unforked := by
    intro parent error later failed
    obtain ⟨spoiled, spoiledRest, dropped⟩ := drops_of_unforked atRest failed
    exact ⟨spoiled, dropped, reports_dropSpace spoiledRest _⟩

end Machine

/-! ## Write-back in every run -/

/-- What holds of a transition of a run that leads to the machine `next` after the transitions
`earlier`. -/
structure Move.IsAccounted (earlier : List (Move config)) (move : Move config)
    (next : Machine config) : Prop where
  leads : move.transition.Leads move.before next
  /-- What the transition owes to files is attempted, once, and nothing else. -/
  attempts : next.writeAttempts = move.before.writeAttempts ++ move.owed
  ends : ∀ {key : SpaceKey} {number : PageNumber} {frame : FrameNumber},
    move.before.frame? key number = some frame →
      (next.frame? key number ≠ some frame ↔ move.transition.EndsResidency key number)
  dirty : ∀ {key : SpaceKey} {number : PageNumber}, (move.before.frame? key number).isSome →
    ((move.before.space key).isDirty number = true ↔ WrittenSinceResident earlier key number)
  /-- An eviction goes on only if all that was owed was taken. -/
  saved : ∀ {key : SpaceKey} {number : PageNumber} {frame : FrameNumber},
    move.transition = .evict key number frame →
      move.before.loss? key (move.before.evictionTurn number) = none
  data : ∀ {id : FileId}, (∀ contents, move.transition ≠ .setFile id contents) →
    (∀ data, move.transition ≠ .createFile id data) →
      ((next.environment.file id).data = (move.before.environment.file id).data ∨
        ∃ key number, move.transition.EndsResidency key number ∧
          move.before.WritesBack next key number id) ∧
      (next.environment.file id).data.size = (move.before.environment.file id).data.size

/-- The attempts of a chronicle are what was owed on its way, transition by transition. -/
structure Chronicle.IsAccounted (start : Machine config) (episodes : List (Episode config))
    (machine : Machine config) : Prop where
  attempts : machine.writeAttempts =
    start.writeAttempts ++ (Episode.allMoves episodes).flatMap Move.owed
  moves : ∀ {earlier : List (Move config)} {move : Move config} {later : List (Move config)},
    Episode.allMoves episodes = earlier ++ move :: later →
      ∃ next, move.IsAccounted earlier next ∧ Trail next later machine
  dirty : ∀ {key : SpaceKey} {number : PageNumber}, (machine.frame? key number).isSome →
    ((machine.space key).isDirty number = true ↔
      WrittenSinceResident (Episode.allMoves episodes) key number)
  due : ∀ episode ∈ episodes, ∀ move ∈ episode.moves,
    move.transition.IsDueTo episode.operation move.before

/-- On every chronicle that begins without resident pages, the attempts are what was owed, and the
pages that count as written to are those that were written to. -/
theorem Chronicle.isAccounted {start machine : Machine config} {episodes : List (Episode config)}
    (chronicle : Chronicle start episodes machine) (consistent : start.Consistent)
    (fresh : ∀ key number, start.frame? key number = none) :
    Chronicle.IsAccounted start episodes machine where
  attempts := chronicle.trail.writeAttempts_eq
  dirty := chronicle.trail.isDirty_iff consistent fresh
  due := chronicle.isDueTo
  moves := by
    intro earlier move later parts
    have listed : move ∈ Episode.allMoves episodes :=
      parts ▸ List.mem_append_right _ List.mem_cons_self
    have trail := chronicle.trail
    rw [parts] at trail
    obtain ⟨before, next, leads, after⟩ := trail.split
    have beforeConsistent := (before.consistent consistent).1
    have beforeReach := (chronicle.filesReach consistent (Machine.filesReach_of_fresh fresh)).2 move
      listed
    refine ⟨next, ?_, after⟩
    exact {
      leads := leads
      attempts := leads.writeAttempts_eq
      ends := leads.frame?_ne_iff beforeConsistent
      dirty := before.isDirty_iff consistent fresh
      saved := fun {_ _ _} isEvict => by
        rw [isEvict] at leads
        exact leads.loss?_of_evict
      data := fun {_} unset uncreated =>
        ⟨leads.data_eq_or_writesBack beforeConsistent unset uncreated,
          leads.size_eq beforeConsistent beforeReach unset uncreated⟩ }

/-- In every run, pages of files are written back exactly when they have to be, failures are reported,
and no operation on user memory changes the length of a file. -/
theorem Run.writes_back_exactly {frames slots : Nat} {log : OperationLog config}
    {machine : Machine config} (run : Run (.boot config frames slots) log machine) :
    (∃ episodes, Chronicle (.boot config frames slots) episodes machine ∧
      episodes.map Episode.entry = log) ∧
    (∀ episodes, Chronicle (.boot config frames slots) episodes machine →
      Chronicle.IsAccounted (.boot config frames slots) episodes machine) ∧
    machine.ReportsFailures ∧
    (∀ (middle : Machine config) subsystem held panic last, middle.Consistent →
      KernelAction.acquireFrame subsystem held middle = .panicked panic last →
        middle.LacksRoom subsystem panic last) ∧
    ∀ (operation : Operation config) result later, operation.IsPermitted machine →
      operation.Yields machine result later → (∀ data, operation ≠ .createFile data) →
        ∀ id, (∀ offset bytes, operation ≠ .writeFile id offset bytes) →
          (later.environment.file id).data.size = (machine.environment.file id).data.size := by
  have bootConsistent := Machine.boot_consistent config frames slots
  have chronicles := run.chronicle (boot_atRest config frames slots)
  refine ⟨chronicles, ?_, run.atRest.reportsFailures, ?_, ?_⟩
  · exact fun episodes chronicle => chronicle.isAccounted bootConsistent fun _ _ => rfl
  · exact fun middle subsystem held panic last consistent stopped =>
      KernelAction.acquireFrame_stops consistent stopped
  · intro operation result later permitted yields uncreated id unwritten
    obtain ⟨episodes, chronicle, _⟩ := chronicles
    have reach := (chronicle.filesReach bootConsistent (Machine.filesReach_of_fresh fun _ _ => rfl)).1
    obtain ⟨moves, trail, takes⟩ := ((yields.performs run.atRest permitted).path run.atRest).trail
    exact trail.size_eq run.atRest.consistent reach (fun move listed => (takes move listed).isDueTo)
      unwritten uncreated

/-- The program on three frames writes pages of its mapping back, and accounts for each attempt. -/
theorem Run.writes_back_exactly_crowded : ∃ log machine episodes,
    performAll crowdedProgram (.boot .small 3 8) = some (log, machine) ∧
    Chronicle (.boot .small 3 8) episodes machine ∧
    Chronicle.IsAccounted (.boot .small 3 8) episodes machine ∧
    machine.writeAttempts ≠ [] ∧ machine.ReportsFailures := by
  have performed : ((performAll crowdedProgram (.boot .small 3 8)).any fun (_, machine) =>
      !machine.writeAttempts.isEmpty) = true := by
    decide +kernel
  obtain ⟨⟨log, machine⟩, outcome, attempted⟩ := (Option.any_eq_true _ _).mp performed
  obtain ⟨⟨episodes, chronicle, _⟩, accounted, reports, _⟩ :=
    Run.writes_back_exactly (Run.nil.append outcome)
  refine ⟨log, machine, episodes, outcome, chronicle, accounted episodes chronicle, ?_, reports⟩
  rintro none
  simp [none] at attempted

end DemandPaging
