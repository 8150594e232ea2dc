import DemandPaging.Proofs.Course.Access

/-!
# The courses of operations

Every operation requests its frames one at a time, and it claims only the pages that it is asked to
reach. So every run from a fresh machine has a chronicle that is orderly throughout.
-/

namespace DemandPaging

variable {config : Config}

/-- The pages of its space that a request reaches for. -/
def SpaceRequest.Reaches (number : PageNumber) : SpaceRequest config → Prop
  | .claim address => number = address.page config
  | .fault access | .userFault access => number = access.address.page config
  | .read address buffer => number.IsTouched config address.word.toNat 0 buffer.size
  | .write address bytes => number.IsTouched config address.word.toNat 0 bytes.size
  | _ => False

/-- The pages that an operation reaches for. -/
def Operation.Reaches (key : SpaceKey) (number : PageNumber) : Operation config → Prop
  | .request space asked => space = key ∧ asked.Reaches number
  | _ => False

namespace Transition

/-- A transition that requests no frame and claims no page. -/
def IsFrugal : Transition config → Prop
  | .take _ _ | .evict _ _ _ | .load _ _ _ | .spoil _ _ _ _ => False
  | _ => True

variable {transition : Transition config}

/-- A frugal transition acquires no frame. -/
theorem IsFrugal.not_acquires (isFrugal : transition.IsFrugal) (subsystem : Subsystem)
    (frame : FrameNumber) : ¬ transition.Acquires subsystem frame := by
  rintro (_ | _) <;> exact isFrugal

/-- A frugal transition claims no page. -/
theorem IsFrugal.not_claims (isFrugal : transition.IsFrugal) (key : SpaceKey)
    (number : PageNumber) : ¬ transition.Claims key number := by
  cases transition <;> first | exact id | exact isFrugal.elim

/-- A space is emptied without frames of its own. -/
theorem Empties.isFrugal {key : SpaceKey} (empties : transition.Empties key) :
    transition.IsFrugal := by
  rcases empties with discards | rfl
  · cases transition <;> first | exact trivial | exact discards.elim
  · exact trivial

/-- A space is dropped without frames of its own. -/
theorem Drops.isFrugal {key : SpaceKey} (drops : transition.Drops key) : transition.IsFrugal := by
  rcases drops with empties | rfl
  · exact empties.isFrugal
  · exact trivial

/-- A fork claims no page. -/
theorem Spawns.claimsOnly {child parent key : SpaceKey} {pages : PageNumber → Prop}
    (spawns : transition.Spawns child parent) : transition.ClaimsOnly key pages := by
  cases spawns with
  | create => exact fun _ _ => False.elim
  | clone clones => exact fun probe other isClaim => (clones.2 probe other isClaim).2.elim
  | drop drops => exact fun probe other isClaim => absurd isClaim (drops.isFrugal.not_claims _ _)

end Transition

/-- The transitions that an operation took: it may take them, they are orderly, and no page is claimed
that the operation does not reach for. -/
structure Operation.Proceeds (operation : Operation config) (machine later : Machine config)
    (moves : List (Move config)) : Prop where
  trail : Trail machine moves later
  orderly : IsOrderly moves
  takes : ∀ move ∈ moves, operation.Takes machine move.before move.transition
  claims : ∀ move ∈ moves, ∀ key number, move.transition.Claims key number →
    operation.Reaches key number

/-- An operation that neither requests a frame nor claims a page. -/
def Operation.IsFrugal : Operation config → Prop
  | .fork _ | .copy _ _ => False
  | .request _ (.claim _) | .request _ (.fault _) | .request _ (.userFault _)
  | .request _ (.read _ _) | .request _ (.write _ _) => False
  | _ => True

/-- A frugal operation takes only frugal transitions. -/
theorem SpaceRequest.isFrugal_of_takes {key : SpaceKey} {asked : SpaceRequest config}
    (isFrugal : (Operation.request key asked).IsFrugal) {current : Machine config}
    {transition : Transition config} (takes : asked.Takes key current transition) :
    transition.IsFrugal := by
  cases asked with
  | claim | fault | userFault | read | write => exact isFrugal.elim
  | allocate =>
    rcases takes with ⟨_, rfl⟩ | ⟨_, _, _, rfl⟩
    · exact trivial
    · exact trivial
  | remove | recordStackPointer =>
    subst takes
    exact trivial
  | map =>
    rcases takes with ⟨_, rfl⟩ | revises | rfl | ⟨_, _, _, _, rfl⟩
    · exact trivial
    · exact revises ▸ trivial
    · exact trivial
    · exact trivial
  | unmap | tearDown => exact takes.isFrugal

namespace Operation

variable {operation : Operation config} {machine later : Machine config}

/-- An operation that needs no frame takes none but frugal transitions. -/
theorem IsFrugal.of_takes (isFrugal : operation.IsFrugal) {start current : Machine config}
    {transition : Transition config} (takes : operation.Takes start current transition) :
    transition.IsFrugal := by
  cases operation with
  | create | setSwapFaults =>
    subst takes
    exact trivial
  | takeFrame | returnFrame | createFile =>
    obtain ⟨_, rfl⟩ := takes
    exact trivial
  | closeFile | writeFile | setFileFaults =>
    unfold Takes Transition.Revises at takes
    subst takes
    exact trivial
  | drop => exact Transition.Drops.isFrugal takes
  | fork | copy => exact isFrugal.elim
  | shutdown => exact takes.elim
  | request key asked => exact asked.isFrugal_of_takes isFrugal takes

/-- Where no frame is requested and no page claimed, every way of permitted transitions is orderly.
-/
theorem IsFrugal.proceeds (isFrugal : operation.IsFrugal) {result : Except VmError Answer}
    (performs : operation.Performs machine result later) (atRest : machine.AtRest) :
    ∃ moves, operation.Proceeds machine later moves := by
  obtain ⟨moves, trail, takes⟩ := (performs.path atRest).trail
  refine ⟨moves, trail, isOrderly_of_not_acquires fun move listed => ?_, takes,
    fun move listed key number claims => ?_⟩
  · exact (isFrugal.of_takes (takes move listed)).not_acquires
  · exact absurd claims ((isFrugal.of_takes (takes move listed)).not_claims key number)

/-- A course of permitted transitions is how an operation proceeds. -/
theorem proceeds_of_course (course : Course (fun transition =>
      (∀ current, operation.Takes machine current transition) ∧
        ∀ key number, transition.Claims key number → operation.Reaches key number) machine later) :
    ∃ moves, operation.Proceeds machine later moves := by
  obtain ⟨moves, trail, orderly, permitted⟩ := course.way
  exact ⟨moves, trail, orderly, fun move listed => (permitted move listed).1 _,
    fun move listed => (permitted move listed).2⟩

end Operation

namespace KernelAction

open Machine

variable {key : SpaceKey} {machine : Machine config}

/-- What an operation does in a space that may not exist. -/
theorem withSpace_proceeds {operation : Operation config} (atRest : machine.AtRest)
    {action : KernelAction config Answer}
    (proceeds : (machine.spaces.get? key).isSome → action.Ends machine
      (fun _ later => ∃ moves, operation.Proceeds machine later moves)
      (fun _ later => ∃ moves, operation.Proceeds machine later moves)) :
    (withSpace key action).Ends machine
      (fun _ later => ∃ moves, operation.Proceeds machine later moves)
      (fun _ later => ∃ moves, operation.Proceeds machine later moves) :=
  withSpace_ends.mpr ⟨proceeds, fun _ => Operation.proceeds_of_course (.refl atRest)⟩

/-- A request that approaches one page. -/
theorem proceeds_of_approaches {asked : SpaceRequest config} {number : PageNumber}
    {later : Machine config} (course : Course (Transition.Approaches key number) machine later)
    (takes : ∀ current transition, transition.Accesses key number →
      asked.Takes key current transition) (reaches : asked.Reaches number) :
    ∃ moves, (Operation.request key asked).Proceeds machine later moves :=
  Operation.proceeds_of_course (course.mono fun transition approaches =>
    ⟨fun current => takes current transition approaches.1, fun probe other claims => by
      obtain ⟨rfl, rfl⟩ := approaches.2 probe other claims
      exact ⟨rfl, reaches⟩⟩)

/-- A request on a machine at rest requests its frames one at a time. -/
theorem request_proceeds (atRest : machine.AtRest) (spaceExists : (machine.spaces.get? key).isSome)
    (asked : SpaceRequest config) :
    (asked.perform key).Ends machine
      (fun _ later => ∃ moves, (Operation.request key asked).Proceeds machine later moves)
      (fun _ later => ∃ moves, (Operation.request key asked).Proceeds machine later moves) := by
  have frugal : (Operation.request key asked).IsFrugal → (asked.perform key).Ends machine
      (fun _ later => ∃ moves, (Operation.request key asked).Proceeds machine later moves)
      (fun _ later => ∃ moves, (Operation.request key asked).Proceeds machine later moves) :=
    fun isFrugal => (request_ends atRest spaceExists asked).mono
      (fun _ _ performs => isFrugal.proceeds (.requested spaceExists performs) atRest)
      (fun _ _ performs => isFrugal.proceeds (.requested spaceExists performs) atRest)
  cases asked with
  | allocate | remove | recordStackPointer | map | unmap | tearDown => exact frugal trivial
  | claim address =>
    simp only [SpaceRequest.perform, Action.ends_bind, Action.ends_pure]
    exact (claimAddress_course atRest address).mono
      (fun _ _ course => proceeds_of_approaches course (fun _ _ => id) rfl)
      (fun _ _ course => proceeds_of_approaches course (fun _ _ => id) rfl)
  | fault access =>
    simp only [SpaceRequest.perform, Action.ends_bind, Action.ends_pure]
    exact (handleFault_course atRest spaceExists access).mono
      (fun _ _ course => proceeds_of_approaches course (fun _ _ => id) rfl)
      (fun _ _ course => proceeds_of_approaches course (fun _ _ => id) rfl)
  | userFault access =>
    simp only [SpaceRequest.perform, handleUserFault, Action.ends_map, Action.ends_bind,
      Action.ends_attempt]
    refine (handleFault_course atRest spaceExists access).mono ?_ ?_
    · exact fun _ _ course => proceeds_of_approaches course (fun _ _ => id) rfl
    · intro error later course
      have noted := course.trans (.single course.atRest
        (.note (rfl : (Event.unresolvedFault access.address access.cause error).isNote = true))
        ⟨.inl (.inl trivial), fun _ _ => False.elim⟩)
      exact proceeds_of_approaches noted (fun _ _ => id) rfl
  | read address buffer =>
    simp only [SpaceRequest.perform, Action.ends_bind]
    refine (copyFromUser_course atRest spaceExists buffer).mono ?_ (fun _ _ => False.elim)
    intro _ later course
    refine Operation.proceeds_of_course (course.mono fun _ consults =>
      ⟨fun _ => consults.1, fun probe other claims => ?_⟩)
    obtain ⟨rfl, touched⟩ := consults.2 probe other claims
    exact ⟨rfl, touched⟩
  | write address bytes =>
    simp only [SpaceRequest.perform, Action.ends_bind, Action.ends_pure]
    have proceeds : ∀ later, Course (Transition.CopiesWithin key
        (·.IsTouched config address.word.toNat 0 bytes.size)) machine later →
        ∃ moves, (Operation.request key (.write address bytes)).Proceeds machine later moves := by
      intro later course
      refine Operation.proceeds_of_course (course.mono fun _ copies =>
        ⟨fun _ => copies.1, fun probe other claims => ?_⟩)
      obtain ⟨rfl, touched⟩ := copies.2 probe other claims
      exact ⟨rfl, touched⟩
    exact (copyToUser_course atRest spaceExists bytes).mono (fun _ => proceeds) (fun _ => proceeds)

end KernelAction

namespace Operation

open KernelAction

variable {machine later : Machine config}

/-- An operation on a machine at rest requests its frames one at a time. -/
theorem perform_proceeds (atRest : machine.AtRest) (operation : Operation config)
    (permitted : operation.IsPermitted machine) :
    operation.perform.Ends machine
      (fun _ later => ∃ moves, operation.Proceeds machine later moves)
      (fun _ later => ∃ moves, operation.Proceeds machine later moves) := by
  have frugal : operation.IsFrugal → operation.perform.Ends machine
      (fun _ later => ∃ moves, operation.Proceeds machine later moves)
      (fun _ later => ∃ moves, operation.Proceeds machine later moves) :=
    fun isFrugal => (perform_ends atRest operation permitted).mono
      (fun _ _ performs => isFrugal.proceeds performs atRest)
      (fun _ _ performs => isFrugal.proceeds performs atRest)
  cases operation with
  | create | drop | shutdown | takeFrame | returnFrame | createFile | closeFile | writeFile
  | setFileFaults | setSwapFaults => exact frugal trivial
  | request key asked =>
    exact withSpace_proceeds atRest fun spaceExists => request_proceeds atRest spaceExists asked
  | fork parent =>
    refine withSpace_proceeds atRest fun _ => ?_
    simp only [Action.ends_bind]
    have proceeds : ∀ later, Course (Transition.Spawns (machine.nextKey parent.subsystem) parent)
        machine later → ∃ moves, (Operation.fork parent).Proceeds machine later moves := by
      refine fun later course => proceeds_of_course (course.mono fun transition spawns =>
        ⟨fun _ => ?_, fun _ _ claims => ?_⟩)
      · cases spawns with
        | create => exact .inl rfl
        | clone clones => exact .inr (.inl clones.1)
        | drop drops => exact .inr (.inr drops)
      · have none : transition.ClaimsOnly parent fun _ => False := spawns.claimsOnly
        exact (none _ _ claims).2.elim
    exact (forkSpace_course atRest).mono (fun _ _ ⟨course, _⟩ => proceeds _ course)
      (fun _ _ ⟨course, _⟩ => proceeds _ course)
  | copy child parent =>
    refine withSpace_proceeds atRest fun childExists => ?_
    refine withSpace_proceeds atRest fun _ => ?_
    simp only [Action.ends_bind, Action.ends_pure]
    have proceeds : ∀ later, Course (Transition.ClonesOnly child parent) machine later →
        ∃ moves, (Operation.copy child parent).Proceeds machine later moves :=
      fun later course => proceeds_of_course (course.mono fun _ clones =>
        ⟨fun _ => clones.1, fun _ _ claims => (clones.2 _ _ claims).2.elim⟩)
    exact (copySpace_course atRest childExists).mono (fun _ _ ⟨course, _⟩ => proceeds _ course)
      (fun _ _ ⟨course, _⟩ => proceeds _ course)

/-- However an operation ends, its transitions were orderly and claimed nothing but what it reaches
for. -/
theorem Yields.proceeds {operation : Operation config} {result : Except VmError Answer}
    (yields : operation.Yields machine result later) (atRest : machine.AtRest)
    (permitted : operation.IsPermitted machine) :
    ∃ moves, operation.Proceeds machine later moves := by
  have ends := perform_proceeds atRest operation permitted
  cases result with
  | ok answer => exact ends.of_done yields
  | error error => exact ends.of_failed yields

end Operation

/-- No operation of a chronicle claims a page that it does not reach for. -/
def Episode.Abides (episode : Episode config) : Prop :=
  ∀ move ∈ episode.moves, ∀ key number, move.transition.Claims key number →
    episode.operation.Reaches key number

/-- Every run has a chronicle in which frames are requested one at a time and only pages are claimed
that an operation reaches for. -/
theorem Run.orderly_chronicle {start machine : Machine config} {log : OperationLog config}
    (run : Run start log machine) (atRest : start.AtRest) :
    ∃ episodes, Chronicle start episodes machine ∧ episodes.map Episode.entry = log ∧
      IsOrderly (Episode.allMoves episodes) ∧ ∀ episode ∈ episodes, episode.Abides := by
  induction run with
  | nil => exact ⟨[], .nil, rfl, trivial, fun _ listed => absurd listed List.not_mem_nil⟩
  | step prior permitted yields inductionHypothesis =>
    obtain ⟨episodes, chronicle, entries, orderly, abide⟩ := inductionHypothesis
    obtain ⟨moves, proceeds⟩ := yields.proceeds (prior.atRest_of_start atRest) permitted
    refine ⟨_, .step chronicle permitted yields proceeds.trail proceeds.takes, ?_, ?_, ?_⟩
    · rw [List.map_append, entries]
      rfl
    · simpa [Episode.allMoves] using orderly.append proceeds.orderly
    · intro episode listed
      rcases List.mem_append.mp listed with earlier | last
      · exact abide episode earlier
      · exact List.mem_singleton.mp last ▸ proceeds.claims

end DemandPaging
