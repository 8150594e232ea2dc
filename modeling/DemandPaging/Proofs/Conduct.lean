import DemandPaging.Proofs.Run
import DemandPaging.Proofs.Trail

/-!
# Which transitions each operation takes

`Operation.Takes` lists the transitions that an operation may take on its way, and `Chronicle` is a run
that remembers the transitions of each of its operations. What holds of every transition that an
operation may take holds of the operation, and what one of its transitions preserves, a run does.
-/

namespace DemandPaging

variable {config : Config}

namespace Transition

/-- A page of a space is used, loaded if it has to be. -/
def Consults (key : SpaceKey) (transition : Transition config) : Prop :=
  ∃ number, transition.Accesses key number

/-- What is known of a file changes, and only as given. -/
def Revises (file : FileId) (revise : File → File) (current : Machine config)
    (transition : Transition config) : Prop :=
  transition = .setFile file (revise (current.environment.file file))

/-- A fork creates a space, copies its model to it, and may have to drop it again. -/
def Forks (child parent : SpaceKey) (transition : Transition config) : Prop :=
  transition = .create child ∨ transition.Clones child parent ∨ transition.Drops child

end Transition

/-- The transitions that a request of a space takes from a machine. -/
def SpaceRequest.Takes (key : SpaceKey) (current : Machine config) (transition : Transition config) :
    SpaceRequest config → Prop
  | .allocate request address writable _ =>
    (∃ initializer, transition = .listInitializer initializer) ∨
      ∃ target initializer, request.Grants target ∧
        transition = .register key (Page.awaiting (address.page config) writable target initializer)
  | .claim address => transition.Accesses key (address.page config)
  | .remove address => transition = .discard key (address.page config)
  | .fault access | .userFault access => transition.Accesses key (access.address.page config)
  | .recordStackPointer _ => transition = .set key
  | .read _ _ => transition.Consults key
  | .write _ _ => transition.Copies key
  | .map _ _ _ file _ =>
    (∃ event, transition = .note event) ∨
      transition.Revises file (fun contents => { contents with reopens := contents.reopens + 1 })
        current ∨
      transition = .set key ∨
      ∃ plan : MappingPlan, plan.handle.file = file ∧ transition.Registers key plan
  | .unmap _ | .tearDown => transition.Empties key

/-- The transitions that an operation, performed on the machine `start`, takes from a machine. -/
def Operation.Takes (start current : Machine config) (transition : Transition config) :
    Operation config → Prop
  | .create subsystem => transition = .create (start.nextKey subsystem)
  | .drop key => transition.Drops key
  | .fork parent => transition.Forks (start.nextKey parent.subsystem) parent
  | .copy child parent => transition.Clones child parent
  | .request key asked => asked.Takes key current transition
  | .shutdown _ => False
  | .takeFrame => ∃ frame, transition = .lend frame
  | .returnFrame => ∃ frame, transition = .reclaim frame
  | .createFile data => ∃ file, transition = .createFile file data
  | .closeFile file =>
    transition.Revises file (fun contents => { contents with creatorHolds := false }) current
  | .writeFile file offset bytes => transition.Revises file (·.store offset bytes) current
  | .setFileFaults file change =>
    transition.Revises file (fun contents => { contents with faults := change contents.faults })
      current
  | .setSwapFaults _ _ _ => transition = .setSwapFaults

/-! ## The ways of the operations -/

namespace Machine

variable {key : SpaceKey} {base : VirtualAddress} {chunks : List Chunk}
  {machine later : Machine config}

/-- A copy from user memory consults the pages of its space only. -/
theorem ReadsChunks.consults {buffer : Bytes} {result : Bytes × Except VmError Unit}
    (reads : ReadsChunks key base chunks buffer machine result later) (atRest : machine.AtRest) :
    Passes (Transition.Consults key) machine later := by
  induction reads with
  | done => exact .refl atRest
  | chunk _ _ accessed _ _ _ inductionHypothesis =>
    have first := (accessed.passes atRest).mono
      fun transition accesses => (⟨_, accesses⟩ : transition.Consults key)
    exact first.trans (inductionHypothesis first.atRest)
  | denied denied => exact (denied.passes atRest).mono fun _ accesses => ⟨_, accesses⟩

/-- The transitions of a mapping, each with what it does to the file. -/
theorem MapsFile.path {plan : MappingPlan} {range : PageRange}
    (maps : MapsFile key plan range machine later) (atRest : machine.AtRest)
    (spaceExists : (machine.spaces.get? key).isSome) {address : VirtualAddress} {length : Word}
    {writable : Bool} {offset : Word} :
    Path (fun current transition => SpaceRequest.Takes key current transition
      (.map address length writable plan.handle.file offset)) machine later := by
  have reopens : (Transition.setFile plan.handle.file { machine.environment.file plan.handle.file with
      reopens := plan.handle.serial }).Leads machine (machine.reopened plan.handle) := .setFile
  have opened : Passes (fun _ => True) machine (machine.reopened plan.handle) :=
    .single atRest reopens trivial
  have registers := registers_withPages opened.atRest spaceExists maps.fits maps.vacant
  rw [maps.maps]
  refine (Path.trans (.single reopens ?_) (registers.path.mono ?_)).trans
    (.single (.set fun _ => rfl) ?_)
  · rw [maps.fresh]
    exact .inr (.inl rfl)
  · exact fun _ _ registered => .inr (.inr (.inr ⟨plan, rfl, registered⟩))
  · exact .inr (.inr (.inl rfl))

/-- A mapping that failed took transitions of its kind only. -/
theorem LeavesUnmapped.path {file : FileId} (leaves : machine.LeavesUnmapped file later)
    {address : VirtualAddress} {length : Word} {writable : Bool} {offset : Word} :
    Path (fun current transition => SpaceRequest.Takes key current transition
      (.map address length writable file offset)) machine later := by
  have reopens : ∀ {handle : FileHandle}, handle.file = file →
      handle.serial = (machine.environment.file file).reopens + 1 →
      Path (fun current transition => SpaceRequest.Takes key current transition
        (.map address length writable file offset)) machine (machine.reopened handle) := by
    rintro ⟨opened, serial⟩ opens fresh
    obtain rfl : opened = file := opens
    obtain rfl : serial = _ := fresh
    exact .single .setFile (.inr (.inl rfl))
  cases leaves with
  | refused => exact .refl
  | opened opens fresh => exact reopens opens fresh
  | undone opens fresh => exact .step (reopens opens fresh) (.note rfl) (.inl ⟨_, rfl⟩)

/-- The transitions of removing a mapping: its record goes first. -/
theorem UnmapsFile.path {start : PageNumber} {region : Region}
    (unmaps : UnmapsFile key start region machine later) :
    Path (fun _ => Transition.Empties key) machine later :=
  .trans (.single (machine.unrecorded_leads key start) (.inr rfl))
    (unmaps.passes.path.mono fun _ _ => .inl)

end Machine

/-- Every request takes transitions of its own kind only. -/
theorem SpaceRequest.Performs.path {key : SpaceKey} {asked : SpaceRequest config}
    {machine later : Machine config} {result : Except VmError Answer}
    (performs : asked.Performs key machine result later) (atRest : machine.AtRest)
    (spaceExists : (machine.spaces.get? key).isSome) :
    Path (fun current transition => asked.Takes key current transition) machine later := by
  have lists : ∀ (request : TargetRequest) (address : VirtualAddress) (writable : Bool)
      (body : Option (InitializerBody config)),
      Path (fun current transition => SpaceRequest.Takes key current transition
        (.allocate request address writable body)) machine (machine.listed body) := by
    intro request address writable body
    unfold Machine.listed
    split
    · exact .single .listInitializer (.inl ⟨_, rfl⟩)
    · exact .refl
  cases performs with
  | refused | unremoved | notUnmapped => exact .refl
  | listed => exact lists ..
  | allocated grants registers =>
    exact .step (lists ..) registers (.inr ⟨_, _, grants, rfl⟩)
  | claimed _ accessed | resolved accessed | retried accessed =>
    exact (accessed.passes atRest).path
  | unclaimed passes => exact passes.path.mono fun _ _ isQuiet => .inl (.inl isQuiet)
  | removed _ leads => exact .single leads rfl
  | unresolved denied => exact (denied.passes atRest).path
  | exited denied => exact .step (denied.passes atRest).path (.note rfl) (.inl (.inl trivial))
  | pointed => exact .single (.set fun _ => rfl) rfl
  | read reads => exact (reads.consults atRest).path
  | written writes => exact (writes.passes atRest).path
  | mapped maps _ _ source => exact source ▸ maps.path atRest spaceExists
  | unmappable leaves => exact leaves.path
  | unmapped _ unmaps => exact unmaps.path
  | tornDown passes => exact passes.path

/-- Every operation is a path of the transitions that it may take. -/
theorem Operation.Performs.path {operation : Operation config} {machine later : Machine config}
    {result : Except VmError Answer} (performs : operation.Performs machine result later)
    (atRest : machine.AtRest) :
    Path (fun current transition => operation.Takes machine current transition) machine later := by
  cases performs with
  | refused | idle | noFrame => exact .refl
  | created => exact .single .create rfl
  | dropped passes => exact passes.path
  | forked forks =>
    cases forks with
    | done creates _ passes =>
      subst creates
      exact Path.trans (.single .create (.inl rfl))
        (passes.path.mono fun _ _ clones => .inr (.inl clones))
  | unforked forks =>
    cases forks with
    | undone creates _ passes drops =>
      subst creates
      exact (Path.trans (.single .create (.inl rfl))
        (passes.path.mono fun _ _ clones => .inr (.inl clones))).trans
          (drops.path.mono fun _ _ drops => .inr (.inr drops))
  | copied _ passes => exact passes.path
  | requested spaceExists performs => exact performs.path atRest spaceExists
  | tookFrame leads => exact .single leads ⟨_, rfl⟩
  | returnedFrame leads => exact .single leads ⟨_, rfl⟩
  | createdFile leads => exact .single leads ⟨_, rfl⟩
  | closedFile | wroteFile | setFileFaults => exact .single .setFile rfl
  | setSwapFaults leads => exact .single leads rfl

/-! ## Runs with their transitions -/

/-- An operation of a run: the machine on which it was performed, how it ended, and the transitions
that it took. -/
structure Episode (config : Config) where
  operation : Operation config
  result : Except VmError Answer
  start : Machine config
  moves : List (Move config)

/-- The transitions of a sequence of episodes. -/
def Episode.allMoves (episodes : List (Episode config)) : List (Move config) :=
  episodes.flatMap Episode.moves

/-- What is known of an operation of a run that led to the machine `next`. -/
structure Episode.Leads (episode : Episode config) (next : Machine config) : Prop where
  permitted : episode.operation.IsPermitted episode.start
  yields : episode.operation.Yields episode.start episode.result next
  trail : Trail episode.start episode.moves next
  takes : ∀ move ∈ episode.moves,
    episode.operation.Takes episode.start move.before move.transition

/-- A run that remembers its transitions. -/
inductive Chronicle (start : Machine config) : List (Episode config) → Machine config → Prop where
  | nil : Chronicle start [] start
  | step {episodes : List (Episode config)} {machine later : Machine config}
      {operation : Operation config} {result : Except VmError Answer} {moves : List (Move config)}
      (prior : Chronicle start episodes machine) (permitted : operation.IsPermitted machine)
      (yields : operation.Yields machine result later) (trail : Trail machine moves later)
      (takes : ∀ move ∈ moves, operation.Takes machine move.before move.transition) :
    Chronicle start (episodes ++ [⟨operation, result, machine, moves⟩]) later

/-- What a run performed, apart from its transitions. -/
def Episode.entry (episode : Episode config) : Operation config × Except VmError Answer :=
  (episode.operation, episode.result)

/-- Every run has a chronicle. -/
theorem Run.chronicle {start machine : Machine config} {log : OperationLog config}
    (run : Run start log machine) (atRest : start.AtRest) :
    ∃ episodes, Chronicle start episodes machine ∧ episodes.map Episode.entry = log := by
  induction run with
  | nil => exact ⟨[], .nil, rfl⟩
  | step prior permitted yields inductionHypothesis =>
    obtain ⟨episodes, chronicle, entries⟩ := inductionHypothesis
    have before := prior.atRest_of_start atRest
    obtain ⟨moves, trail, takes⟩ := ((yields.performs before permitted).path before).trail
    refine ⟨_, .step chronicle permitted yields trail takes, ?_⟩
    rw [List.map_append, entries]
    rfl

namespace Chronicle

variable {start machine : Machine config} {episodes : List (Episode config)}

/-- A chronicle is a run. -/
theorem run (chronicle : Chronicle start episodes machine) :
    Run start (episodes.map Episode.entry) machine := by
  induction chronicle with
  | nil => exact .nil
  | step _ permitted yields _ _ inductionHypothesis =>
    rw [List.map_append]
    exact inductionHypothesis.step permitted yields

/-- The transitions of a chronicle are one trail. -/
theorem trail (chronicle : Chronicle start episodes machine) :
    Trail start (Episode.allMoves episodes) machine := by
  induction chronicle with
  | nil => exact .refl
  | step _ _ _ trail _ inductionHypothesis =>
    simpa [Episode.allMoves] using inductionHypothesis.trans trail

/-- One chronicle goes on where another one ends. -/
theorem append {middle last : Machine config} {more : List (Episode config)}
    (first : Chronicle start episodes middle) (second : Chronicle middle more last) :
    Chronicle start (episodes ++ more) last := by
  induction second with
  | nil => simpa using first
  | step _ permitted yields trail takes inductionHypothesis =>
    rw [← List.append_assoc]
    exact .step inductionHypothesis permitted yields trail takes

/-- A chronicle passes through the machine on which each of its operations was performed. -/
theorem split {episode : Episode config} {later : List (Episode config)}
    (chronicle : Chronicle start (episodes ++ episode :: later) machine) :
    Chronicle start episodes episode.start ∧
      ∃ next, episode.Leads next ∧ Chronicle next later machine := by
  generalize whole : episodes ++ episode :: later = all at chronicle
  induction chronicle generalizing later with
  | nil => cases episodes <;> cases whole
  | step prior permitted yields trail takes inductionHypothesis =>
    rcases List.eq_nil_or_concat later with rfl | ⟨front, final, rfl⟩
    · obtain ⟨rfl, same⟩ := List.append_inj' whole rfl
      cases same
      exact ⟨prior, _, ⟨permitted, yields, trail, takes⟩, .nil⟩
    · rw [List.concat_eq_append, ← List.cons_append, ← List.append_assoc] at whole
      obtain ⟨rfl, same⟩ := List.append_inj' whole rfl
      cases same
      obtain ⟨before, next, leads, rest⟩ := inductionHypothesis rfl
      rw [List.concat_eq_append]
      exact ⟨before, next, leads, .step rest permitted yields trail takes⟩

end Chronicle

end DemandPaging
