import DemandPaging.Proofs.Conduct
import DemandPaging.Proofs.Ownership
import DemandPaging.Proofs.Replica

/-!
# The records of mappings

Only mapping a file makes a record; removing a mapping, tearing a space down and dropping it end
records, and copying a space copies them. So every record is under the first page of its mapping, and
that page begins at an address.
-/

namespace DemandPaging

variable {config : Config}

namespace Machine

variable {machine later : Machine config} {key : SpaceKey}

/-- A change of one space can change the records of that space only. -/
theorem regions_updateSpace (change : Space config → Space config) (probe : SpaceKey) :
    (machine.updateSpace key change).regions probe =
      if probe = key ∧ (machine.spaces.get? key).isSome then (change (machine.space key)).regions
      else machine.regions probe := by
  by_cases known : (machine.spaces.get? key).isSome
  · unfold regions
    rw [space_updateSpace known]
    by_cases here : probe = key <;> simp [here, known]
  · have absent := Option.not_isSome_iff_eq_none.mp known
    have same : (machine.updateSpace key change).spaces = machine.spaces :=
      OrderedMap.modify_of_fixed fun _ present => nomatch absent.symm.trans present
    rw [if_neg fun here => known here.2, regions_congr same]

/-- Every mapping is recorded under its first page, which begins at an address. -/
def RegionsPlaced (machine : Machine config) : Prop :=
  ∀ key start region, (machine.regions key).get? start = some region →
    region.range.start = start ∧ start.word.toNat * config.pageSize < Word.modulus

/-- Forgetting the record of a mapping concerns one record of one space. -/
theorem regions_unrecorded (start : PageNumber) (probe : SpaceKey) :
    (machine.unrecorded key start).regions probe =
      if probe = key then (machine.regions key).erase start else machine.regions probe := by
  rw [unrecorded, regions_updateSpace]
  by_cases here : probe = key
  · subst here
    cases known : machine.spaces.get? probe with
    | some space => simp [regions]
    | none =>
      have empty : machine.regions probe = .empty :=
        regions_of_unknown (by rw [registration, known]; rfl)
      simp only [Option.isSome_none, Bool.false_eq_true, and_false, if_false, if_true, empty]
      rfl
  · simp [here]

/-- A mapping that is made is recorded under its first page. -/
theorem MapsFile.regions_eq {plan : MappingPlan} {range : PageRange}
    (maps : MapsFile key plan range machine later)
    (spaceExists : (machine.spaces.get? key).isSome) (probe : SpaceKey) :
    later.regions probe =
      if probe = key then
        (machine.regions probe).insert plan.start
          { range := range, handle := plan.handle, offset := plan.offset }
      else machine.regions probe := by
  have known : later.regions probe = (later.space probe).regions := rfl
  rw [known, maps.space_eq spaceExists]
  by_cases here : probe = key
  · rw [if_pos here, if_pos here, here]
    rfl
  · rw [if_neg here, if_neg here]
    rfl

end Machine

namespace Path

open Machine

variable {permits : Machine config → Transition config → Prop} {start last : Machine config}
  {key : SpaceKey}

/-- A way on which no transition touches a space's records leaves them as they were. -/
theorem regions_eq (path : Path permits start last)
    (keeps : ∀ machine transition, permits machine transition → transition.KeepsRecords key) :
    last.regions key = start.regions key := by
  induction path with
  | refl => rfl
  | step _ leads permitted inductionHypothesis =>
    exact (leads.regions_eq (keeps _ _ permitted)).trans inductionHypothesis

end Path

namespace Transition

/-- Making room touches no record. -/
theorem IsQuiet.keepsRecords {transition : Transition config} (isQuiet : transition.IsQuiet)
    (key : SpaceKey) : transition.KeepsRecords key := by
  cases transition <;> first | exact trivial | exact isQuiet.elim

/-- An access touches no record. -/
theorem Accesses.keepsRecords {space : SpaceKey} {number : PageNumber}
    {transition : Transition config} (accesses : transition.Accesses space number)
    (key : SpaceKey) : transition.KeepsRecords key := by
  rcases accesses with (isQuiet | ⟨_, rfl⟩) | rfl | rfl
  · exact isQuiet.keepsRecords key
  · exact trivial
  · exact trivial
  · exact trivial

/-- Removing pages touches no record. -/
theorem Discards.keepsRecords {space : SpaceKey} {transition : Transition config}
    (discards : transition.Discards space) (key : SpaceKey) : transition.KeepsRecords key := by
  cases transition <;> first | exact trivial | exact discards.elim

end Transition

/-- Whether a request leaves all records of mappings alone. -/
def SpaceRequest.KeepsRecords : SpaceRequest config → Prop
  | .map .. | .unmap _ | .tearDown => False
  | _ => True

/-- Requests that leave the records alone do so in each of their transitions; recording a stack
pointer is treated apart. -/
theorem SpaceRequest.Takes.keepsRecords {space key : SpaceKey} {current : Machine config}
    {transition : Transition config} {asked : SpaceRequest config}
    (takes : asked.Takes space current transition) (keeps : asked.KeepsRecords)
    (notPointer : ∀ pointer, asked ≠ .recordStackPointer pointer) :
    transition.KeepsRecords key := by
  cases asked with
  | allocate =>
    rcases takes with ⟨_, rfl⟩ | ⟨_, _, _, rfl⟩
    · exact trivial
    · exact trivial
  | claim | fault | userFault => exact Transition.Accesses.keepsRecords takes key
  | remove => exact takes ▸ trivial
  | recordStackPointer pointer => exact absurd rfl (notPointer pointer)
  | read =>
    obtain ⟨_, accesses⟩ := takes
    exact accesses.keepsRecords key
  | write =>
    rcases takes with ⟨_, accesses⟩ | ⟨_, _, _, rfl⟩
    · exact accesses.keepsRecords key
    · exact trivial
  | map | unmap | tearDown => exact keeps.elim

namespace Operation

open Machine

/-- Whether an operation leaves all records of mappings alone. -/
def KeepsRecords : Operation config → Prop
  | .create _ | .drop _ | .fork _ | .copy _ _ => False
  | .request _ asked => asked.KeepsRecords
  | _ => True

/-- Operations that leave the records alone do so in each of their transitions; recording a stack
pointer is treated apart. -/
theorem Takes.keepsRecords {key : SpaceKey} {start current : Machine config}
    {transition : Transition config} {operation : Operation config}
    (takes : operation.Takes start current transition) (keeps : operation.KeepsRecords)
    (notPointer : ∀ space pointer, operation ≠ .request space (.recordStackPointer pointer)) :
    transition.KeepsRecords key := by
  cases operation with
  | create | drop | fork | copy => exact keeps.elim
  | request space asked =>
    apply SpaceRequest.Takes.keepsRecords takes keeps
    rintro pointer rfl
    exact notPointer space pointer rfl
  | shutdown => exact takes.elim
  | takeFrame | returnFrame | createFile =>
    obtain ⟨_, rfl⟩ := takes
    exact trivial
  | closeFile | writeFile | setFileFaults | setSwapFaults => exact takes ▸ trivial

/-- Where the records of a space come from. -/
inductive Records (operation : Operation config) (machine later : Machine config) (key : SpaceKey)
    (start : PageNumber) (region : Region) : Prop where
  /-- The record was there before, perhaps in the space that was copied. -/
  | old {other : SpaceKey} (recorded : (machine.regions other).get? start = some region)
  /-- The record is that of the mapping which the operation made. -/
  | fresh {address : VirtualAddress} {length offset : Word} {writable : Bool} {file : FileId}
      {plan : MappingPlan} {range : PageRange}
      (isMap : operation = .request key (.map address length writable file offset))
      (maps : MapsFile key plan range machine later) (starts : start = plan.start)
      (placed : plan.start = address.page config)
      (aligned : address.word.toNat % config.pageSize = 0)
      (same : region = { range := range, handle := plan.handle, offset := plan.offset })

variable {operation : Operation config} {machine later : Machine config}
  {result : Except VmError Answer}

/-- Operations that leave the records alone lead to a machine with the same records. -/
theorem Performs.regions_eq (performs : operation.Performs machine result later)
    (atRest : machine.AtRest) (keeps : operation.KeepsRecords) : later.regions = machine.regions := by
  by_cases pointed : ∃ space pointer, operation = .request space (.recordStackPointer pointer)
  · obtain ⟨space, pointer, rfl⟩ := pointed
    cases performs with
    | refused => rfl
    | noFrame outside => rcases outside with same | same <;> cases same
    | requested _ performs =>
      cases performs with
      | refused => rfl
      | pointed => exact regions_updateSpace_of_same fun _ => rfl
  · funext key
    refine (performs.path atRest).regions_eq fun _ _ takes => takes.keepsRecords keeps ?_
    rintro space pointer rfl
    exact pointed ⟨space, pointer, rfl⟩

end Operation

namespace KernelAction

open Machine

variable {machine later : Machine config} {key child parent : SpaceKey}

/-- Tearing a space down ends its records, and no others. -/
theorem regions_of_tearDown (done : tearDown key machine = .done () later) (probe : SpaceKey) :
    later.regions probe = if probe = key then .empty else machine.regions probe := by
  obtain ⟨_, _, seen, done⟩ := Action.bind_eq_done_iff.mp done
  cases seen
  obtain ⟨_, middle, removed, done⟩ := Action.bind_eq_done_iff.mp done
  cases done
  have outline := (keeps_tearDownPages key _).of_done removed
  have same : middle.regions = machine.regions := congrArg Outline.regions outline
  rw [regions_updateSpace]
  by_cases here : probe = key
  · subst here
    cases known : middle.spaces.get? probe with
    | some space => simp
    | none =>
      rw [regions_of_unknown (by rw [registration, known]; rfl)]
      simp
  · rw [if_neg fun both => here both.1, if_neg here, same]

/-- Copying a space adds the records of the model to those of the copy, where they take precedence. -/
theorem regions_of_copySpace (done : copySpace child parent machine = .done () later)
    (laterExists : (later.spaces.get? child).isSome) (probe : SpaceKey) (start : PageNumber) :
    (later.regions probe).get? start =
      if probe = child then
        ((machine.regions parent).get? start).or ((machine.regions child).get? start)
      else (machine.regions probe).get? start := by
  obtain ⟨apart, home, finished, copied, rfl⟩ := copySpace_eq_done done
  have outline := (Action.Keeps.forEach (keeps_copyPage child parent) _).of_done copied
  have same : finished.regions = machine.regions :=
    (congrArg Outline.regions outline).trans (regions_updateSpace_of_same fun _ => rfl)
  have known : (finished.spaces.get? child).isSome := by
    rw [takeRegions, isSome_updateSpace] at laterExists
    exact laterExists
  rw [takeRegions, regions_updateSpace, same]
  by_cases here : probe = child
  · have model : (finished.space parent).regions = machine.regions parent := congrFun same parent
    have own : (finished.space child).regions = machine.regions child := congrFun same child
    rw [if_pos ⟨here, known⟩, if_pos here, model, own]
    exact OrderedMap.get?_foldl_insert start _ (machine.regions parent).ascending _
  · rw [if_neg fun both => here both.1, if_neg here]

/-- A copy that failed has copied no record. -/
theorem regions_of_copySpace_failed {error : VmError}
    (failed : copySpace child parent machine = .failed error later) :
    later.regions = machine.regions := by
  obtain ⟨-, rfl, -⟩ | ⟨-, -, spoiled⟩ := copySpace_eq_failed failed
  · rfl
  · have outline := (Action.Keeps.forEach (keeps_copyPage child parent) _).of_failed spoiled
    exact (congrArg Outline.regions outline).trans (regions_updateSpace_of_same fun _ => rfl)

end KernelAction

namespace Operation

open Machine KernelAction

variable {operation : Operation config} {machine later : Machine config}
  {result : Except VmError Answer}

/-- What an operation does to the records of mappings: it leaves them alone, or it is one of those
that end, copy or make records. -/
inductive RevisesRecords (machine later : Machine config) :
    Operation config → Except VmError Answer → Prop where
  | kept {operation : Operation config} {result : Except VmError Answer}
      (same : later.regions = machine.regions) :
    RevisesRecords machine later operation result
  | cleared {operation : Operation config} {result : Except VmError Answer} {space : SpaceKey}
      (ends : operation = .drop space ∨ operation = .request space .tearDown)
      (same : ∀ key, later.regions key = if key = space then .empty else machine.regions key) :
    RevisesRecords machine later operation result
  /-- The copy gets the records of its model; the copy that a fork makes has none of its own. -/
  | copied {operation : Operation config} {result : Except VmError Answer} {child parent : SpaceKey}
      (copies : operation = .copy child parent ∨
        operation = .fork parent ∧ machine.registration child = none)
      (same : ∀ key start, (later.regions key).get? start =
        if key = child then
          ((machine.regions parent).get? start).or ((machine.regions child).get? start)
        else (machine.regions key).get? start) :
    RevisesRecords machine later operation result
  | mapped {space : SpaceKey} {address : VirtualAddress} {length offset : Word} {writable : Bool}
      {file : FileId} {plan : MappingPlan} {range : PageRange}
      (maps : MapsFile space plan range machine later) (starts : plan.start = address.page config)
      (aligned : address.word.toNat % config.pageSize = 0)
      (counted : range.length = Word.ceilingDiv length config.pageSizeWord)
      (same : ∀ key, later.regions key =
        if key = space then
          (machine.regions key).insert plan.start
            { range := range, handle := plan.handle, offset := plan.offset }
        else machine.regions key) :
    RevisesRecords machine later (.request space (.map address length writable file offset))
      (.ok (.mappedAt address))
  | unmapped {space : SpaceKey} {address : VirtualAddress} {result : Except VmError Answer}
      (same : ∀ key, later.regions key =
        if key = space then (machine.regions key).erase (address.page config)
        else machine.regions key) :
    RevisesRecords machine later (.request space (.unmap address)) result

/-- The records of the space that a fork makes are those of its model. -/
theorem Yields.regions_of_fork {parent child : SpaceKey} {root : PhysicalAddress}
    (yields : (Operation.fork parent).Yields machine (.ok (.space child root)) later)
    (forks : Forks parent machine (.ok child) later) (atRest : machine.AtRest) :
    RevisesRecords machine later (.fork parent) (.ok (.space child root)) := by
  have unissued := atRest.consistent.known.unissued
  obtain ⟨-, done⟩ := withSpace_eq_done yields nofun
  obtain ⟨_, _, forked, described⟩ := Action.bind_eq_done_iff.mp done
  cases described
  obtain ⟨created, creates, copied⟩ := forkSpace_eq_done forked
  obtain ⟨rfl, root', rfl⟩ := (createSpace_ends machine parent.subsystem).of_done creates
  have laterExists : (later.spaces.get? (machine.nextKey parent.subsystem)).isSome := by
    cases forks with
    | done created _ passes =>
      refine isSome_of_clones passes ?_
      rw [created, spaces_addSpace, OrderedMap.get?_insert_self]
      rfl
  have unknown : machine.registration (machine.nextKey parent.subsystem) = none := by
    rw [registration, unissued]
    rfl
  have before : (machine.addSpace parent.subsystem root').regions = machine.regions :=
    congrArg Outline.regions (outline_addSpace unissued parent.subsystem root')
  exact .copied (.inr ⟨rfl, unknown⟩) (before ▸ regions_of_copySpace copied laterExists)

/-- A copy adds the model's records if it succeeds, and none if it fails. -/
theorem Yields.regions_of_copy {child parent : SpaceKey} {answer : Except VmError Unit}
    (yields : (Operation.copy child parent).Yields machine (answer.map fun _ => .done) later)
    (passes : Passes (Transition.Clones child parent) machine later) :
    RevisesRecords machine later (.copy child parent) (answer.map fun _ => .done) := by
  cases answer with
  | ok =>
    obtain ⟨childExists, done⟩ := withSpace_eq_done yields nofun
    obtain ⟨-, done⟩ := withSpace_eq_done done nofun
    obtain ⟨_, _, copied, answered⟩ := Action.bind_eq_done_iff.mp done
    cases answered
    exact .copied (.inl rfl) (regions_of_copySpace copied (isSome_of_clones passes childExists))
  | error =>
    obtain ⟨-, failed⟩ := withSpace_eq_failed yields
    obtain ⟨-, failed⟩ := withSpace_eq_failed failed
    rcases Action.bind_eq_failed_iff.mp failed with failed | ⟨_, _, _, failed⟩
    · exact .kept (regions_of_copySpace_failed failed)
    · cases failed

/-- All that is proved about records is read off this: it says of each operation which records there
are after it. -/
theorem Yields.revisesRecords (yields : operation.Yields machine result later)
    (atRest : machine.AtRest) (permitted : operation.IsPermitted machine) :
    RevisesRecords machine later operation result := by
  have performs := yields.performs atRest permitted
  by_cases keeps : operation.KeepsRecords
  · exact .kept (performs.regions_eq atRest keeps)
  cases performs with
  | refused => exact .kept rfl
  | noFrame outside => rcases outside with rfl | rfl <;> exact absurd trivial keeps
  | created =>
    exact .kept (congrArg Outline.regions (outline_addSpace atRest.consistent.known.unissued _ _))
  | @dropped space _ _ passes _ known =>
    refine .cleared (.inl rfl) fun key => ?_
    split
    · next here => exact regions_of_unknown ((congrFun known key).trans (if_pos here))
    · next elsewhere =>
      have spares := passes.path.spares atRest.consistent fun _ _ => Transition.Drops.concerns
      exact spares.regions key elsewhere
  | forked forks => exact yields.regions_of_fork forks atRest
  | unforked forks => exact .kept (forks.spares_of_error atRest).2.2.1
  | copied _ passes => exact yields.regions_of_copy passes
  | @requested space asked _ _ _ spaceExists performs =>
    cases performs with
    | refused | notUnmapped => exact .kept rfl
    | mapped maps starts _ _ _ aligned counted =>
      exact .mapped maps starts aligned counted (maps.regions_eq spaceExists)
    | unmappable leaves =>
      obtain ⟨_, rfl, _⟩ := leaves.onlyEnvironment
      exact .kept rfl
    | @unmapped address _ _ _ _ _ unmaps =>
      refine .unmapped fun key => ?_
      have same : later.regions key = (machine.unrecorded space (address.page config)).regions key :=
        unmaps.passes.path.regions_eq fun _ _ discards => discards.keepsRecords key
      rw [same, regions_unrecorded]
      split
      · next here => rw [here]
      · rfl
    | tornDown =>
      obtain ⟨-, done⟩ := withSpace_eq_done yields nofun
      obtain ⟨_, _, torn, answered⟩ := Action.bind_eq_done_iff.mp done
      cases answered
      exact .cleared (.inr rfl) (regions_of_tearDown torn)
    | _ => exact absurd trivial keeps
  | _ => exact absurd trivial keeps

/-- Every record was there before or is that of the mapping that the operation made. -/
theorem Yields.records (yields : operation.Yields machine result later) (atRest : machine.AtRest)
    (permitted : operation.IsPermitted machine) {key : SpaceKey} {start : PageNumber}
    {region : Region} (recorded : (later.regions key).get? start = some region) :
    operation.Records machine later key start region := by
  cases yields.revisesRecords atRest permitted with
  | kept same => exact .old (same ▸ recorded)
  | cleared _ same =>
    rw [same] at recorded
    split at recorded
    · cases recorded
    · exact .old recorded
  | copied _ same =>
    rw [same] at recorded
    split at recorded
    · rcases Option.or_eq_some_iff.mp recorded with model | ⟨_, own⟩
      · exact .old model
      · exact .old own
    · exact .old recorded
  | @mapped space _ _ _ _ _ plan range maps starts aligned _ same =>
    rw [same] at recorded
    split at recorded
    · next here =>
      subst here
      by_cases fresh : plan.start = start
      · rw [← fresh, OrderedMap.get?_insert_self] at recorded
        exact .fresh rfl maps fresh.symm starts aligned (Option.some.inj recorded).symm
      · rw [OrderedMap.get?_insert_of_ne fresh] at recorded
        exact .old recorded
    · exact .old recorded
  | unmapped same =>
    rw [same] at recorded
    split at recorded
    · rw [OrderedMap.get?_erase_eq] at recorded
      split at recorded
      · cases recorded
      · exact .old recorded
    · exact .old recorded

/-- Operations record mappings under their first pages only. -/
theorem Yields.regionsPlaced (yields : operation.Yields machine result later)
    (atRest : machine.AtRest) (permitted : operation.IsPermitted machine)
    (placed : machine.RegionsPlaced) : later.RegionsPlaced := by
  intro key start region recorded
  cases yields.records atRest permitted recorded with
  | old recorded => exact placed _ _ _ recorded
  | @fresh address _ _ _ _ plan range _ maps starts placed aligned same =>
    subst same starts
    refine ⟨maps.starts, ?_⟩
    rw [placed, VirtualAddress.toNat_page, Nat.div_mul_cancel (Nat.dvd_of_mod_eq_zero aligned)]
    exact address.word.toNat_lt

end Operation

namespace Run

/-- In every reachable machine, mappings are recorded under their first pages. -/
theorem regionsPlaced {frames slots : Nat} {log : OperationLog config} {machine : Machine config}
    (run : Run (.boot config frames slots) log machine) : machine.RegionsPlaced := by
  have booted : (Machine.boot config frames slots).RegionsPlaced := by
    intro key start region recorded
    rw [Machine.regions_of_unknown rfl] at recorded
    cases recorded
  induction run with
  | nil => exact booted
  | step prior permitted yields inductionHypothesis =>
    exact yields.regionsPlaced prior.atRest permitted inductionHypothesis

end Run

end DemandPaging
