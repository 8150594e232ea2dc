import DemandPaging.Proofs.Bystander
import DemandPaging.Proofs.Agreement
import DemandPaging.Session

/-!
# Nothing is lost and nothing is owned twice

Every frame is free, in one queue, or in the hands of an outsider; every swap slot in use is recorded
in one page. A fork or a mapping that fails leaves nothing behind, and neither do the spaces once all
of them have been dropped.
-/

namespace DemandPaging

variable {config : Config}

namespace Machine

/-- A page of a registered space is the anonymous page that a swap slot belongs to. -/
def KeepsSlot (machine : Machine config) (key : SpaceKey) (number : PageNumber) (slot : SwapSlot) :
    Prop :=
  ∃ space page, machine.spaces.get? key = some space ∧ space.registered = true ∧
    space.pages.get? number = some page ∧ page.kind = .anonymous (some slot)

/-- Every frame and every swap slot has one owner. -/
structure Accounted (machine : Machine config) (frames : Nat) : Prop where
  /-- The free frames, the frames of the two queues and the frames of outsiders are all frames. -/
  partition : (machine.pool.free ++ (machine.mainTable.frames ++ machine.alternateTable.frames) ++
    machine.pool.outside.keys).Perm (FramePool.allFrames frames)
  disjoint : (machine.pool.free ++ (machine.mainTable.frames ++ machine.alternateTable.frames) ++
    machine.pool.outside.keys).Nodup
  /-- The allocated slots are those that pages keep. -/
  slots : ∀ slot, machine.environment.swap.slots.contains slot = true ↔
    ∃ key number, machine.KeepsSlot key number slot
  /-- No slot belongs to two pages. -/
  single : ∀ slot key number key' number', machine.KeepsSlot key number slot →
    machine.KeepsSlot key' number' slot → key = key' ∧ number = number'

/-- An operation that failed left nothing of its own: no space, no page, and so no slot, no frame for
any page, and no handle. -/
structure LeavesNothing (machine later : Machine config) : Prop where
  spaces : later.registration = machine.registration
  pages : ∀ key number, (later.page? key number).isSome = (machine.page? key number).isSome
  frames : ∀ key number frame, later.frame? key number = some frame →
    machine.frame? key number = some frame
  handles : ∀ file, later.openHandles file = machine.openHandles file

/-- All that the spaces held has been given back. -/
structure GivenBack (machine : Machine config) (frames : Nat) : Prop where
  queues : ∀ subsystem, (machine.table subsystem).queue = []
  free : (machine.pool.free ++ machine.pool.outside.keys).Perm (FramePool.allFrames frames)
  slots : machine.environment.swap.used = 0
  handles : ∀ file, ∀ handle ∈ machine.openHandles file, handle = file.creationHandle

variable {machine later : Machine config}

/-- The page that keeps a slot is the one that says so. -/
theorem Consistent.keepsSlot_iff (consistent : machine.Consistent) {key : SpaceKey}
    {number : PageNumber} {slot : SwapSlot} :
    machine.KeepsSlot key number slot ↔ machine.slot? key number = some slot := by
  constructor
  · rintro ⟨space, page, present, _, found, anonymous⟩
    rw [slot?_of_found ((page?_of_get? present number).trans found), anonymous]
    rfl
  · intro holds
    obtain ⟨page, found, slotted⟩ := Option.bind_eq_some_iff.mp holds
    have spaceExists := isSome_of_page? found
    obtain ⟨space, present⟩ := Option.isSome_iff_exists.mp spaceExists
    have registered := consistent.registered spaceExists
    rw [space_eq_of_get? present] at registered
    rw [page?_of_get? present] at found
    refine ⟨space, page, present, registered, found, ?_⟩
    cases kind : page.kind with
    | anonymous held =>
      rw [kind] at slotted
      exact congrArg PageKind.anonymous slotted
    | unloaded | file =>
      rw [kind] at slotted
      cases slotted

end Machine

open Machine

/-- Between the operations of a run everything has one owner. -/
theorem Run.accounted {frames slots : Nat} {log : OperationLog config} {machine : Machine config}
    (run : Run (.boot config frames slots) log machine) : machine.Accounted frames := by
  have consistent := run.atRest.consistent
  refine ⟨run.frames_perm, consistent.nodup, fun slot => ?_, ?_⟩
  · constructor
    · intro allocated
      obtain ⟨key, number, holds⟩ := consistent.slots.recorded slot allocated
      exact ⟨key, number, consistent.keepsSlot_iff.mpr holds⟩
    · rintro ⟨key, number, keeps⟩
      obtain ⟨page, found, slotted⟩ :=
        Option.bind_eq_some_iff.mp (consistent.keepsSlot_iff.mp keeps)
      exact consistent.slots.allocated found slot slotted
  · intro slot key number key' number' keeps keeps'
    rw [consistent.keepsSlot_iff] at keeps keeps'
    exact consistent.slots.unique keeps keeps'

/-! ## Handles -/

namespace Machine

variable {machine later : Machine config}

/-- Which handles a space uses depends on the files of its pages and on its records alone. -/
theorem handleUses_congr (spaces : later.registration = machine.registration)
    (pages : ∀ key number, (later.page? key number).map (fun page => page.kind.backing?) =
      (machine.page? key number).map fun page => page.kind.backing?)
    (regions : ∀ key, later.regions key = machine.regions key) :
    later.handleUses = machine.handleUses := by
  have values : later.spaces.values.map Space.handles = machine.spaces.values.map Space.handles := by
    refine OrderedMap.map_values_congr fun key => ?_
    have same := congrFun spaces key
    unfold registration at same
    cases present : machine.spaces.get? key with
    | none =>
      rw [present] at same
      rw [Option.map_eq_none_iff.mp same]
    | some space =>
      rw [present] at same
      obtain ⟨space', present', _⟩ := Option.map_eq_some_iff.mp same
      rw [present']
      have backings : space'.pages.values.map (fun page => page.kind.backing?) =
          space.pages.values.map fun page => page.kind.backing? := by
        refine OrderedMap.map_values_congr fun number => ?_
        have here := pages key number
        rwa [page?_of_get? present', page?_of_get? present] at here
      have records : space'.regions = space.regions := by
        have here := regions key
        rwa [Machine.regions, Machine.regions, space_eq_of_get? present',
          space_eq_of_get? present] at here
      have split : ∀ pages : List (Page config),
          (pages.filterMap fun page => page.kind.backing?.map FileBacking.handle) =
            (pages.map fun page => page.kind.backing?).filterMap fun backing =>
              backing.map FileBacking.handle := by
        intro pages
        rw [List.filterMap_map]
        rfl
      simp only [Option.map_some, Space.handles, records, split, backings]
  rw [handleUses, handleUses, List.flatMap_def, List.flatMap_def, values]

/-- The same handles are open as long as they are used alike and no creator closes one. -/
theorem openHandles_congr (uses : later.handleUses = machine.handleUses)
    (holders : ∀ file, (later.environment.file file).creatorHolds =
      (machine.environment.file file).creatorHolds) (file : FileId) :
    later.openHandles file = machine.openHandles file := by
  have held : later.creatorHolds = machine.creatorHolds := by
    funext handle
    rw [creatorHolds, creatorHolds, holders]
  rw [openHandles, openHandles, uses, held]

end Machine

/-! ## What fails leaves nothing behind -/

namespace Machine

variable {machine later : Machine config}

/-- A space that does not exist has no records. -/
theorem regions_of_unknown {key : SpaceKey} (unknown : machine.registration key = none) :
    machine.regions key = .empty := by
  have absent : machine.spaces.get? key = none := Option.map_eq_none_iff.mp unknown
  rw [regions, Machine.space, absent]
  rfl

/-- Creating a space registers no other. -/
theorem registration_addSpace {subsystem : Subsystem} {root : PhysicalAddress} {probe : SpaceKey}
    (elsewhere : probe ≠ machine.nextKey subsystem) :
    (machine.addSpace subsystem root).registration probe = machine.registration probe := by
  rw [registration, spaces_addSpace, OrderedMap.get?_insert_eq, if_neg elsewhere]
  rfl

/-- After a fork that failed there are the spaces that there were before. All that happened to them is
that some of their pages lost their frames. -/
theorem Forks.spares_of_error {parent : SpaceKey} {error : VmError}
    (forks : Forks parent machine (.error error) later) (atRest : machine.AtRest) :
    later.registration = machine.registration ∧
      (∀ key number, Page.Recedes (machine.page? key number) (later.page? key number)) ∧
      later.regions = machine.regions ∧ machine.environment.SameTerms later.environment := by
  cases forks with
  | @undone created spoiled _ root _ creates _ passes drops pages known =>
    subst creates
    generalize childKey : machine.nextKey parent.subsystem = child at *
    have consistent := atRest.consistent
    have vacant : ∀ number, machine.page? child number = none := by
      rw [← childKey]
      exact consistent.known.unissued.vacant parent.subsystem
    have unknown : machine.registration child = none := by
      rw [← childKey, registration, consistent.known.unissued]
      rfl
    have createdPages : (machine.addSpace parent.subsystem root).page? = machine.page? :=
      page?_addSpace (by rwa [childKey])
    have createdRest := addSpace_atRest atRest parent.subsystem root
    have spares := (passes.path.spares createdRest.consistent
      fun _ _ => Transition.Clones.concerns).trans
        (drops.path.spares passes.atRest.consistent fun _ _ => Transition.Drops.concerns)
    have gone : later.registration child = none := by
      rw [known]
      exact if_pos rfl
    refine ⟨?_, ?_, ?_, ?_⟩
    · funext probe
      by_cases here : probe = child
      · rw [here, gone, unknown]
      · rw [known, passes.registration_eq fun _ => Transition.Clones.keepsSpaces]
        simp only [if_neg here]
        exact registration_addSpace (by rwa [childKey])
    · intro key number
      by_cases here : key = child
      · subst here
        rw [vacant, pages]
        simp only [if_true]
        exact .same
      · rw [← createdPages]
        exact spares.pages key here number
    · funext key
      by_cases here : key = child
      · rw [here, regions_of_unknown gone, regions_of_unknown unknown]
      · rw [spares.regions key here, regions, regions, space_addSpace, if_neg (by rwa [childKey])]
    · have same := spares.terms
      rwa [environment_addSpace] at same

/-- A fork that fails leaves nothing behind. -/
theorem Forks.leavesNothing {parent : SpaceKey} {error : VmError}
    (forks : Forks parent machine (.error error) later) (atRest : machine.AtRest) :
    machine.LeavesNothing later := by
  obtain ⟨registered, recedes, regions, terms⟩ := forks.spares_of_error atRest
  refine ⟨registered, fun key number => (recedes key number).isSome_eq,
    fun key number frame => (recedes key number).frame_of_frame, ?_⟩
  apply openHandles_congr
  · apply handleUses_congr registered fun key number => (recedes key number).backing?_eq
    exact congrFun regions
  · intro file
    have same := congrArg File.creatorHolds (terms.file file)
    exact same

/-- A machine of which only the environment has changed, and no creator closed a handle, holds what
it held. -/
theorem leavesNothing_of_environment {environment : Environment config}
    (same : machine.environment.SameButOpenings environment) :
    machine.LeavesNothing { machine with environment := environment } where
  spaces := rfl
  pages _ _ := rfl
  frames _ _ _ holds := holds
  handles := openHandles_congr rfl fun file => by
    have agree := congrArg File.creatorHolds (same.file file)
    exact agree

end Machine

/-- Whether an operation forks a space or maps a file. -/
def Operation.IsForkOrMap : Operation config → Prop
  | .fork _ => True
  | .request _ (.map ..) => True
  | _ => False

/-- A fork or a mapping that fails leaves nothing behind. -/
theorem Operation.Yields.leavesNothing {operation : Operation config} {machine later : Machine config}
    {error : VmError} (yields : operation.Yields machine (.error error) later)
    (atRest : machine.AtRest) (kind : operation.IsForkOrMap) : machine.LeavesNothing later := by
  match operation with
  | .fork parent =>
    cases yields.performs atRest trivial with
    | unforked forks => exact forks.leavesNothing atRest
  | .request key (.map address length writable file offset) =>
    cases yields.performs atRest trivial with
    | requested _ performs =>
      cases performs with
      | unmappable leaves =>
        obtain ⟨environment, rfl, same⟩ := leaves.onlyEnvironment
        exact leavesNothing_of_environment same

/-! ## When all spaces have been dropped -/

namespace Machine

variable {machine : Machine config}

/-- A map in which nothing is found has no entries. -/
theorem OrderedMap.entries_of_vacant {Key Value : Type} [Numbered Key] {map : OrderedMap Key Value}
    (vacant : ∀ key, map.get? key = none) : map.entries = [] := by
  refine List.eq_nil_iff_forall_not_mem.mpr fun entry member => ?_
  have present := map.get?_of_mem_entries member
  rw [vacant] at present
  cases present

/-- A machine at rest without spaces has everything back. -/
theorem AtRest.givenBack (atRest : machine.AtRest) {frames : Nat}
    (partition : machine.frames.Perm (FramePool.allFrames frames))
    (nobody : ∀ key, machine.spaces.get? key = none) : machine.GivenBack frames := by
  have noPage : ∀ key number, machine.page? key number = none := by
    intro key number
    rw [page?, Machine.space, nobody]
    rfl
  have queues : ∀ subsystem, (machine.table subsystem).queue = [] := by
    intro subsystem
    refine KernelAction.queue_of_unused atRest ?_
    rw [registeredSpaces, OrderedMap.entries_of_vacant nobody]
    rfl
  have unused : ∀ slot, machine.environment.swap.slots.get? slot = none := by
    intro slot
    cases allocated : machine.environment.swap.slots.get? slot with
    | none => rfl
    | some content =>
      have inUse : (machine.stored? slot).isSome := Option.isSome_iff_exists.mpr ⟨_, allocated⟩
      obtain ⟨key, number, holds⟩ := atRest.consistent.slots.recorded slot inUse
      rw [slot?, noPage] at holds
      cases holds
  have uses : machine.handleUses = [] := by
    rw [handleUses, OrderedMap.values, OrderedMap.entries_of_vacant nobody]
    rfl
  refine ⟨queues, ?_, ?_, fun file handle isOpen => ?_⟩
  · have main : machine.mainTable.queue = [] := queues .main
    have alternate : machine.alternateTable.queue = [] := queues .alternate
    simpa [Machine.frames, FrameTable.frames, main, alternate] using partition
  · rw [SwapDevice.used, OrderedMap.size, OrderedMap.entries_of_vacant unused]
    rfl
  · rw [openHandles, uses, List.mem_eraseDups] at isOpen
    rcases List.mem_append.mp isOpen with held | used
    · split at held
      · exact List.mem_singleton.mp held
      · exact (List.not_mem_nil held).elim
    · exact (List.not_mem_nil used).elim

end Machine

/-- Spaces that are dropped one after the other are gone; nothing stops that, and nothing is lost. -/
theorem Session.dropAll_done {machine : Machine config} (atRest : machine.AtRest)
    (order : List SpaceKey) :
    ∃ later, Session.dropAll order machine = .done () later ∧ later.AtRest ∧
      later.frames.Perm machine.frames ∧
      ∀ key, later.registration key = if key ∈ order then none else machine.registration key := by
  induction order generalizing machine with
  | nil => exact ⟨machine, rfl, atRest, .refl _, fun _ => by simp⟩
  | cons key rest inductionHypothesis =>
    obtain ⟨_, middle, dropped, passes, _, known⟩ :=
      (KernelAction.dropSpace_ends atRest).completes (KernelAction.makesNoRoom_dropSpace key)
    obtain ⟨later, done, laterRest, conserved, gone⟩ := inductionHypothesis passes.atRest
    refine ⟨later, ?_, laterRest, ?_, fun probe => ?_⟩
    · exact (Action.bind_of_done dropped).trans done
    · exact conserved.trans (passes.path.frames_conserved atRest.consistent)
    · rw [gone, known]
      by_cases here : probe = key <;> by_cases listed : probe ∈ rest <;> simp [here, listed]

/-- In every state of a run, each frame and each swap slot has one owner; a fork or a mapping that
fails there leaves nothing behind; dropping all spaces in any order succeeds and gives everything
back; and so everything is back whenever no space is left. -/
theorem Run.nothing_lost {frames slots : Nat} {log : OperationLog config} {machine : Machine config}
    (run : Run (.boot config frames slots) log machine) :
    machine.Accounted frames ∧
    (∀ (operation : Operation config) error later,
      operation.Yields machine (.error error) later → operation.IsForkOrMap →
        machine.LeavesNothing later) ∧
    (∀ order, (∀ key, (machine.spaces.get? key).isSome → key ∈ order) →
      ∃ later, Session.dropAll order machine = .done () later ∧ later.GivenBack frames) ∧
    ((∀ key, machine.spaces.get? key = none) → machine.GivenBack frames) := by
  refine ⟨run.accounted, fun operation error later yields kind => ?_, fun order complete => ?_,
    run.atRest.givenBack run.frames_perm⟩
  · exact yields.leavesNothing run.atRest kind
  · obtain ⟨later, done, laterRest, conserved, gone⟩ := Session.dropAll_done run.atRest order
    refine ⟨later, done, laterRest.givenBack (conserved.trans run.frames_perm) fun key => ?_⟩
    have missing : later.registration key = none := by
      rw [gone]
      split
      · rfl
      · next unlisted =>
        refine Option.map_eq_none_iff.mpr (Option.not_isSome_iff_eq_none.mp ?_)
        exact fun present => unlisted (complete key present)
    exact Option.map_eq_none_iff.mp missing

/-- Whatever the program with too few frames leaves is given back when its spaces are dropped. -/
theorem Run.nothing_lost_crowded : ∃ log machine later,
    performAll crowdedProgram (.boot .small 3 8) = some (log, machine) ∧
      0 < machine.mainTable.evictions ∧ machine.Accounted 3 ∧
      Session.dropAll machine.spaces.keys machine = .done () later ∧ later.GivenBack 3 := by
  obtain ⟨log, machine, performed, evicted⟩ := crowdedProgram_performed
  have run : Run (.boot .small 3 8) log machine := Run.nil.append performed
  obtain ⟨later, dropped, givenBack⟩ := run.nothing_lost.2.2.1 machine.spaces.keys
    fun _ present => OrderedMap.mem_keys_iff.mpr (Option.isSome_iff_exists.mp present)
  exact ⟨log, machine, later, performed, evicted, run.nothing_lost.1, dropped, givenBack⟩

end DemandPaging
