import DemandPaging.Proofs.Fork
import DemandPaging.Proofs.Mapping

/-!
# What operations do

`SpaceRequest.Performs` and `Operation.Performs` say for each operation which ways it can take when it
does not stop the kernel, and what it answers then. The ways are those of the modules before; nothing
below an operation has to be opened again to reason about a run.
-/

namespace DemandPaging

variable {config : Config}

namespace Machine

variable (machine : Machine config)

/-- The machine after an initializer was listed, if there is one. -/
def listed (body : Option (InitializerBody config)) : Machine config :=
  if body.isSome then
    { machine with
      environment :=
        { machine.environment with
          runs := machine.environment.runs.insert ⟨machine.environment.runs.size⟩ 0 } }
  else machine

/-- The initializer under the name that it gets. -/
def namedInitializer (body : Option (InitializerBody config)) : Option (Initializer config) :=
  body.map fun run => { id := ⟨machine.environment.runs.size⟩, run := run }

/-- The initializer that was listed has its name. -/
theorem isSome_runs_listed {body : Option (InitializerBody config)}
    {initializer : Initializer config} (isNamed : machine.namedInitializer body = some initializer) :
    ((machine.listed body).environment.runs.get? initializer.id).isSome := by
  obtain ⟨run, rfl, rfl⟩ := Option.map_eq_some_iff.mp isNamed
  show ((OrderedMap.insert _ _ _).get? _).isSome
  rw [OrderedMap.get?_insert_self]
  rfl

/-- The machine after a space has recorded its user's stack pointer. -/
def pointed (key : SpaceKey) (pointer : VirtualAddress) : Machine config :=
  machine.updateSpace key fun space => { space with stackPointer := some pointer }

end Machine

/-- The target of a registration is the one that was asked for. -/
def TargetRequest.Grants (target : PageTarget config) : TargetRequest → Prop
  | .anonymous => target = .anonymous
  | .file source offset readBytes zeroBytes => ∃ backing,
    FileBacking.ofSplit config source.creationHandle offset readBytes zeroBytes = .ok backing ∧
      target = .file backing
  | .malformed _ => False

open Machine

/-- What a request does to its address space, with the answer or the error it ends with. -/
inductive SpaceRequest.Performs (key : SpaceKey) :
    SpaceRequest config → Machine config → Except VmError Answer → Machine config → Prop where
  /-- A request is turned down before anything is done. -/
  | refused {asked : SpaceRequest config} {machine : Machine config} {refusal : Refusal} :
    Performs key asked machine (.ok (.refused refusal)) machine
  /-- A registration is turned down after its initializer was listed. -/
  | listed {request : TargetRequest} {address : VirtualAddress} {writable : Bool}
      {body : Option (InitializerBody config)} {machine : Machine config}
      {result : Except VmError Answer}
      (shown : ∀ answer, result = .ok answer → ∃ refusal, answer = .refused refusal) :
    Performs key (.allocate request address writable body) machine result (machine.listed body)
  | allocated {request : TargetRequest} {target : PageTarget config} {address : VirtualAddress}
      {writable : Bool} {body : Option (InitializerBody config)} {machine later : Machine config}
      (grants : request.Grants target)
      (registers : (Transition.register key (Page.awaiting (address.page config) writable target
        (machine.namedInitializer body))).Leads (machine.listed body) later) :
    Performs key (.allocate request address writable body) machine (.ok .done) later
  | claimed {address : VirtualAddress} {machine later : Machine config}
      (known : (machine.page? key (address.page config)).isSome)
      (accessed : Accessed key (address.page config) machine later) :
    Performs key (.claim address) machine (.ok .done) later
  | unclaimed {address : VirtualAddress} {machine later : Machine config} {error : VmError}
      (passes : Passes Transition.IsQuiet machine later) :
    Performs key (.claim address) machine (.error error) later
  /-- A page is gone, whether or not its content could be saved. -/
  | removed {address : VirtualAddress} {machine later : Machine config}
      {result : Except VmError Answer} (shown : ∀ answer, result = .ok answer → answer = .done)
      (leads : (Transition.discard key (address.page config)).Leads machine later) :
    Performs key (.remove address) machine result later
  | unremoved {address : VirtualAddress} {machine : Machine config} {error : VmError}
      (vacant : machine.page? key (address.page config) = none) :
    Performs key (.remove address) machine (.error error) machine
  | resolved {access : PageFault} {machine later : Machine config}
      (accessed : Accessed key (access.address.page config) machine later) :
    Performs key (.fault access) machine (.ok .done) later
  | unresolved {access : PageFault} {machine later : Machine config} {error : VmError}
      (denied : Denied key (access.address.page config) machine later) :
    Performs key (.fault access) machine (.error error) later
  | retried {access : PageFault} {machine later : Machine config}
      (accessed : Accessed key (access.address.page config) machine later) :
    Performs key (.userFault access) machine (.ok (.verdict .retry)) later
  | exited {access : PageFault} {machine middle : Machine config} {error : VmError}
      (denied : Denied key (access.address.page config) machine middle) :
    Performs key (.userFault access) machine (.ok (.verdict (.exit faultExitStatus)))
      (middle.record (.unresolvedFault access.address access.cause error))
  | pointed {pointer : VirtualAddress} {machine : Machine config} :
    Performs key (.recordStackPointer pointer) machine (.ok .done) (machine.pointed key pointer)
  | read {address : VirtualAddress} {buffer filled : Bytes} {machine later : Machine config}
      {result : Except VmError Unit}
      (reads : ReadsChunks key address
        (Chunk.ofCopy config (address.pageOffset config).toNat buffer.size) buffer machine
        (filled, result) later) :
    Performs key (.read address buffer) machine (.ok (.filled filled result)) later
  | written {address : VirtualAddress} {bytes : Bytes} {machine later : Machine config}
      {result : Except VmError Unit}
      (writes : WritesChunks key address bytes
        (Chunk.ofCopy config (address.pageOffset config).toNat bytes.size) machine result later) :
    Performs key (.write address bytes) machine (result.map fun _ => .done) later
  | mapped {address : VirtualAddress} {length offset : Word} {writable : Bool} {file : FileId}
      {plan : MappingPlan} {range : PageRange} {machine later : Machine config}
      (maps : MapsFile key plan range machine later) (starts : plan.start = address.page config)
      (permission : plan.writable = writable) (source : plan.handle.file = file)
      (position : plan.offset = offset) (aligned : address.word.toNat % config.pageSize = 0)
      (counted : range.length = Word.ceilingDiv length config.pageSizeWord) :
    Performs key (.map address length writable file offset) machine (.ok (.mappedAt address)) later
  | unmappable {address : VirtualAddress} {length offset : Word} {writable : Bool} {file : FileId}
      {machine later : Machine config} {error : VmError}
      (leaves : machine.LeavesUnmapped file later) :
    Performs key (.map address length writable file offset) machine (.error error) later
  | unmapped {address : VirtualAddress} {region : Region} {machine later : Machine config}
      {result : Except VmError Answer} (shown : ∀ answer, result = .ok answer → answer = .done)
      (unmaps : UnmapsFile key (address.page config) region machine later) :
    Performs key (.unmap address) machine result later
  | notUnmapped {address : VirtualAddress} {machine : Machine config} {error : VmError} :
    Performs key (.unmap address) machine (.error error) machine
  | tornDown {machine later : Machine config}
      (passes : Passes (Transition.Empties key) machine later)
      (pages : later.page? = fun probe other =>
        if probe = key then none else machine.page? probe other) :
    Performs key .tearDown machine (.ok .done) later

/-- What an operation does, with the answer or the error it ends with. -/
inductive Operation.Performs :
    Operation config → Machine config → Except VmError Answer → Machine config → Prop where
  /-- An operation is turned down, or there is nothing to do. -/
  | refused {operation : Operation config} {machine : Machine config} {refusal : Refusal} :
    Performs operation machine (.ok (.refused refusal)) machine
  | created {subsystem : Subsystem} {machine : Machine config} {root : PhysicalAddress}
      {answer : Answer} :
    Performs (.create subsystem) machine (.ok answer) (machine.addSpace subsystem root)
  | dropped {key : SpaceKey} {machine later : Machine config}
      (passes : Passes (Transition.Drops key) machine later)
      (pages : later.page? = fun probe other =>
        if probe = key then none else machine.page? probe other)
      (known : later.registration = fun probe =>
        if probe = key then none else machine.registration probe) :
    Performs (.drop key) machine (.ok .done) later
  | forked {parent : SpaceKey} {machine later : Machine config} {child : SpaceKey}
      {root : PhysicalAddress}
      (forks : Forks parent machine (.ok child) later) (laterRest : later.AtRest) :
    Performs (.fork parent) machine (.ok (.space child root)) later
  | unforked {parent : SpaceKey} {machine later : Machine config} {error : VmError}
      (forks : Forks parent machine (.error error) later) (laterRest : later.AtRest) :
    Performs (.fork parent) machine (.error error) later
  | copied {child parent : SpaceKey} {machine later : Machine config} {result : Except VmError Unit}
      (copies : CopiesSpace child parent machine result later)
      (passes : Passes (Transition.Clones child parent) machine later) :
    Performs (.copy child parent) machine (result.map fun _ => .done) later
  | requested {key : SpaceKey} {asked : SpaceRequest config} {machine later : Machine config}
      {result : Except VmError Answer} (spaceExists : (machine.spaces.get? key).isSome)
      (performs : asked.Performs key machine result later) :
    Performs (.request key asked) machine result later
  | idle {subsystem : Subsystem} {machine : Machine config} :
    Performs (.shutdown subsystem) machine (.ok .done) machine
  | noFrame {operation : Operation config} {machine : Machine config}
      (outside : operation = .takeFrame ∨ operation = .returnFrame) :
    Performs operation machine (.ok (.frame none)) machine
  | tookFrame {machine later : Machine config} {frame : FrameNumber}
      (leads : (Transition.lend frame).Leads machine later) :
    Performs .takeFrame machine (.ok (.frame (some frame))) later
  | returnedFrame {machine later : Machine config} {frame : FrameNumber}
      (leads : (Transition.reclaim frame).Leads machine later) :
    Performs .returnFrame machine (.ok (.frame (some frame))) later
  | createdFile {data : Bytes} {machine later : Machine config} {file : FileId}
      (leads : (Transition.createFile file data).Leads machine later) :
    Performs (.createFile data) machine (.ok (.file file)) later
  | closedFile {file : FileId} {machine : Machine config} {isOpen : Bool} :
    Performs (.closeFile file) machine (.ok (.wasOpen isOpen))
      { machine with
        environment := machine.environment.setFile file
          { machine.environment.file file with creatorHolds := false } }
  | wroteFile {file : FileId} {offset : Nat} {bytes : Bytes} {machine : Machine config} :
    Performs (.writeFile file offset bytes) machine (.ok (.written bytes.size))
      { machine with
        environment := machine.environment.setFile file
          ((machine.environment.file file).store offset bytes) }
  | setFileFaults {file : FileId} {change : FileFaults → FileFaults} {machine : Machine config} :
    Performs (.setFileFaults file change) machine (.ok .done)
      { machine with
        environment := machine.environment.setFile file
          { machine.environment.file file with
            faults := change (machine.environment.file file).faults } }
  | setSwapFaults {read write : Option (Option ErrorCode)} {lapses : List (Nat × SwapSwitches)}
      {machine later : Machine config} (leads : Transition.setSwapFaults.Leads machine later)
      (faults : later.environment.swap.faults =
        { read := read.getD machine.environment.swap.faults.read
          write := write.getD machine.environment.swap.faults.write
          lapses := lapses }) :
    Performs (.setSwapFaults read write lapses) machine (.ok .done) later

namespace KernelAction

variable {machine : Machine config} {whenFailed : VmError → Machine config → Prop}

/-- A request is made of a space that exists, and refused otherwise. -/
theorem withSpace_ends {key : SpaceKey} {action : KernelAction config Answer}
    {whenDone : Answer → Machine config → Prop} :
    (withSpace key action).Ends machine whenDone whenFailed ↔
      ((machine.spaces.get? key).isSome → action.Ends machine whenDone whenFailed) ∧
        (machine.spaces.get? key = none → whenDone (.refused .noSuchSpace) machine) := by
  unfold withSpace
  rw [Action.ends_bind, Action.ends_current]
  by_cases present : (machine.spaces.get? key).isSome
  · rw [if_pos (by exact present)]
    simp [present, Option.isSome_iff_ne_none.mp present]
  · rw [if_neg (by exact present)]
    simp [Option.not_isSome_iff_eq_none.mp present, Action.ends_pure]

/-- A request is made of a file that exists, and refused otherwise. -/
theorem withFile_ends {id : FileId} {action : File → KernelAction config Answer}
    {whenDone : Answer → Machine config → Prop} :
    (withFile id action).Ends machine whenDone whenFailed ↔
      (machine.environment.files.get? id = some (machine.environment.file id) →
        (action (machine.environment.file id)).Ends machine whenDone whenFailed) ∧
        (machine.environment.files.get? id = none → whenDone (.refused .noSuchFile) machine) := by
  unfold withFile Environment.file
  simp only [Action.ends_bind, Action.ends_current]
  cases machine.environment.files.get? id <;> simp [Action.ends_pure]

/-- Looking after the creator's handle changes nothing. -/
theorem checkCreationHandle_ends {file : FileId}
    {whenDone : Option Refusal → Machine config → Prop} (any : ∀ refusal, whenDone refusal machine) :
    (checkCreationHandle file).Ends machine whenDone whenFailed := by
  unfold checkCreationHandle
  simp only [Action.ends_bind, Action.ends_current]
  cases machine.environment.files.get? file with
  | none => exact any _
  | some contents => exact any _

/-- A request that is refused changes nothing. -/
theorem unlessRefused_ends {file : FileId} {action : KernelAction config Answer}
    {whenDone : Answer → Machine config → Prop}
    (refused : ∀ refusal, whenDone (.refused refusal) machine)
    (performs : action.Ends machine whenDone whenFailed) :
    (unlessRefused (checkCreationHandle file) action).Ends machine whenDone whenFailed := by
  unfold unlessRefused
  rw [Action.ends_bind]
  refine checkCreationHandle_ends fun refusal => ?_
  cases refusal with
  | none => exact performs
  | some refusal => exact refused refusal

/-- The target of a registration is what was asked for, or the request is turned down. -/
theorem target_ends (request : TargetRequest) {whenDone : Except Refusal (PageTarget config) →
      Machine config → Prop}
    (found : ∀ target, request.Grants target → whenDone (.ok target) machine)
    (refused : ∀ refusal, whenDone (.error refusal) machine)
    (failed : ∀ error, whenFailed error machine) :
    (target request).Ends machine whenDone whenFailed := by
  cases request with
  | anonymous => exact found _ rfl
  | malformed reason => exact refused _
  | file file offset readBytes zeroBytes =>
    unfold target
    rw [Action.ends_bind]
    refine checkCreationHandle_ends fun refusal => ?_
    cases refusal with
    | some refusal => exact refused refusal
    | none =>
      simp only [Action.ends_bind, Action.ends_ofExcept, Action.ends_pure]
      exact ⟨fun backing split => found _ ⟨backing, split, rfl⟩, fun _ _ => failed _⟩

/-- A page that is claimed by address is loaded, unless it is resident. -/
theorem claimAddress_ends {key : SpaceKey} (atRest : machine.AtRest) (address : VirtualAddress) :
    (claimAddress key address).Ends machine
      (fun _ later => (machine.page? key (address.page config)).isSome ∧
        Accessed key (address.page config) machine later)
      (fun _ later => Passes Transition.IsQuiet machine later) := by
  unfold claimAddress
  simp only [Action.ends_bind, ends_space, Action.ends_orFail]
  refine ⟨fun page found => ?_, fun _ => .refl atRest⟩
  have known : machine.page? key (address.page config) = some page := found
  have numbered := atRest.consistent.fits.number_eq known
  split
  · next resident =>
    obtain ⟨frame, holds⟩ := Option.isSome_iff_exists.mp resident
    have loaded : machine.page? key (address.page config) =
        some { page with kind := page.kind, frame := some frame } := by
      rw [known, ← holds]
    exact ⟨by simp [known], .present known (.refl atRest) loaded⟩
  · next absent =>
    rw [← numbered] at known ⊢
    refine (claimPage_ends atRest known (by simpa [Page.isResident] using absent)).mono ?_
      (fun _ _ => id)
    rintro _ later ⟨passes, kind, frame, resident⟩
    exact ⟨by simp [known], .present known passes resident⟩

/-- What an allocation does once its initializer has its name. -/
def allocateNamed (key : SpaceKey) (request : TargetRequest) (address : VirtualAddress)
    (writable : Bool) (registered : Option (Initializer config)) : KernelAction config Answer := do
  match ← target request with
  | .error refusal => return .refused refusal
  | .ok target =>
    allocatePage key target address writable registered
    return .done

/-- A page is registered with its initializer, or the initializer alone is listed. -/
theorem allocate_ends {key : SpaceKey} (spaceExists : (machine.spaces.get? key).isSome)
    (request : TargetRequest) (address : VirtualAddress) (writable : Bool)
    (body : Option (InitializerBody config)) :
    ((SpaceRequest.allocate request address writable body).perform key).Ends machine
      (fun answer later => SpaceRequest.Performs key (.allocate request address writable body)
        machine (.ok answer) later)
      (fun error later => SpaceRequest.Performs key (.allocate request address writable body)
        machine (.error error) later) := by
  have continues : (allocateNamed key request address writable (machine.namedInitializer body)).Ends
      (machine.listed body)
      (fun answer later => SpaceRequest.Performs key (.allocate request address writable body)
        machine (.ok answer) later)
      (fun error later => SpaceRequest.Performs key (.allocate request address writable body)
        machine (.error error) later) := by
    unfold allocateNamed
    rw [Action.ends_bind]
    refine target_ends request (fun target grants => ?_)
      (fun refusal => .listed fun _ same => ⟨refusal, (Except.ok.inj same).symm⟩)
      (fun _ => .listed nofun)
    unfold allocatePage
    simp only [Action.ends_bind, Action.ends_require]
    refine ⟨fun _ => Iff.mpr (insertPage_ends _) ⟨fun vacant => ?_, fun _ => .listed nofun⟩,
      fun _ => .listed nofun⟩
    refine .allocated grants (.register vacant rfl rfl ?_ ?_)
    · unfold listed
      split <;> exact spaceExists
    · exact fun _ waits => machine.isSome_runs_listed waits
  unfold SpaceRequest.perform
  cases body with
  | none => exact continues
  | some run =>
    simp only [Action.ends_bind, Action.ends_map, registerInitializer, Action.ends_current,
      Action.ends_change, Action.ends_pure]
    exact Action.ends_bind.mp continues

/-- A request on a machine at rest takes one of its ways. -/
theorem request_ends {key : SpaceKey} (atRest : machine.AtRest)
    (spaceExists : (machine.spaces.get? key).isSome) (asked : SpaceRequest config) :
    (asked.perform key).Ends machine
      (fun answer later => asked.Performs key machine (.ok answer) later)
      (fun error later => asked.Performs key machine (.error error) later) := by
  cases asked with
  | allocate request address writable body =>
    exact allocate_ends spaceExists request address writable body
  | claim address =>
    simp only [SpaceRequest.perform, Action.ends_bind, Action.ends_pure]
    exact (claimAddress_ends atRest address).mono
      (fun _ _ ⟨known, accessed⟩ => .claimed known accessed) fun _ _ passes => .unclaimed passes
  | remove address =>
    simp only [SpaceRequest.perform, Action.ends_bind, Action.ends_pure, removeAddress]
    cases found : machine.page? key (address.page config) with
    | none =>
      unfold Action.Ends
      rw [removePage_of_vacant found]
      exact .unremoved found
    | some page =>
      have numbered := atRest.consistent.fits.number_eq found
      rw [← numbered] at found ⊢
      refine (removePage_ends atRest.consistent found).mono ?_ ?_
      · intro _ later leads
        exact .removed (fun _ same => (Except.ok.inj same).symm) (numbered ▸ leads)
      · intro _ later leads
        exact .removed nofun (numbered ▸ leads)
  | fault access =>
    simp only [SpaceRequest.perform, Action.ends_bind, Action.ends_pure]
    exact (handleFault_ends atRest spaceExists access).mono
      (fun _ _ done => .resolved done.1) fun _ _ denied => .unresolved denied
  | userFault access =>
    simp only [SpaceRequest.perform, handleUserFault, Action.ends_map, Action.ends_bind,
      Action.ends_attempt]
    exact (handleFault_ends atRest spaceExists access).mono
      (fun _ _ done => .retried done.1) fun _ _ denied => .exited denied
  | recordStackPointer pointer => exact .pointed
  | read address buffer =>
    simp only [SpaceRequest.perform, Action.ends_bind]
    exact (copyFromUser_ends atRest spaceExists buffer).mono (fun _ _ reads => .read reads)
      fun _ _ => False.elim
  | write address bytes =>
    simp only [SpaceRequest.perform, Action.ends_bind, Action.ends_pure]
    exact (copyToUser_ends atRest spaceExists bytes).mono (fun _ _ writes => .written writes)
      fun _ _ writes => .written writes
  | map address length writable file offset =>
    refine unlessRefused_ends (fun _ => .refused) ?_
    rw [Action.ends_map]
    refine (mapFile_ends spaceExists address length writable file.creationHandle
      offset).mono ?_ ?_
    · rintro _ later ⟨rfl, plan, range, maps, starts, permission, source, position, aligned, counted⟩
      exact .mapped maps starts permission source position aligned counted
    · exact fun _ later leaves => .unmappable leaves
  | unmap address =>
    simp only [SpaceRequest.perform, Action.ends_bind, Action.ends_pure]
    refine (unmapFile_ends atRest address).mono ?_ ?_
    · rintro _ later ⟨region, unmaps⟩
      exact .unmapped (fun _ same => (Except.ok.inj same).symm) unmaps
    · rintro _ later (rfl | ⟨region, unmaps⟩)
      · exact .notUnmapped
      · exact .unmapped nofun unmaps
  | tearDown =>
    simp only [SpaceRequest.perform, Action.ends_bind, Action.ends_pure]
    exact (tearDown_ends atRest).mono (fun _ _ ⟨passes, pages⟩ => .tornDown passes pages)
      fun _ _ => False.elim

/-- A subsystem of a machine at rest that knows no space has no frame in its queue. -/
theorem queue_of_unused {subsystem : Subsystem} (atRest : machine.AtRest)
    (unused : machine.registeredSpaces subsystem = []) : (machine.table subsystem).queue = [] := by
  refine List.eq_nil_iff_forall_not_mem.mpr fun entry member => ?_
  cases owned : entry.owner with
  | none => exact List.not_mem_nil ((atRest.idle subsystem entry member).1 owned)
  | some owner =>
    obtain ⟨page, found, _⟩ := atRest.consistent.owned member owned
    obtain ⟨space, present⟩ := Option.isSome_iff_exists.mp (isSome_of_page? found)
    have registered := atRest.consistent.registered (isSome_of_page? found)
    rw [space_eq_of_get? present] at registered
    have listed : (⟨subsystem, owner.space⟩ : SpaceKey) ∈ machine.registeredSpaces subsystem :=
      List.mem_map.mpr ⟨(_, space), List.mem_filter.mpr
        ⟨OrderedMap.mem_entries_of_get? present, by simp [registered]⟩, rfl⟩
    rw [unused] at listed
    exact List.not_mem_nil listed

/-- Shutting down a subsystem that knows no space changes nothing. -/
theorem shutdown_ends {subsystem : Subsystem} (atRest : machine.AtRest)
    (unused : machine.registeredSpaces subsystem = []) :
    (shutdown subsystem).Ends machine (fun _ later => later = machine) (fun _ _ => False) := by
  have nobody : (machine.spaces.mapValues fun key space =>
      if key.subsystem = subsystem then { space with registered := false } else space) =
      machine.spaces := by
    refine OrderedMap.ext_get? fun key => ?_
    rw [OrderedMap.get?_mapValues]
    cases present : machine.spaces.get? key with
    | none => rfl
    | some space =>
      have registered := atRest.consistent.registered (Option.isSome_iff_exists.mpr ⟨_, present⟩)
      rw [space_eq_of_get? present] at registered
      rw [Option.map_some, if_neg]
      rintro rfl
      have listed : key ∈ machine.registeredSpaces key.subsystem :=
        List.mem_map.mpr ⟨(key, space), List.mem_filter.mpr
          ⟨OrderedMap.mem_entries_of_get? present, by simp [registered]⟩, rfl⟩
      rw [unused] at listed
      exact List.not_mem_nil listed
  unfold shutdown
  simp only [Action.ends_bind, Action.ends_current, unused, List.length_nil, if_true,
    queue_of_unused atRest unused, Action.ends_forEach_nil, Action.ends_change]
  rw [nobody]

/-- An outsider takes the frame that has been free the longest. -/
theorem takeFree_lend_ends :
    ((Operation.takeFrame : Operation config).perform).Ends machine
      (fun answer later => Operation.Performs .takeFrame machine (.ok answer) later)
      (fun _ _ => False) := by
  unfold Operation.perform takeFree
  simp only [Action.ends_bind, Action.ends_current]
  cases free : machine.pool.free with
  | nil =>
    have none : machine.pool.take = none := by simp [FramePool.take, free]
    simp only [none]
    exact .noFrame (.inl rfl)
  | cons frame rest =>
    have taken : machine.pool.take = some (frame, { machine.pool with free := rest }) := by
      simp [FramePool.take, free]
    simp only [taken]
    exact .tookFrame (.lend free)

/-- An outsider can return a frame that it has, and is refused otherwise. -/
theorem returnFrame_ends (nodup : machine.frames.Nodup) :
    ((Operation.returnFrame : Operation config).perform).Ends machine
      (fun answer later => Operation.Performs .returnFrame machine (.ok answer) later)
      (fun _ _ => False) := by
  unfold Operation.perform
  simp only [Action.ends_bind, Action.ends_current]
  cases lowest : machine.pool.lowestLent with
  | none => exact .noFrame (.inr rfl)
  | some frame =>
    have lent : frame ∈ machine.pool.outside.keys := List.mem_of_mem_head? lowest
    have notFree : (!(machine.pool.takeBack frame).isFree frame) = true := by
      rw [Bool.not_eq_true', ← Bool.not_eq_true, FramePool.isFree, List.contains_iff_mem]
      intro free
      exact (List.disjoint_of_nodup_append nodup) (List.mem_append_left _ free) lent
    simp only [Action.ends_bind, Action.ends_change, giveBack, Action.ends_current]
    rw [Action.ends_assert notFree]
    exact .returnedFrame (.reclaim lent)

end KernelAction

/-- Whether an operation may be asked for: a subsystem is shut down only when it knows no space. -/
def Operation.IsPermitted (machine : Machine config) : Operation config → Prop
  | .shutdown subsystem => machine.registeredSpaces subsystem = []
  | _ => True

open KernelAction

/-- An operation on a machine at rest takes one of its ways. It stops the kernel only when room has to
be made and cannot be made. -/
theorem Operation.perform_ends {machine : Machine config} (atRest : machine.AtRest)
    (operation : Operation config) (permitted : operation.IsPermitted machine) :
    operation.perform.Ends machine
      (fun answer later => operation.Performs machine (.ok answer) later)
      (fun error later => operation.Performs machine (.error error) later) := by
  cases operation with
  | create subsystem =>
    simp only [perform, Action.ends_bind]
    refine (createSpace_ends machine subsystem).mono ?_ (fun _ _ => False.elim)
    rintro _ _ ⟨rfl, root, rfl⟩
    exact .created
  | drop key =>
    refine withSpace_ends.mpr ⟨fun _ => ?_, fun _ => .refused⟩
    simp only [Action.ends_bind, Action.ends_pure]
    refine (dropSpace_ends atRest).mono ?_ (fun _ _ => False.elim)
    rintro _ later ⟨passes, pages, known⟩
    exact .dropped passes pages known
  | fork parent =>
    refine withSpace_ends.mpr ⟨fun _ => ?_, fun _ => .refused⟩
    simp only [Action.ends_bind]
    refine (forkSpace_ends atRest).mono ?_ ?_
    · rintro child later ⟨laterRest, forks⟩
      exact .forked forks laterRest
    · rintro error later ⟨laterRest, forks⟩
      exact .unforked forks laterRest
  | copy child parent =>
    refine withSpace_ends.mpr ⟨fun childExists => ?_, fun _ => .refused⟩
    refine withSpace_ends.mpr ⟨fun _ => ?_, fun _ => .refused⟩
    simp only [Action.ends_bind, Action.ends_pure]
    refine (copySpace_ends atRest childExists).mono ?_ ?_
    · rintro _ later ⟨passes, copies⟩
      exact .copied copies passes
    · rintro error later ⟨passes, copies⟩
      exact .copied copies passes
  | request key asked =>
    refine withSpace_ends.mpr ⟨fun spaceExists => ?_, fun _ => .refused⟩
    exact (request_ends atRest spaceExists asked).mono
      (fun _ _ performs => .requested spaceExists performs)
      fun _ _ performs => .requested spaceExists performs
  | shutdown subsystem =>
    simp only [perform, Action.ends_bind, Action.ends_pure]
    refine (shutdown_ends atRest permitted).mono ?_ (fun _ _ => False.elim)
    rintro _ _ rfl
    exact .idle
  | takeFrame => exact takeFree_lend_ends.mono (fun _ _ => id) (fun _ _ => False.elim)
  | returnFrame =>
    exact (returnFrame_ends atRest.consistent.nodup).mono (fun _ _ => id) (fun _ _ => False.elim)
  | createFile data => exact .createdFile .createFile
  | closeFile file =>
    exact withFile_ends.mpr ⟨fun _ => .closedFile, fun _ => .refused⟩
  | writeFile file offset bytes =>
    exact withFile_ends.mpr ⟨fun _ => .wroteFile, fun _ => .refused⟩
  | setFileFaults file change =>
    exact withFile_ends.mpr ⟨fun _ => .setFileFaults, fun _ => .refused⟩
  | setSwapFaults read write lapses => exact .setSwapFaults .setSwapFaults rfl

/-- Every request of a space passes through transitions. -/
theorem SpaceRequest.Performs.passes {key : SpaceKey} {asked : SpaceRequest config}
    {machine later : Machine config} {result : Except VmError Answer}
    (performs : asked.Performs key machine result later) (atRest : machine.AtRest)
    (spaceExists : (machine.spaces.get? key).isSome) :
    Passes (fun _ => True) machine later := by
  have lists : ∀ body, Passes (fun _ => True) machine (machine.listed body) := by
    intro body
    unfold Machine.listed
    split
    · exact .single atRest .listInitializer trivial
    · exact .refl atRest
  cases performs with
  | refused | unremoved | notUnmapped => exact .refl atRest
  | listed => exact lists _
  | allocated _ registers =>
    exact (lists _).trans (.single (lists _).atRest registers trivial)
  | claimed _ accessed | resolved accessed | retried accessed =>
    exact (accessed.passes atRest).mono fun _ _ => trivial
  | unclaimed passes => exact passes.mono fun _ _ => trivial
  | removed _ leads => exact .single atRest leads trivial
  | unresolved denied => exact (denied.passes atRest).mono fun _ _ => trivial
  | exited denied =>
    have before := (denied.passes atRest).mono fun _ _ => trivial
    exact before.trans (.single before.atRest (.note rfl) trivial)
  | pointed => exact .single atRest (.set fun _ => rfl) trivial
  | read reads => exact (reads.passes atRest).mono fun _ _ => trivial
  | written writes => exact (writes.passes atRest).mono fun _ _ => trivial
  | mapped maps => exact (maps.passes atRest spaceExists).mono fun _ _ => trivial
  | unmappable leaves => exact (leaves.passes atRest).mono fun _ _ => trivial
  | @unmapped address _ _ _ _ _ unmaps =>
    have erased : Passes (fun _ => True) machine (machine.unrecorded key (address.page config)) :=
      .single atRest (machine.unrecorded_leads key _) trivial
    exact erased.trans (unmaps.passes.mono fun _ _ => trivial)
  | tornDown passes => exact passes.mono fun _ _ => trivial

/-- Every operation is a path of transitions, with no frame in hand at its end. -/
theorem Operation.Performs.passes {operation : Operation config} {machine later : Machine config}
    {result : Except VmError Answer} (performs : operation.Performs machine result later)
    (atRest : machine.AtRest) : Passes (fun _ => True) machine later := by
  have created : ∀ subsystem root,
      Passes (fun _ => True) machine (machine.addSpace subsystem root) :=
    fun _ _ => .single atRest .create trivial
  cases performs with
  | refused | idle | noFrame => exact .refl atRest
  | created => exact created _ _
  | dropped passes => exact passes.mono fun _ _ => trivial
  | forked forks =>
    cases forks with
    | done creates _ passes =>
      rw [creates] at passes
      exact (created _ _).trans (passes.mono fun _ _ => trivial)
  | unforked forks =>
    cases forks with
    | undone creates _ passes drops =>
      rw [creates] at passes
      exact ((created _ _).trans (passes.mono fun _ _ => trivial)).trans
        (drops.mono fun _ _ => trivial)
  | copied _ passes => exact passes.mono fun _ _ => trivial
  | requested spaceExists performs => exact performs.passes atRest spaceExists
  | tookFrame leads => exact .single atRest leads trivial
  | returnedFrame leads => exact .single atRest leads trivial
  | createdFile leads => exact .single atRest leads trivial
  | closedFile | wroteFile | setFileFaults => exact .single atRest .setFile trivial
  | setSwapFaults leads => exact .single atRest leads trivial

end DemandPaging
