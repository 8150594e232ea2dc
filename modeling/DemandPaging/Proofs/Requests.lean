import DemandPaging.Proofs.Mapping.Exactness
import DemandPaging.Proofs.Replica
import DemandPaging.Proofs.Resolver
import DemandPaging.Proofs.Shortage

/-!
# Who requests frames

Frames are requested to load a page that is claimed or faulted on, and for each page with content that a
space is copied with. Whatever else these operations do makes no room, so each of them stops the kernel
exactly if one of its requests meets a shortage. A copy keeps what its subsystem can draw on, the free
frames and those in the queue, and exempts one frame from eviction at a time. So two frames are enough for
a fork not to run out of them.
-/

namespace DemandPaging

open Machine

variable {config : Config}

/-! ## Loading makes no room -/

namespace KernelAction

/-- Reading a page from its file needs no frame but the one it fills. -/
theorem makesNoRoom_loadFile (backing : FileBacking config) : backing.load.MakesNoRoom := by
  unfold FileBacking.load
  refine .bind (.change _) fun _ => ?_
  split
  · exact .pure _
  · refine .bind (.zoom ?_) fun data => .bind (.change _) fun _ => ?_
    · unfold EnvironmentAction.readFile EnvironmentAction.checkHandle
      refine .bind (.change _) fun _ => .bind (.bind .current fun environment => ?_)
        fun _ => .bind .current fun environment => ?_
      · split
        · exact .fail _
        · exact .pure _
      · split
        · exact .fail _
        · exact .bind (.change _) fun _ => .pure _
    · split
      · exact .pure _
      · exact .bind (.zoom (.change _)) fun _ => .fail _

/-- Running an initializer needs no frame but the one it fills. -/
theorem makesNoRoom_runInitializer (initializer : Initializer config) (number : PageNumber) :
    (FrameAction.runInitializer initializer number).MakesNoRoom := by
  unfold FrameAction.runInitializer EnvironmentAction.countRun
  refine .bind (.zoom (.change _)) fun _ =>
    .bind (.zoom (.bind (.view _) fun _ => .bind (.change _) fun _ => .pure _)) fun run =>
      .bind .current fun window => ?_
  refine .bind (.change _) fun _ => ?_
  split
  · exact .fail _
  · exact .pure _

theorem makesNoRoom_readSlot (slot : SwapSlot) :
    (EnvironmentAction.readSlot slot : EnvironmentAction config _).MakesNoRoom := by
  refine .bind .current fun environment => ?_
  split
  · exact .pure _
  · exact .fail _

/-- Loading a page needs no frame but the one it fills. -/
theorem makesNoRoom_load (number : PageNumber) (kind : PageKind config) :
    (kind.load number).MakesNoRoom := by
  match kind with
  | .anonymous none => exact .bind (.change _) fun _ => .pure _
  | .anonymous (some slot) =>
    refine .bind (.zoom (makesNoRoom_readSlot slot)) fun content =>
      .bind (.change _) fun _ => .bind (.zoom ?_) fun _ => .pure _
    exact .bind .current fun _ => .bind (.assert nofun) fun _ => .change _
  | .file backing => exact .bind (makesNoRoom_loadFile backing) fun _ => .pure _
  | .unloaded target initializer =>
    refine .bind ?_ fun kind => ?_
    · cases target with
      | anonymous => exact .bind (.change _) fun _ => .pure _
      | file backing => exact .bind (makesNoRoom_loadFile backing) fun _ => .pure _
    · cases initializer with
      | none => exact .bind (.pure _) fun _ => .pure _
      | some initializer => exact .bind (makesNoRoom_runInitializer initializer number) fun _ => .pure _

/-- A page that has its frame asks for no other. -/
theorem makesNoRoom_settlePage (key : SpaceKey) (page : Page config) (frame : FrameNumber) :
    (settlePage key page frame).MakesNoRoom := by
  refine .bind (.assert nofun) fun _ => .bind (.change _) fun _ => .bind .current fun machine => ?_
  split
  · exact .bind (.change _) fun _ => .change _
  · exact .change _

/-- A copy that has its frame asks for no other. -/
theorem makesNoRoom_settleCopy (key : SpaceKey) (page : Page config) (frame : FrameNumber)
    (number : PageNumber) (dirty : Bool) :
    (do settlePage key page frame
        if dirty then updateSpace key (·.markDirty number) else pure () :
      KernelAction config Unit).MakesNoRoom := by
  refine .bind (makesNoRoom_settlePage key page frame) fun _ => ?_
  split
  · exact .change _
  · exact .pure _

end KernelAction

/-! ## Requests -/

namespace Machine

variable {machine : Machine config}

/-- Between operations no frame is exempt from eviction. -/
theorem AtRest.requesting (atRest : machine.AtRest) (subsystem : Subsystem) :
    machine.Requesting subsystem none where
  consistent := atRest.consistent
  owned entry listed := by
    rw [← Option.ne_none_iff_isSome]
    exact fun unowned => List.not_mem_nil ((atRest.idle subsystem entry listed).1 unowned)
  pinned entry listed :=
    iff_of_false (fun isPinned => List.not_mem_nil ((atRest.idle subsystem entry listed).2 isPinned))
      nofun

/-- While a frame is being copied it is exempt from eviction, and no other is. -/
theorem AtRest.requesting_of_pinned (atRest : machine.AtRest) {subsystem : Subsystem}
    {source : FrameNumber} (tracked : source ∈ (machine.table subsystem).frames) :
    (machine.updateTable subsystem (·.setPinned source true)).Requesting subsystem (some source) := by
  have pins : (Transition.pin subsystem source true).Leads machine _ := .pin tracked
  have changed : ∀ entry ∈ ((machine.updateTable subsystem (·.setPinned source true)).table
      subsystem).queue, ∃ former ∈ (machine.table subsystem).queue,
        (if former.frame = source then { former with pinned := true } else former) = entry := by
    rw [table_updateTable]
    exact fun entry listed => List.mem_map.mp listed
  refine ⟨pins.consistent atRest.consistent, fun entry listed => ?_, fun entry listed => ?_⟩
  · obtain ⟨former, known, rfl⟩ := changed entry listed
    have owned := (atRest.requesting subsystem).owned former known
    split <;> exact owned
  · obtain ⟨former, known, rfl⟩ := changed entry listed
    have unpinned := (atRest.requesting subsystem).pinned former known
    split
    · next same => exact iff_of_true rfl (congrArg some same.symm)
    · next other =>
      refine unpinned.trans (iff_of_false nofun ?_)
      rintro ⟨rfl⟩
      exact other rfl

end Machine

/-- The request that a claim makes: the page that holds the address is registered and not resident. -/
inductive ClaimAsks (key : SpaceKey) (address : VirtualAddress) (machine : Machine config) :
    FrameRequest config → Prop where
  | load {page : Page config} (found : machine.page? key (address.page config) = some page)
      (absent : page.frame = none) : ClaimAsks key address machine ⟨machine, key.subsystem, [key], none⟩

/-- The request that a fault makes: a page that may be accessed is not resident, or the stack grows by a
page, which is registered by then. -/
inductive FaultAsks (key : SpaceKey) (fault : PageFault) (machine : Machine config) :
    FrameRequest config → Prop where
  | load {page : Page config} (named : fault.IsNamed config) (missing : fault.cause.notPresent = true)
      (found : machine.page? key (fault.address.page config) = some page)
      (permitted : ¬ fault.IsForbidden config page) (absent : page.frame = none) :
    FaultAsks key fault machine ⟨machine, key.subsystem, [key], none⟩
  | grow (named : fault.IsNamed config) (missing : fault.cause.notPresent = true)
      (vacant : machine.page? key (fault.address.page config) = none)
      (pushes : fault.PushesStack config (machine.space key).stackPointer) :
    FaultAsks key fault machine
      ⟨(machine.record (.growingStack (fault.address.page config))).updateSpace key
        (·.setPage (Page.ofStack (fault.address.page config))), key.subsystem, [key], none⟩

/-- The request that is made to copy the content of a page. A frame that the content is in is exempt from
eviction meanwhile. -/
def FrameRequest.ofCopy (child parent : SpaceKey) (machine : Machine config) :
    CopySource → FrameRequest config
  | .frame source => ⟨machine.updateTable child.subsystem (·.setPinned source true), child.subsystem,
      [parent, child], some source⟩
  | .slot _ => ⟨machine, child.subsystem, [parent, child], none⟩

/-- The requests of a copy, one for each page with content whose copy could be registered, once the pages
before it are copied. -/
inductive CopyAsks (child parent : SpaceKey) (machine : Machine config) :
    FrameRequest config → Prop where
  | page {earlier rest : List PageNumber} {middle : Machine config} {page : Page config}
      {source : CopySource} (apart : child ≠ parent) (home : child.subsystem = parent.subsystem)
      (listed : (machine.space parent).pages.keys = earlier ++ page.number :: rest)
      (copied : Action.forEach (KernelAction.copyPage child parent) earlier
        (machine.takeStackPointer child parent) = .done () middle)
      (found : middle.page? parent page.number = some page)
      (vacant : middle.page? child page.number = none) (content : page.copySource? = some source) :
    CopyAsks child parent machine
      (.ofCopy child parent (middle.updateSpace child (·.setPage page.forked)) source)

/-- The requests of a fork are those of the copy of the space. -/
inductive ForkAsks (parent : SpaceKey) (machine : Machine config) : FrameRequest config → Prop where
  | copy {child : SpaceKey} {created : Machine config} {request : FrameRequest config}
      (creates : KernelAction.createSpace parent.subsystem machine = .done child created)
      (asks : CopyAsks child parent created request) : ForkAsks parent machine request

namespace KernelAction

variable {Value : Type} {machine : Machine config} {key child parent : SpaceKey} {panic : Panic}

/-- An action whose requests for frames are decided, and that stops the kernel exactly if one of them meets
a shortage. -/
structure Requests (action : KernelAction config Value) (machine : Machine config)
    (asks : FrameRequest config → Prop) : Prop where
  decided : ∀ request, asks request → request.IsDecided
  stops : ∀ panic, action.Stops machine panic ↔ ∃ request, asks request ∧ request.Shortage panic

/-- Where every return and failure is accounted for, an action's requests are decided by its
exhaustion panics. -/
theorem requests_of_ends {action : KernelAction config Value} {asks : FrameRequest config → Prop}
    {whenDone : Value → Machine config → Prop} {whenFailed : VmError → Machine config → Prop}
    (ends : action.Ends machine whenDone whenFailed)
    (requesting : ∀ request, asks request →
      request.machine.Requesting request.subsystem request.source)
    (stops : ∀ panic, panic.IsExhaustion → (action.Stops machine panic ↔
      ∃ request, asks request ∧ ∃ last, request.outcome = .panicked panic last)) :
    action.Requests machine asks := by
  have decided : ∀ request, asks request → request.IsDecided :=
    fun request asked => request.isDecided (requesting request asked)
  refine ⟨decided, fun panic => ⟨fun stopped => ?_, ?_⟩⟩
  · obtain ⟨request, asked, unmet⟩ := (stops panic (ends.isExhaustion_of_stops stopped)).mp stopped
    exact ⟨request, asked, ((decided request asked).stops panic).mp unmet⟩
  · rintro ⟨request, asked, shortage⟩
    exact (stops panic shortage.isExhaustion).mpr
      ⟨request, asked, ((decided request asked).stops panic).mpr shortage⟩

theorem stops_space {next : Space config → KernelAction config Value} :
    (space key >>= next).Stops machine panic ↔ (next (machine.space key)).Stops machine panic :=
  Iff.rfl

theorem stops_record {event : Event} {next : Unit → KernelAction config Value} :
    (record event >>= next).Stops machine panic ↔ (next ()).Stops (machine.record event) panic :=
  Iff.rfl

/-! ## Claims and faults -/

/-- A claim stops the kernel where the request for a frame does. -/
theorem claimPage_stops_iff (number : PageNumber) (exhaustion : panic.IsExhaustion) :
    (claimPage key number).Stops machine panic ↔
      (acquireFrame key.subsystem [key]).Stops machine panic := by
  refine Action.stops_bind_iff_of_makesNoRoom exhaustion fun frame => .bind (.view _) fun space => ?_
  split
  · exact .bind (makesNoRoom_releaseFrame _ _) fun _ => .fail _
  · next page _ =>
    refine .bind (.change _) fun _ =>
      .bind (.attempt (.zoom (makesNoRoom_load page.number page.kind))) fun result => ?_
    split
    · exact .bind (.change _) fun _ => .bind (makesNoRoom_releaseFrame _ _) fun _ => .fail _
    · exact .bind (.change _) fun _ => makesNoRoom_settlePage _ _ _

/-- A page is claimed only if it is not resident, and the claim stops the kernel where its request
for a frame does. -/
theorem claimAbsent_stops_iff {page : Page config} (number : PageNumber)
    (exhaustion : panic.IsExhaustion) :
    (if page.isResident then pure () else claimPage key number : KernelAction config Unit).Stops
        machine panic ↔
      page.frame = none ∧ (acquireFrame key.subsystem [key]).Stops machine panic := by
  unfold Page.isResident
  cases page.frame with
  | some frame => exact iff_of_false ((Action.MakesNoRoom.pure ()).not_stops exhaustion) nofun
  | none => exact (claimPage_stops_iff number exhaustion).trans (and_iff_right rfl).symm

/-- A claim makes one request if the page has to be loaded. -/
theorem claimAddress_requests (atRest : machine.AtRest) (address : VirtualAddress) :
    (claimAddress key address).Requests machine (ClaimAsks key address machine) := by
  refine requests_of_ends (claimAddress_ends atRest address) ?_ fun panic exhaustion => ?_
  · rintro _ ⟨_, _⟩
    exact atRest.requesting key.subsystem
  · have decided : (claimAddress key address).Stops machine panic ↔
        (Action.orFail (machine.page? key (address.page config)) .notMapped >>= fun page =>
          if page.isResident then return () else claimPage key (address.page config) :
            KernelAction config Unit).Stops machine panic := Iff.rfl
    simp only [decided, Action.stops_orFail_bind, claimAbsent_stops_iff _ exhaustion]
    constructor
    · rintro ⟨page, found, absent, unmet⟩
      exact ⟨_, .load found absent, unmet⟩
    · rintro ⟨_, ⟨found, absent⟩, unmet⟩
      exact ⟨_, found, absent, unmet⟩

/-- What follows the registration of a page is to blame if the kernel is stopped. -/
theorem insertPage_bind_stops_iff {page : Page config} {next : KernelAction config Value}
    (exhaustion : panic.IsExhaustion) :
    (insertPage key page >>= fun _ => next).Stops machine panic ↔
      machine.page? key page.number = none ∧
        next.Stops (machine.updateSpace key (·.setPage page)) panic := by
  rw [Action.stops_bind]
  constructor
  · rintro (early | ⟨_, middle, done, late⟩)
    · exact absurd early ((makesNoRoom_insertPage page).not_stops exhaustion)
    · obtain ⟨vacant, rfl⟩ := insertPage_eq_done_iff.mp done
      exact ⟨vacant, late⟩
  · rintro ⟨vacant, late⟩
    exact .inr ⟨_, _, insertPage_eq_done_iff.mpr ⟨vacant, rfl⟩, late⟩

/-- The stack stops the kernel from growing where the request for a frame does. -/
theorem growStack_stops_iff (number : PageNumber) (exhaustion : panic.IsExhaustion) :
    (growStack key number).Stops machine panic ↔ machine.page? key number = none ∧
      (acquireFrame key.subsystem [key]).Stops ((machine.record (.growingStack number)).updateSpace key
        (·.setPage (Page.ofStack number))) panic := by
  unfold growStack
  rw [stops_record, insertPage_bind_stops_iff exhaustion]
  refine and_congr_right fun _ => ?_
  refine (Action.stops_bind_iff_of_makesNoRoom exhaustion fun result => ?_).trans
    (Action.stops_attempt.trans (claimPage_stops_iff number exhaustion))
  split
  · exact .pure _
  · exact .bind (.change _) fun _ => .fail _

/-- A fault stops the kernel where its request for a frame does. -/
theorem handleFault_stops_iff (fault : PageFault) (exhaustion : panic.IsExhaustion) :
    (handleFault key fault).Stops machine panic ↔
      ∃ request, FaultAsks key fault machine request ∧ ∃ last, request.outcome = .panicked panic last := by
  have isNamed : fault.address.isNameable config = true ↔ fault.IsNamed config :=
    VirtualAddress.isNameable_iff
  unfold handleFault
  rw [Action.stops_require_bind, Action.stops_require_bind, stops_space, isNamed]
  cases known : (machine.space key).pages.get? (fault.address.page config) with
  | none =>
    have vacant : machine.page? key (fault.address.page config) = none := known
    simp only [known]
    constructor
    · rintro ⟨named, missing, stops⟩
      split at stops
      · next grows =>
        obtain ⟨_, unmet⟩ := (growStack_stops_iff _ exhaustion).mp stops
        exact ⟨_, .grow named missing vacant (PageFault.pushesStack_iff.mp grows), unmet⟩
      · exact absurd stops (Action.MakesNoRoom.not_stops
          (.bind (.change _) fun _ => .fail _) exhaustion)
    · rintro ⟨_, ⟨_, _, found, _, _⟩ | ⟨named, missing, _, pushes⟩, unmet⟩
      · cases vacant.symm.trans found
      · refine ⟨named, missing, ?_⟩
        rw [if_pos (PageFault.pushesStack_iff.mpr pushes)]
        exact (growStack_stops_iff _ exhaustion).mpr ⟨vacant, unmet⟩
  | some page =>
    have found : machine.page? key (fault.address.page config) = some page := known
    have permitted : (!fault.cause.write || page.writable) = true ↔ ¬ fault.IsForbidden config page := by
      simp [PageFault.IsForbidden, or_iff_not_imp_left]
    simp only [known, Action.stops_require_bind, permitted, claimAbsent_stops_iff _ exhaustion]
    constructor
    · rintro ⟨named, missing, allowed, absent, unmet⟩
      exact ⟨_, .load named missing found allowed absent, unmet⟩
    · rintro ⟨_, ⟨named, missing, found', allowed, absent⟩ | ⟨_, _, vacant, _⟩, unmet⟩
      · cases found.symm.trans found'
        exact ⟨named, missing, allowed, absent, unmet⟩
      · cases found.symm.trans vacant

/-- A fault makes one request if a page has to be loaded. -/
theorem handleFault_requests (atRest : machine.AtRest) (spaceExists : (machine.spaces.get? key).isSome)
    (fault : PageFault) : (handleFault key fault).Requests machine (FaultAsks key fault machine) := by
  refine requests_of_ends (handleFault_ends atRest spaceExists fault) ?_
    fun panic => handleFault_stops_iff fault
  rintro _ (_ | ⟨_, _, vacant, _⟩)
  · exact atRest.requesting key.subsystem
  · have grows : Grows key (fault.address.page config) machine _ :=
      ⟨vacant, .register vacant rfl rfl spaceExists nofun⟩
    exact (grows.passes atRest).atRest.requesting key.subsystem

/-! ## Copies and forks -/

/-- A page is filled, or its request for a frame stops the kernel. -/
theorem fillCopy_stops_iff (number : PageNumber) (source : CopySource)
    (exhaustion : panic.IsExhaustion) :
    (fillCopy child parent number source).Stops machine panic ↔
      ∃ last, (FrameRequest.ofCopy child parent machine source).outcome = .panicked panic last := by
  cases source with
  | frame source =>
    have pinned : (fillCopy child parent number (.frame source)).Stops machine panic ↔
        (acquireFrame child.subsystem [parent, child] >>= fun frame => do
          updateTable child.subsystem (·.setPinned source false)
          .change fun machine => machine.setFrameBytes frame (machine.frameBytes source)
          return (frame, (← space parent).isDirty number) :
            KernelAction config (FrameNumber × Bool)).Stops
          (machine.updateTable child.subsystem (·.setPinned source true)) panic := Iff.rfl
    exact pinned.trans (Action.stops_bind_iff_of_makesNoRoom exhaustion fun frame =>
      .bind (.change _) fun _ => .bind (.change _) fun _ => .bind (.view _) fun _ => .pure _)
  | slot slot =>
    refine Action.stops_bind_iff_of_makesNoRoom exhaustion fun frame =>
      .bind (.attempt (.zoom (makesNoRoom_readSlot slot))) fun result => ?_
    split
    · exact .bind (.change _) fun _ => .pure _
    · exact .bind (makesNoRoom_releaseFrame _ _) fun _ => .fail _

/-- A copied page stops the kernel exactly where the request for its frame does. -/
theorem fillPage_stops_iff (page : Page config) (number : PageNumber) (source : CopySource)
    (exhaustion : panic.IsExhaustion) :
    (do let (frame, dirty) ← fillCopy child parent number source
        settlePage child page.forked frame
        if dirty then updateSpace child (·.markDirty number) else pure () :
      KernelAction config Unit).Stops machine panic ↔
      ∃ last, (FrameRequest.ofCopy child parent machine source).outcome = .panicked panic last := by
  rw [← fillCopy_stops_iff number source exhaustion]
  exact Action.stops_bind_iff_of_makesNoRoom exhaustion fun filled =>
    makesNoRoom_settleCopy child page.forked filled.1 number filled.2

/-- A page with content whose copy can be registered makes one request. -/
theorem copyPage_stops_iff (number : PageNumber) (exhaustion : panic.IsExhaustion) :
    (copyPage child parent number).Stops machine panic ↔
      ∃ page source, machine.page? parent number = some page ∧
        machine.page? child page.number = none ∧ page.copySource? = some source ∧
        ∃ last, (FrameRequest.ofCopy child parent (machine.updateSpace child (·.setPage page.forked))
          source).outcome = .panicked panic last := by
  unfold copyPage
  rw [stops_space]
  cases known : (machine.space parent).pages.get? number with
  | none =>
    have vacant : machine.page? parent number = none := known
    simp only [vacant]
    exact iff_of_false ((Action.MakesNoRoom.pure ()).not_stops exhaustion) nofun
  | some page =>
    have found : machine.page? parent number = some page := known
    simp only [found, insertPage_bind_stops_iff exhaustion]
    cases content : page.copySource? with
    | none =>
      refine iff_of_false (fun stops => (Action.MakesNoRoom.pure ()).not_stops exhaustion stops.2) ?_
      rintro ⟨_, _, ⟨rfl⟩, _, copied, _⟩
      cases content.symm.trans copied
    | some source =>
      refine (and_congr_right fun _ => fillPage_stops_iff page number source exhaustion).trans ?_
      constructor
      · exact fun ⟨vacant, unmet⟩ => ⟨page, source, rfl, vacant, content, unmet⟩
      · rintro ⟨_, _, ⟨rfl⟩, vacant, copied, unmet⟩
        cases content.symm.trans copied
        exact ⟨vacant, unmet⟩

/-- A space is copied page by page. -/
theorem copySpace_stops_iff :
    (copySpace child parent).Stops machine panic ↔
      child ≠ parent ∧ child.subsystem = parent.subsystem ∧
        (Action.forEach (copyPage child parent) (machine.space parent).pages.keys).Stops
          (machine.takeStackPointer child parent) panic := by
  have permitted : (child.id != parent.id && child.subsystem == parent.subsystem) = true ↔
      child ≠ parent ∧ child.subsystem = parent.subsystem := by
    obtain ⟨subsystem, id⟩ := child
    obtain ⟨subsystem', id'⟩ := parent
    simp only [Bool.and_eq_true, bne_iff_ne, beq_iff_eq, ne_eq, SpaceKey.mk.injEq]
    tauto
  have pointed : ∀ next : KernelAction config Unit,
      (updateSpace child (fun space => { space with
        stackPointer := (machine.space parent).stackPointer }) >>= fun _ => next).Stops machine panic ↔
        next.Stops (machine.takeStackPointer child parent) panic := fun _ => Iff.rfl
  unfold copySpace
  rw [Action.stops_require_bind, permitted, stops_space, pointed, and_assoc]
  refine and_congr_right fun _ => and_congr_right fun _ => ?_
  rw [Action.stops_bind]
  refine ⟨fun stops => stops.elim id ?_, .inl⟩
  rintro ⟨_, _, _, _, late⟩
  cases late

end KernelAction

namespace Machine

variable {machine : Machine config} {child parent : SpaceKey} {request : FrameRequest config}

/-- The request for the copy of a page finds no frame exempt from eviction but the one to be copied. -/
theorem AtRest.requesting_ofCopy (atRest : machine.AtRest) (home : child.subsystem = parent.subsystem)
    {page : Page config} (found : machine.page? parent page.number = some page) {source : CopySource}
    (content : page.copySource? = some source) :
    (FrameRequest.ofCopy child parent machine source).machine.Requesting
      (FrameRequest.ofCopy child parent machine source).subsystem
      (FrameRequest.ofCopy child parent machine source).source := by
  cases source with
  | frame source =>
    obtain ⟨_, resident⟩ := page.copySource?_eq_frame content
    have tracked : source ∈ (machine.table child.subsystem).frames := by
      rw [home]
      exact atRest.consistent.tables.tracked ((frame?_of_found found).trans resident)
    exact atRest.requesting_of_pinned tracked
  | slot slot => exact atRest.requesting child.subsystem

/-- A page whose copy was registered. -/
theorem AtRest.registered (atRest : machine.AtRest) (spaceExists : (machine.spaces.get? child).isSome)
    (apart : child ≠ parent) {page : Page config} (found : machine.page? parent page.number = some page)
    (vacant : machine.page? child page.number = none) :
    (machine.updateSpace child (·.setPage page.forked)).AtRest ∧
      (machine.updateSpace child (·.setPage page.forked)).page? parent page.number = some page := by
  have registers := atRest.consistent.registers_forked spaceExists found vacant
  have passes : Passes (Transition.Clones child parent) machine _ := passes_register atRest registers
  refine ⟨passes.atRest, ?_⟩
  rw [page?_setPage spaceExists, amend_of_ne fun same => apart same.1.symm]
  exact found

/-- A machine in which a space was created. -/
theorem AtRest.of_created (atRest : machine.AtRest) {subsystem : Subsystem} {created : Machine config}
    (creates : KernelAction.createSpace subsystem machine = .done child created) :
    created.AtRest ∧ (created.spaces.get? child).isSome := by
  obtain ⟨rfl, root, rfl⟩ := (KernelAction.createSpace_ends machine subsystem).of_done creates
  refine ⟨addSpace_atRest atRest subsystem root, ?_⟩
  rw [spaces_addSpace, OrderedMap.get?_insert_self]
  rfl

/-- The pages before a request are copied by the transitions of a copy. -/
theorem AtRest.passes_copied (atRest : machine.AtRest) (spaceExists : (machine.spaces.get? child).isSome)
    (apart : child ≠ parent) (home : child.subsystem = parent.subsystem) {numbers : List PageNumber}
    {middle : Machine config} (copied : Action.forEach (KernelAction.copyPage child parent) numbers
      (machine.takeStackPointer child parent) = .done () middle) :
    Passes (Transition.Clones child parent) machine middle := by
  have points := KernelAction.takeStackPointer_passes atRest child parent
  have still := KernelAction.isSome_of_clones points spaceExists
  exact points.trans ((KernelAction.copyPages_ends _ points.atRest home.symm apart still).of_done copied).1

/-- Each request of a copy finds the pages before it copied, and no frame exempt from eviction but the one
to be copied. -/
theorem AtRest.requesting_of_copyAsks (atRest : machine.AtRest)
    (spaceExists : (machine.spaces.get? child).isSome) (asks : CopyAsks child parent machine request) :
    request.machine.Requesting request.subsystem request.source := by
  cases asks with
  | page apart home _ copied found vacant content =>
    have passes := atRest.passes_copied spaceExists apart home copied
    have still := KernelAction.isSome_of_clones passes spaceExists
    obtain ⟨grownRest, model⟩ := passes.atRest.registered still apart found vacant
    exact grownRest.requesting_ofCopy home model content

end Machine

namespace KernelAction

variable {machine : Machine config} {child parent : SpaceKey} {panic : Panic}

/-- The copy of a space makes one request for each page with content. -/
theorem copySpace_requests (atRest : machine.AtRest) (spaceExists : (machine.spaces.get? child).isSome) :
    (copySpace child parent).Requests machine (CopyAsks child parent machine) := by
  refine requests_of_ends (copySpace_ends atRest spaceExists)
    (fun _ => atRest.requesting_of_copyAsks spaceExists) fun panic exhaustion => ?_
  rw [copySpace_stops_iff, Action.stops_forEach]
  constructor
  · rintro ⟨apart, home, earlier, number, rest, middle, listed, copied, stops⟩
    obtain ⟨page, source, found, vacant, content, unmet⟩ := (copyPage_stops_iff number exhaustion).mp stops
    have passes := atRest.passes_copied spaceExists apart home copied
    cases passes.atRest.consistent.fits.number_eq found
    exact ⟨_, .page apart home listed copied found vacant content, unmet⟩
  · rintro ⟨_, ⟨apart, home, listed, copied, found, vacant, content⟩, unmet⟩
    exact ⟨apart, home, _, _, _, _, listed, copied,
      (copyPage_stops_iff _ exhaustion).mpr ⟨_, _, found, vacant, content, unmet⟩⟩

/-- A fork stops the kernel where the copy of the space does. -/
theorem forkSpace_stops_iff (exhaustion : panic.IsExhaustion) :
    (forkSpace parent).Stops machine panic ↔ ∃ child created,
      createSpace parent.subsystem machine = .done child created ∧
        (copySpace child parent).Stops created panic := by
  have makesNoRoom : (createSpace parent.subsystem : KernelAction config SpaceKey).MakesNoRoom :=
    .bind .current fun _ => .bind (.change _) fun _ => .bind (.change _) fun _ => .pure _
  unfold forkSpace
  rw [Action.stops_bind, or_iff_right (makesNoRoom.not_stops exhaustion)]
  refine exists_congr fun child => exists_congr fun created => and_congr_right fun _ => ?_
  refine (Action.stops_bind_iff_of_makesNoRoom exhaustion fun result => ?_).trans
    (Action.stops_attempt.trans Action.stops_unwinding)
  split
  · exact .pure _
  · exact .bind (makesNoRoom_dropSpace child) fun _ => .fail _

/-- A fork makes the requests of the copy. -/
theorem forkSpace_requests (atRest : machine.AtRest) :
    (forkSpace parent).Requests machine (ForkAsks parent machine) := by
  have requests : ∀ {child : SpaceKey} {created : Machine config},
      createSpace parent.subsystem machine = .done child created →
        (copySpace child parent).Requests created (CopyAsks child parent created) := by
    intro child created creates
    obtain ⟨createdRest, spaceExists⟩ := atRest.of_created creates
    exact copySpace_requests createdRest spaceExists
  refine ⟨?_, fun panic => ⟨fun stopped => ?_, ?_⟩⟩
  · rintro _ ⟨creates, asks⟩
    exact (requests creates).decided _ asks
  · have exhaustion := (forkSpace_ends atRest).isExhaustion_of_stops stopped
    obtain ⟨child, created, creates, stops⟩ := (forkSpace_stops_iff exhaustion).mp stopped
    obtain ⟨request, asks, shortage⟩ := ((requests creates).stops panic).mp stops
    exact ⟨request, .copy creates asks, shortage⟩
  · rintro ⟨_, ⟨creates, asks⟩, shortage⟩
    exact (forkSpace_stops_iff shortage.isExhaustion).mpr
      ⟨_, _, creates, ((requests creates).stops panic).mpr ⟨_, asks, shortage⟩⟩

end KernelAction

end DemandPaging
