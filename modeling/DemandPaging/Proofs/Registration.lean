import DemandPaging.Proofs.Access
import DemandPaging.Proofs.Materialisation
import DemandPaging.Proofs.Replica

/-!
# Which operations register pages and which forget them

`Machine.ChangesPages` bounds what pages are registered and forgotten between two machines. Every
operation has such a bound, and the bounds of the operations of a run add up. Faults and copies forget no
page, and the pages that they register lie in the stack area of their own space.
-/

namespace DemandPaging

open Machine

variable {config : Config}

/-- The page has an address in the area of the stack. -/
def PageNumber.InStackArea (config : Config) (number : PageNumber) : Prop :=
  ∃ address : VirtualAddress, address.page config = number ∧ address.InStackArea config

namespace Machine

/-- At most the given pages are registered between two machines, and at most the given ones are
forgotten. -/
structure ChangesPages (registers forgets : SpaceKey → PageNumber → Prop)
    (machine later : Machine config) : Prop where
  registered : ∀ key number, machine.page? key number = none →
    (later.page? key number).isSome → registers key number
  forgotten : ∀ key number, (machine.page? key number).isSome →
    later.page? key number = none → forgets key number

/-- No page is forgotten, and the pages that are registered lie in the stack area of one space. -/
abbrev GrowsStack (key : SpaceKey) : Machine config → Machine config → Prop :=
  ChangesPages (fun probe number => probe = key ∧ number.InStackArea config) fun _ _ => False

namespace ChangesPages

variable {machine middle later : Machine config}
  {registers forgets registers' forgets' : SpaceKey → PageNumber → Prop}

/-- Where the same pages are registered, none was registered or forgotten. -/
theorem of_samePages (same : SamePages machine later) :
    ChangesPages registers forgets machine later where
  registered key number vacant found := by
    rw [same, vacant] at found
    cases found
  forgotten key number found vacant := by
    rw [← same, vacant] at found
    cases found

/-- Where no page changed, none was registered or forgotten. -/
theorem of_page?_eq (same : later.page? = machine.page?) :
    ChangesPages registers forgets machine later :=
  of_samePages fun key number => by rw [same]

/-- Changes of the set of pages add up. -/
theorem trans (first : ChangesPages registers forgets machine middle)
    (second : ChangesPages registers forgets middle later) :
    ChangesPages registers forgets machine later where
  registered key number vacant found := by
    cases between : middle.page? key number with
    | none => exact second.registered key number between found
    | some page => exact first.registered key number vacant (by rw [between]; rfl)
  forgotten key number found vacant := by
    cases between : middle.page? key number with
    | none => exact first.forgotten key number found between
    | some page => exact second.forgotten key number (by rw [between]; rfl) vacant

/-- The sets of pages that may be registered or forgotten may be taken larger. -/
theorem mono (changes : ChangesPages registers forgets machine later)
    (more : ∀ key number, registers key number → registers' key number)
    (more' : ∀ key number, forgets key number → forgets' key number) :
    ChangesPages registers' forgets' machine later where
  registered key number vacant found := more key number (changes.registered key number vacant found)
  forgotten key number found vacant := more' key number (changes.forgotten key number found vacant)

/-- Where pages are taken away, no others are forgotten. -/
theorem of_removed {gone : SpaceKey → PageNumber → Prop} [∀ key number, Decidable (gone key number)]
    (pages : later.page? = fun key number =>
      if gone key number then none else machine.page? key number) :
    ChangesPages registers gone machine later where
  registered key number vacant found := by
    rw [pages] at found
    simp [vacant] at found
  forgotten key number found vacant := by
    rw [pages] at vacant
    by_contra stays
    simp only [stays, if_false] at vacant
    rw [vacant] at found
    cases found

end ChangesPages

end Machine

/-! ## Transitions and ways -/

/-- A transition registers the page that it brings and forgets the page that it withdraws. -/
theorem Transition.Leads.changesPages {transition : Transition config} {machine next : Machine config}
    (leads : transition.Leads machine next) (consistent : machine.Consistent) :
    ChangesPages (fun key number => ∃ page, transition = .register key page ∧ page.number = number)
      (fun key number => transition.Withdraws key number) machine next where
  registered key number vacant found := by
    rcases leads.registered consistent found with registered | ⟨there, -⟩
    · exact registered
    · rw [vacant] at there
      cases there
  forgotten key number found vacant := by
    have alters := leads.alters consistent key number
    rw [vacant] at alters
    generalize machine.page? key number = before at alters found
    cases alters with
    | same => cases found
    | removed withdrawn => exact withdrawn.symm

/-- What may be registered and forgotten on a way is what its transitions may register and forget.
-/
theorem Path.changesPages {permits : Machine config → Transition config → Prop}
    {start last : Machine config} {registers forgets : SpaceKey → PageNumber → Prop}
    (path : Path permits start last) (consistent : start.Consistent)
    (registered : ∀ machine key page, permits machine (.register key page) → registers key page.number)
    (forgotten : ∀ machine transition key number, permits machine transition →
      transition.Withdraws key number → forgets key number) :
    ChangesPages registers forgets start last := by
  induction path with
  | refl => exact .of_page?_eq rfl
  | step prior leads permitted inductionHypothesis =>
    refine inductionHypothesis.trans ((leads.changesPages (prior.consistent consistent)).mono ?_ ?_)
    · rintro key _ ⟨page, rfl, rfl⟩
      exact registered _ _ _ permitted
    · exact fun key number withdraws => forgotten _ _ _ _ permitted withdraws

/-! ## Faults and copies -/

namespace Machine

variable {machine later : Machine config} {key : SpaceKey} {fault : PageFault}
  {result : Except VmError Unit}

/-- A fault registers its page, if it pushes on the stack, and nothing else. -/
theorem Resolves.changesPages (resolves : Resolves key fault machine result later)
    (consistent : machine.Consistent) :
    ChangesPages (fun probe number => probe = key ∧ fault.address.page config = number ∧
        fault.PushesStack config (machine.space key).stackPointer)
      (fun _ _ => False) machine later := by
  rcases (resolves.decides consistent).samePages with same | ⟨-, pushes, adds⟩
  · exact .of_samePages same
  · refine ⟨fun probe number vacant found => ?_, fun probe number found vacant => ?_⟩
    · by_contra elsewhere
      rw [adds.others probe number fun here => elsewhere ⟨here.1, here.2.symm, pushes⟩, vacant] at found
      cases found
    · by_cases here : probe = key ∧ number = fault.address.page config
      · rw [here.1, here.2, adds.vacant] at found
        cases found
      · rw [← adds.others probe number here, vacant] at found
        cases found

/-- Resolving a fault registers a page of the stack at most. -/
theorem Resolves.growsStack (resolves : Resolves key fault machine result later)
    (consistent : machine.Consistent) : GrowsStack key machine later := by
  refine (resolves.changesPages consistent).mono ?_ fun _ _ => id
  rintro probe number ⟨own, here, -, -, -, area⟩
  exact ⟨own, fault.address, here, area⟩

end Machine

namespace KernelAction

variable {machine : Machine config} {key : SpaceKey}

/-- The kernel's own accesses to user memory grow the stack at most. -/
theorem accessFrame_growsStack (atRest : machine.AtRest)
    (spaceExists : (machine.spaces.get? key).isSome) (address : VirtualAddress) (write : Bool) :
    (accessFrame key address write).Ends machine (fun _ later => GrowsStack key machine later)
      (fun _ later => GrowsStack key machine later) := by
  refine accessFrame_ends_of_fault atRest spaceExists (.of_page?_eq rfl) ?_
  exact (handleFault_resolves atRest spaceExists _).mono
    (fun _ _ resolves => resolves.growsStack atRest.consistent)
    (fun _ _ resolves => resolves.growsStack atRest.consistent)

/-- Reading a chunk registers a page of the stack at most, also if it fails. -/
theorem readChunk_growsStack (atRest : machine.AtRest)
    (spaceExists : (machine.spaces.get? key).isSome) (base : VirtualAddress) (chunk : Chunk) :
    (readChunk key base chunk).Ends machine (fun _ later => GrowsStack key machine later)
      (fun _ later => GrowsStack key machine later) := by
  unfold readChunk
  simp only [Action.ends_bind, Action.ends_orFail]
  refine ⟨fun address _ => ?_, fun _ => .of_page?_eq rfl⟩
  exact (accessFrame_growsStack atRest spaceExists address false).mono (fun _ _ grows => grows)
    (fun _ _ => id)

/-- Writing a chunk registers a page of the stack at most, also if it fails. -/
theorem writeChunk_growsStack (atRest : machine.AtRest)
    (spaceExists : (machine.spaces.get? key).isSome) (base : VirtualAddress) (bytes : Bytes)
    (chunk : Chunk) :
    (writeChunk key base bytes chunk).Ends machine (fun _ later => GrowsStack key machine later)
      (fun _ later => GrowsStack key machine later) := by
  unfold writeChunk
  simp only [Action.ends_bind, Action.ends_orFail]
  refine ⟨fun address _ => ?_, fun _ => .of_page?_eq rfl⟩
  refine (accessFrame_growsStack atRest spaceExists address true).mono (fun frame middle grows => ?_)
    (fun _ _ => id)
  exact grows.trans (.of_page?_eq page?_markDirty)

/-- A copy from user memory registers pages of the stack at most. -/
theorem readChunks_growsStack (base : VirtualAddress) (buffer : Bytes) (chunks : List Chunk)
    (atRest : machine.AtRest) (spaceExists : (machine.spaces.get? key).isSome) :
    (readChunks key base buffer chunks).Ends machine (fun _ later => GrowsStack key machine later)
      (fun _ later => GrowsStack key machine later) := by
  induction chunks generalizing buffer machine with
  | nil => exact ChangesPages.of_page?_eq rfl
  | cons chunk rest inductionHypothesis =>
    unfold readChunks
    simp only [Action.ends_bind, Action.ends_attempt]
    refine ((readChunk_growsStack atRest spaceExists base chunk).and
      (readChunk_ends atRest spaceExists base chunk)).mono ?_ (fun _ _ => And.left)
    rintro piece middle ⟨grows, address, _, _, _, _, accessed, -⟩
    have passes := accessed.passes atRest
    have still := (passes.isSome_eq (fun _ => Transition.Accesses.keepsSpaces) key).trans spaceExists
    exact (inductionHypothesis _ passes.atRest still).mono (fun _ _ => grows.trans)
      (fun _ _ => grows.trans)

/-- A copy to user memory registers pages of the stack at most. -/
theorem writeChunks_growsStack (base : VirtualAddress) (bytes : Bytes) (chunks : List Chunk)
    (atRest : machine.AtRest) (spaceExists : (machine.spaces.get? key).isSome) :
    (Action.forEach (writeChunk key base bytes) chunks).Ends machine
      (fun _ later => GrowsStack key machine later)
      (fun _ later => GrowsStack key machine later) := by
  induction chunks generalizing machine with
  | nil => exact ChangesPages.of_page?_eq rfl
  | cons chunk rest inductionHypothesis =>
    rw [Action.ends_forEach_cons]
    refine ((writeChunk_growsStack atRest spaceExists base bytes chunk).and
      (writeChunk_ends atRest spaceExists base bytes chunk)).mono ?_ (fun _ _ => And.left)
    rintro _ stored ⟨grows, address, middle, _, _, accessed, leads⟩
    have first := accessed.copies atRest
    have passes := first.trans (.single first.atRest leads (.inr ⟨_, _, _, rfl⟩))
    have still := (passes.isSome_eq (fun _ => Transition.Copies.keepsSpaces) key).trans spaceExists
    exact (inductionHypothesis passes.atRest still).mono (fun _ _ => grows.trans)
      (fun _ _ => grows.trans)

end KernelAction

/-! ## Operations -/

/-- The pages of its space that a request may register. -/
def SpaceRequest.MayRegister (start : Machine config) (key : SpaceKey) (number : PageNumber) :
    SpaceRequest config → Prop
  | .allocate _ address _ _ => address.page config = number
  | .fault access | .userFault access =>
    access.address.page config = number ∧ access.PushesStack config (start.space key).stackPointer
  | .read _ _ | .write _ _ => number.InStackArea config
  | .map address length _ _ _ =>
    ∃ index < (Word.ceilingDiv length config.pageSizeWord).toNat,
      number = (address.page config).advance index
  | .claim _ | .remove _ | .recordStackPointer _ | .unmap _ | .tearDown => False

/-- The pages of its space that a request may forget. -/
def SpaceRequest.MayForget (number : PageNumber) : SpaceRequest config → Prop
  | .remove address => address.page config = number
  | .unmap _ | .tearDown => True
  | _ => False

namespace Operation

/-- The pages that an operation, performed on the machine `start`, may register. -/
def MayRegister (start : Machine config) (key : SpaceKey) (number : PageNumber) :
    Operation config → Prop
  | .fork parent => key = start.nextKey parent.subsystem
  | .copy child _ => key = child
  | .request space asked => key = space ∧ asked.MayRegister start space number
  | _ => False

/-- The pages that an operation may forget. -/
def MayForget (key : SpaceKey) (number : PageNumber) : Operation config → Prop
  | .drop space => key = space
  | .request space asked => key = space ∧ asked.MayForget number
  | _ => False

/-- At most the pages are registered and forgotten that the operation may register and forget. -/
def ChangesPages (operation : Operation config) (machine later : Machine config) : Prop :=
  machine.ChangesPages (fun key number => operation.MayRegister machine key number)
    (fun key number => operation.MayForget key number) later

end Operation

namespace KernelAction

variable {machine : Machine config} {key : SpaceKey} {fault : PageFault}

/-- A fault registers no page but those that the operation may register. -/
theorem handleFault_changesPages (atRest : machine.AtRest)
    (spaceExists : (machine.spaces.get? key).isSome) (fault : PageFault) :
    (handleFault key fault).Ends machine
      (fun _ later => (Operation.request key (.fault fault)).ChangesPages machine later)
      (fun _ later => (Operation.request key (.fault fault)).ChangesPages machine later) := by
  have changes : ∀ {result later}, Resolves key fault machine result later →
      (Operation.request key (.fault fault)).ChangesPages machine later := fun resolves =>
    (resolves.changesPages atRest.consistent).mono (fun _ _ => id) fun _ _ => False.elim
  exact (handleFault_resolves atRest spaceExists fault).mono (fun _ _ => changes) fun _ _ => changes

/-- A user fault registers no page but those that the operation may register. -/
theorem handleUserFault_changesPages (atRest : machine.AtRest)
    (spaceExists : (machine.spaces.get? key).isSome) (fault : PageFault) :
    (handleUserFault key fault).Ends machine
      (fun _ later => (Operation.request key (.userFault fault)).ChangesPages machine later)
      (fun _ later => (Operation.request key (.userFault fault)).ChangesPages machine later) := by
  unfold handleUserFault
  simp only [Action.ends_bind, Action.ends_attempt]
  refine (handleFault_changesPages atRest spaceExists fault).mono (fun _ _ => id) ?_
  intro error later changes
  exact changes.trans (.of_page?_eq rfl)

end KernelAction

namespace Machine

variable {machine later : Machine config} {child parent : SpaceKey}

/-- A way on which one space is copied to another registers pages of the copy only. -/
theorem changesPages_of_clones (passes : Passes (Transition.Clones child parent) machine later)
    (atRest : machine.AtRest) :
    ChangesPages (fun key _ => key = child) (fun _ _ => False) machine later := by
  refine passes.path.changesPages atRest.consistent (fun _ key page clones => ?_)
    (fun _ _ key number clones withdraws => ?_)
  · rcases clones with prepares | isSetting | ⟨_, registers⟩ | ⟨_, _, copies⟩
    · exact prepares.elim
    · cases isSetting
    · cases registers
      rfl
    · cases copies
  · rcases withdraws with rfl | rfl <;>
      rcases clones with prepares | isSetting | ⟨_, registers⟩ | ⟨_, _, copies⟩ <;>
      first | exact prepares.elim | contradiction

/-- Loading a page registers none and forgets none. -/
theorem changesPages_of_loads {key : SpaceKey} {number : PageNumber}
    {registers forgets : SpaceKey → PageNumber → Prop}
    (passes : Passes (Transition.Loads key number) machine later) (atRest : machine.AtRest) :
    ChangesPages registers forgets machine later := by
  refine passes.path.changesPages atRest.consistent (fun _ _ _ loads => ?_)
    (fun _ _ _ _ loads withdraws => ?_)
  · rcases loads with isQuiet | ⟨_, isLoad⟩
    · exact isQuiet.elim
    · cases isLoad
  · rcases withdraws with rfl | rfl <;> rcases loads with isQuiet | ⟨_, isLoad⟩ <;>
      first | exact isQuiet.elim | cases isLoad

/-- A mapping registers its pages. -/
theorem MapsFile.changesPages {key : SpaceKey} {plan : MappingPlan} {range : PageRange}
    {address : VirtualAddress} {length offset : Word} {writable : Bool} {file : FileId}
    (maps : MapsFile key plan range machine later) (spaceExists : (machine.spaces.get? key).isSome)
    (starts : plan.start = address.page config)
    (counted : range.length = Word.ceilingDiv length config.pageSizeWord) :
    (Operation.request key (.map address length writable file offset)).ChangesPages machine later := by
  refine ⟨fun probe number vacant found => ?_, fun probe number found vacant => ?_⟩
  · by_contra elsewhere
    rw [maps.page?_other spaceExists, vacant] at found
    · cases found
    · rintro own index inside same
      rw [starts] at same
      exact elsewhere ⟨own, index, counted ▸ inside, same⟩
  · rw [maps.page?_other spaceExists] at vacant
    · rw [vacant] at found
      cases found
    · rintro rfl index inside rfl
      rw [maps.vacant index inside] at found
      cases found

/-- A fork registers pages of the new space only, and forgets none. -/
theorem Forks.changesPages {result : Except VmError SpaceKey}
    (forks : Forks parent machine result later) (atRest : machine.AtRest) :
    (Operation.fork parent).ChangesPages machine later := by
  have added : ∀ root, (machine.addSpace parent.subsystem root).page? = machine.page? := fun root =>
    page?_addSpace (atRest.consistent.known.unissued.vacant _)
  have cloned : ∀ {root spoiled},
      Passes (Transition.Clones (machine.nextKey parent.subsystem) parent)
        (machine.addSpace parent.subsystem root) spoiled →
      (Operation.fork parent).ChangesPages machine spoiled := by
    intro root spoiled passes
    have changes := changesPages_of_clones passes (addSpace_atRest atRest _ _)
    exact (ChangesPages.of_page?_eq (added root)).trans (changes.mono (fun _ _ => id) fun _ _ => id)
  cases forks with
  | done creates _ passes => exact cloned (creates ▸ passes)
  | undone creates _ passes _ pages =>
    have changes := cloned (creates ▸ passes)
    refine ⟨fun key number vacant found => ?_, fun key number found vacant => ?_⟩
    · rw [congrFun (congrFun pages key) number] at found
      split at found
      · cases found
      · exact changes.registered key number vacant found
    · rw [congrFun (congrFun pages key) number] at vacant
      split at vacant
      · next own =>
        -- the new space had no pages that could be forgotten
        rw [own, atRest.consistent.known.unissued.vacant] at found
        cases found
      · exact changes.forgotten key number found vacant

end Machine

namespace Operation

open KernelAction

variable {operation : Operation config} {machine later : Machine config}
  {result : Except VmError Answer} {key : SpaceKey} {asked : SpaceRequest config}

/-- However a request ends, it leaves what both of its ends have in common. -/
theorem Yields.of_ends {holds : Machine config → Prop}
    (yields : (Operation.request key asked).Yields machine result later)
    (spaceExists : (machine.spaces.get? key).isSome)
    (ends : (asked.perform key).Ends machine (fun _ last => holds last) fun _ last => holds last) :
    holds later := by
  have whole : (Operation.request key asked).perform.Ends machine (fun _ last => holds last)
      fun _ last => holds last := by
    refine withSpace_ends.mpr ⟨fun _ => ends, fun absent => ?_⟩
    rw [absent] at spaceExists
    cases spaceExists
  cases result with
  | ok answer => exact whole.of_done yields
  | error error => exact whole.of_failed yields

/-- Every operation keeps to the pages that it may register and forget. -/
theorem Yields.changesPages (yields : operation.Yields machine result later)
    (atRest : machine.AtRest) (permitted : operation.IsPermitted machine) :
    operation.ChangesPages machine later := by
  have consistent := atRest.consistent
  have listed : ∀ body, (machine.listed body).page? = machine.page? := fun body => by
    unfold listed
    split <;> rfl
  have forgetsNone : ∀ {registers forgets : SpaceKey → PageNumber → Prop} {last : Machine config},
      machine.ChangesPages registers (fun _ _ => False) last →
        machine.ChangesPages registers forgets last :=
    fun changes => changes.mono (fun _ _ => id) fun _ _ => False.elim
  cases yields.performs atRest permitted with
  | refused | idle | noFrame | closedFile | wroteFile | setFileFaults => exact .of_page?_eq rfl
  | created => exact .of_page?_eq (page?_addSpace (consistent.known.unissued.vacant _))
  | dropped _ pages =>
    exact (Machine.ChangesPages.of_removed pages).mono (fun _ _ => id) fun _ _ => id
  | forked forks | unforked forks => exact forks.changesPages atRest
  | copied _ passes =>
    exact (changesPages_of_clones passes atRest).mono (fun _ _ => id) fun _ _ => False.elim
  | tookFrame leads | returnedFrame leads | createdFile leads | setSwapFaults leads =>
    refine (leads.changesPages consistent).mono ?_ ?_
    · rintro _ _ ⟨_, same, -⟩
      cases same
    · rintro _ _ (same | same) <;> cases same
  | @requested key _ _ _ _ spaceExists performs =>
    cases performs with
    | refused | unremoved | notUnmapped => exact .of_page?_eq rfl
    | listed => exact .of_page?_eq (listed _)
    | allocated _ registers =>
      have changes := registers.changesPages (listed_consistent consistent _)
      refine (Machine.ChangesPages.of_page?_eq (listed _)).trans (changes.mono ?_ ?_)
      · rintro _ _ ⟨_, same, rfl⟩
        cases same
        exact ⟨rfl, rfl⟩
      · rintro _ _ (same | same) <;> cases same
    | claimed known accessed =>
      cases accessed with
      | present _ passes => exact changesPages_of_loads passes atRest
      | grown grows =>
        rw [grows.vacant] at known
        cases known
    | @unclaimed address _ _ _ passes =>
      have loads : Passes (Transition.Loads key (address.page config)) machine later :=
        passes.mono fun _ => .inl
      exact changesPages_of_loads loads atRest
    | removed _ leads =>
      refine (leads.changesPages consistent).mono ?_ ?_
      · rintro _ _ ⟨_, same, -⟩
        cases same
      · rintro _ _ (same | same) <;> cases same
        exact ⟨rfl, rfl⟩
    -- How the request ended does not tell whether its page lies in the area of the stack, so faults and
    -- copies are followed through the handler once more.
    | resolved | unresolved =>
      refine yields.of_ends spaceExists ?_
      simp only [SpaceRequest.perform, Action.ends_bind, Action.ends_pure]
      exact handleFault_changesPages atRest spaceExists _
    | retried | exited =>
      refine yields.of_ends spaceExists ?_
      simp only [SpaceRequest.perform, Action.ends_map]
      exact handleUserFault_changesPages atRest spaceExists _
    | pointed => exact .of_page?_eq (Transition.Leads.page?_of_set (.set fun _ => rfl))
    | read =>
      refine yields.of_ends spaceExists ?_
      simp only [SpaceRequest.perform, Action.ends_bind, Action.ends_pure]
      exact (readChunks_growsStack _ _ _ atRest spaceExists).mono (fun _ _ => forgetsNone)
        fun _ _ => forgetsNone
    | written =>
      refine yields.of_ends spaceExists ?_
      simp only [SpaceRequest.perform, Action.ends_bind, Action.ends_pure]
      exact (writeChunks_growsStack _ _ _ atRest spaceExists).mono (fun _ _ => forgetsNone)
        fun _ _ => forgetsNone
    | mapped maps starts _ _ _ _ counted =>
      exact maps.changesPages spaceExists starts counted
    | unmappable leaves =>
      obtain ⟨_, rfl, _⟩ := leaves.onlyEnvironment
      exact .of_page?_eq rfl
    | unmapped _ unmaps =>
      exact (Machine.ChangesPages.of_removed unmaps.page?_eq).mono (fun _ _ => id)
        fun _ _ owned => ⟨owned.1, trivial⟩
    | tornDown _ pages =>
      exact (Machine.ChangesPages.of_removed pages).mono (fun _ _ => id) fun _ _ own => ⟨own, trivial⟩

end Operation

/-! ## Runs -/

/-- Along a run, pages are registered and forgotten only by operations that may do so. -/
theorem Chronicle.changesPages {start machine : Machine config} {episodes : List (Episode config)}
    (chronicle : Chronicle start episodes machine) (atRest : start.AtRest) :
    start.ChangesPages
      (fun key number => ∃ episode ∈ episodes,
        episode.operation.MayRegister episode.start key number)
      (fun key number => ∃ episode ∈ episodes, episode.operation.MayForget key number) machine := by
  induction chronicle with
  | nil => exact .of_page?_eq rfl
  | @step episodes machine later operation result moves prior permitted yields _ _
      inductionHypothesis =>
    have before := prior.run.atRest_of_start atRest
    refine (inductionHypothesis.mono ?_ ?_).trans
      ((yields.changesPages before permitted).mono ?_ ?_)
    · exact fun key number ⟨episode, listed, may⟩ => ⟨episode, List.mem_append_left _ listed, may⟩
    · exact fun key number ⟨episode, listed, may⟩ => ⟨episode, List.mem_append_left _ listed, may⟩
    · exact fun key number may =>
        ⟨⟨operation, result, machine, moves⟩, List.mem_append_right _ List.mem_cons_self, may⟩
    · exact fun key number may =>
        ⟨⟨operation, result, machine, moves⟩, List.mem_append_right _ List.mem_cons_self, may⟩

/-- In every reachable machine a fault is decided in one way, or the kernel stops because no frame can be
had; and from there on pages are registered and forgotten only by operations that may do so. -/
theorem Run.decides_faults {frames slots : Nat} {log : OperationLog config} {machine : Machine config}
    (run : Run (.boot config frames slots) log machine) :
    (∀ key fault, (machine.spaces.get? key).isSome →
      (∀ panic last, KernelAction.handleFault key fault machine = .panicked panic last →
        panic.IsExhaustion) ∧
      ∀ result later, KernelAction.handleFault key fault machine = Action.ofExcept result later →
        DecidesFault key fault machine result later) ∧
    ∀ episodes later, Chronicle machine episodes later →
      machine.ChangesPages
        (fun key number => ∃ episode ∈ episodes,
          episode.operation.MayRegister episode.start key number)
        (fun key number => ∃ episode ∈ episodes, episode.operation.MayForget key number) later := by
  have atRest := run.atRest
  refine ⟨fun key fault spaceExists => ?_, fun episodes later chronicle =>
    chronicle.changesPages atRest⟩
  have resolves := KernelAction.handleFault_resolves atRest spaceExists fault
  refine ⟨(Action.ends_iff.mp resolves).2.2, fun result later ended => ?_⟩
  cases result with
  | ok value => exact (resolves.of_done ended).decides atRest.consistent
  | error error => exact (resolves.of_failed ended).decides atRest.consistent

/-- After the program has forked, the child pushes on its stack: a page of it is added, at the cost of
another one. -/
theorem Run.decides_faults_pushing :
    let child : SpaceKey := ⟨.main, ⟨2⟩⟩
    let push : PageFault := ⟨⟨61⟩, { write := true, notPresent := true }, ⟨64⟩⟩
    ∃ log machine later, performAll crowdedProgram (.boot .small 3 8) = some (log, machine) ∧
      KernelAction.handleFault child push machine = .done () later ∧
      machine.mainTable.evictions < later.mainTable.evictions ∧
      DecidesFault child push machine (.ok ()) later ∧
      AddsStackPage child (push.address.page .small) machine later := by
  intro child push
  have performed : ((performAll crowdedProgram (.boot .small 3 8)).any fun (_, machine) =>
      (machine.spaces.get? child).isSome && (machine.page? child (push.address.page .small)).isNone &&
        (KernelAction.handleFault child push machine).done?.any fun later =>
          machine.mainTable.evictions < later.mainTable.evictions) = true := by
    decide +kernel
  obtain ⟨⟨log, machine⟩, outcome, checked⟩ := (Option.any_eq_true _ _).mp performed
  obtain ⟨there, resolved⟩ := Bool.and_eq_true_iff.mp checked
  obtain ⟨spaceExists, vacant⟩ := Bool.and_eq_true_iff.mp there
  obtain ⟨later, done, evicts⟩ := (Option.any_eq_true _ _).mp resolved
  obtain ⟨value, done⟩ := Outcome.exists_of_done? done
  have run : Run (.boot .small 3 8) log machine := Run.nil.append outcome
  have decides := (run.decides_faults.1 child push spaceExists).2 (.ok ()) later done
  have grown := decides.vacant ⟨by decide, by decide⟩ rfl (Option.isNone_iff_eq_none.mp vacant)
  exact ⟨log, machine, later, outcome, done, of_decide_eq_true evicts, decides, grown.2.1 rfl⟩

/-- A page is registered whose initializer calls its address invalid. -/
def rejectingProgram : List (Operation .small) :=
  let rejects : InitializerBody .small := fun _ _ bytes => (bytes, some .invalidAddress)
  [.create .main, .request ⟨.main, ⟨1⟩⟩ (.allocate .anonymous ⟨8⟩ true (some rejects))]

/-- A fault in user memory, too, is answered with an invalid address if the initializer says so. -/
theorem rejected_fault_invalid :
    let key : SpaceKey := ⟨.main, ⟨1⟩⟩
    let access : PageFault := ⟨⟨8⟩, { notPresent := true }, ⟨64⟩⟩
    ∃ log machine later, performAll rejectingProgram (.boot .small 3 8) = some (log, machine) ∧
      (machine.spaces.get? key).isSome ∧ access.IsNamed .small ∧
      KernelAction.handleFault key access machine = .failed .invalidAddress later := by
  intro key access
  have performed : ((performAll rejectingProgram (.boot .small 3 8)).any fun (_, machine) =>
      (machine.spaces.get? key).isSome &&
        (KernelAction.handleFault key access machine).error? = some .invalidAddress) = true := by
    decide +kernel
  obtain ⟨⟨log, machine⟩, outcome, checked⟩ := (Option.any_eq_true _ _).mp performed
  obtain ⟨spaceExists, refused⟩ := Bool.and_eq_true_iff.mp checked
  obtain ⟨later, failed⟩ := Outcome.exists_of_error? (of_decide_eq_true refused)
  exact ⟨log, machine, later, outcome, spaceExists, ⟨by decide, by decide⟩, failed⟩

end DemandPaging
