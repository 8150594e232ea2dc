import DemandPaging.Proofs.GuardedRun
import DemandPaging.Proofs.Regions

/-!
# Which pages the records of mappings cover

The pages of a mapping use a handle of their own, and the mapping is recorded with its pages and that
handle. A page that is removed may be mapped again, so a later mapping can begin where an older one
does: it takes the place of the older record, and the pages that the older mapping still has are
covered by none. Unless that happens every page of a mapping is covered by a record of its space, and
who removes all recorded mappings removes all mapped pages.
-/

namespace DemandPaging

variable {config : Config}

/-- A handle that a mapping opened, rather than the creator of its file. -/
def FileHandle.IsReopened (handle : FileHandle) : Prop := handle.serial ≠ 0

namespace Machine

/-- The handle that a page of a space uses. -/
def handle? (machine : Machine config) (key : SpaceKey) (number : PageNumber) : Option FileHandle :=
  (machine.page? key number).bind fun page => page.kind.backing?.map FileBacking.handle

/-- A record of a space covers a page: the page lies in its range, and the record has the handle. -/
def Covers (machine : Machine config) (key : SpaceKey) (number : PageNumber) (handle : FileHandle) :
    Prop :=
  ∃ start region, (machine.regions key).get? start = some region ∧
    region.range.contains number = true ∧ region.handle = handle

/-- Every page that a mapping made is covered by a record of its space. -/
def CoversMappings (machine : Machine config) (key : SpaceKey) : Prop :=
  ∀ number handle, machine.handle? key number = some handle → handle.IsReopened →
    machine.Covers key number handle

/-- The pages of mappings that a space has, it had before. -/
def Inherits (machine : Machine config) (key : SpaceKey) (later : Machine config) : Prop :=
  ∀ number handle, later.handle? key number = some handle → handle.IsReopened →
    machine.handle? key number = some handle

variable {machine middle later : Machine config} {key : SpaceKey} {number : PageNumber}
  {handle : FileHandle}

/-- A page uses a handle if it is on a file that was opened under it. -/
theorem handle?_eq_some_iff :
    machine.handle? key number = some handle ↔ ∃ page backing,
      machine.page? key number = some page ∧ page.kind.backing? = some backing ∧
        backing.handle = handle := by
  unfold handle?
  constructor
  · intro known
    obtain ⟨page, found, uses⟩ := Option.bind_eq_some_iff.mp known
    obtain ⟨backing, uses, same⟩ := Option.map_eq_some_iff.mp uses
    exact ⟨page, backing, found, uses, same⟩
  · rintro ⟨page, backing, found, uses, rfl⟩
    rw [found, Option.bind_some, uses]
    rfl

/-- The handle of a page is read from the page. -/
theorem handle?_of_page? (same : later.page? key number = machine.page? key number) :
    later.handle? key number = machine.handle? key number := by
  rw [handle?, handle?, same]

/-- A copy of a page uses the handle of its model. -/
theorem handle?_eq_of_shape? {probe : SpaceKey}
    (same : later.shape? probe number = machine.shape? key number) :
    later.handle? probe number = machine.handle? key number := by
  have ofShape : ∀ (any : Machine config) space, any.handle? space number =
      (any.shape? space number).bind fun page => page.kind.backing?.map FileBacking.handle := by
    intro any space
    rw [handle?, shape?, Option.bind_map]
    congr 1
    funext page
    exact congrArg _ page.backing?_forked.symm
  rw [ofShape, ofShape, same]

/-- A page that loses its frame keeps its handle. -/
theorem handle?_of_recedes
    (recedes : Page.Recedes (machine.page? key number) (later.page? key number)) :
    later.handle? key number = machine.handle? key number := by
  have same := recedes.backing?_eq
  have ofBacking : ∀ any : Machine config, any.handle? key number =
      ((any.page? key number).map fun page => page.kind.backing?).bind
        fun backing => backing.map FileBacking.handle := by
    intro any
    rw [handle?, Option.bind_map]
    rfl
  rw [ofBacking, ofBacking, same]

theorem Inherits.refl : machine.Inherits key machine := fun _ _ known _ => known

/-- Pages that are inherited twice were there at first. -/
theorem Inherits.trans (first : machine.Inherits key middle) (second : middle.Inherits key later) :
    machine.Inherits key later :=
  fun number handle known reopened => first number handle (second number handle known reopened) reopened

/-- What was covered is covered as long as the records stay and no mapping is made. -/
theorem CoversMappings.of_inherits (covers : machine.CoversMappings key)
    (inherits : machine.Inherits key later) (records : later.regions key = machine.regions key) :
    later.CoversMappings key := by
  intro number handle known reopened
  rw [Covers, records]
  exact covers number handle (inherits number handle known reopened) reopened

/-- A space that is created has nothing to cover, and changes nothing for the others. -/
theorem CoversMappings.of_addSpace (unissued : machine.Unissued) {subsystem : Subsystem}
    {root : PhysicalAddress} (covers : machine.CoversMappings key) :
    (machine.addSpace subsystem root).CoversMappings key := by
  have pages : (machine.addSpace subsystem root).page? = machine.page? :=
    page?_addSpace (unissued.vacant subsystem)
  have records := congrArg Outline.regions (outline_addSpace unissued subsystem root)
  apply covers.of_inherits _ (congrFun records key)
  intro number handle known _
  exact (handle?_of_page? (congrFun (congrFun pages key) number)) ▸ known

/-- What happens to other spaces uncovers no page. -/
theorem CoversMappings.of_spares {other : SpaceKey} (covers : machine.CoversMappings key)
    (spares : machine.Spares other later) (elsewhere : key ≠ other) : later.CoversMappings key := by
  apply covers.of_inherits _ (spares.regions key elsewhere)
  intro number handle known _
  exact handle?_of_recedes (spares.pages key elsewhere number) ▸ known

/-- A space without pages has nothing to cover. -/
theorem CoversMappings.of_vacant (vacant : ∀ number, later.page? key number = none) :
    later.CoversMappings key := by
  intro number handle known
  obtain ⟨page, _, found, _⟩ := handle?_eq_some_iff.mp known
  cases (vacant number).symm.trans found

/-- A page that uses the handle of a mapping and lies in its range belongs to it. -/
theorem owns_of_covers (fits : machine.Fits) {region : Region}
    (known : machine.handle? key number = some handle)
    (inside : region.range.contains number = true) (same : region.handle = handle) :
    (machine.page? key number).any region.owns = true := by
  obtain ⟨page, backing, found, uses, handles⟩ := handle?_eq_some_iff.mp known
  have numbered := fits.number_eq found
  rw [found, Option.any_some, Region.owns, Page.uses, uses, numbered, inside, Bool.true_and,
    beq_iff_eq, handles, same]

/-- Removing a mapping removes the pages that its record covers. -/
theorem UnmapsFile.coversMappings {start : PageNumber} {region : Region}
    (unmaps : UnmapsFile key start region machine later) (atRest : machine.AtRest)
    (covers : machine.CoversMappings key) : later.CoversMappings key := by
  intro number handle known reopened
  have unowned : ¬ (machine.page? key number).any region.owns = true := by
    intro owned
    have gone : later.page? key number = none :=
      (congrFun (congrFun unmaps.page?_eq key) number).trans (if_pos ⟨rfl, owned⟩)
    obtain ⟨page, _, found, _⟩ := handle?_eq_some_iff.mp known
    cases gone.symm.trans found
  have kept : later.page? key number = machine.page? key number :=
    (congrFun (congrFun unmaps.page?_eq key) number).trans (if_neg fun both => unowned both.2)
  have before : machine.handle? key number = some handle := (handle?_of_page? kept).symm.trans known
  obtain ⟨first, covering, recorded, inside, same⟩ := covers number handle before reopened
  refine ⟨first, covering, ?_, inside, same⟩
  rw [unmaps.passes.path.regions_eq fun _ _ discards => discards.keepsRecords key,
    regions_unrecorded, if_pos rfl]
  by_cases here : start = first
  · -- The record that is removed would cover the page, which would then have been removed, too.
    subst here
    have removed : region = covering := Option.some.inj (unmaps.recorded.symm.trans recorded)
    subst removed
    exact absurd (owns_of_covers atRest.consistent.fits before inside same) unowned
  · rw [OrderedMap.get?_erase_of_ne here]
    exact recorded

/-- A mapping covers its own pages, and the others stay covered if it takes no record's place. -/
theorem MapsFile.coversMappings {plan : MappingPlan} {range : PageRange}
    (maps : MapsFile key plan range machine later)
    (spaceExists : (machine.spaces.get? key).isSome)
    (unrecorded : (machine.regions key).get? plan.start = none) {probe : SpaceKey}
    (covers : machine.CoversMappings probe) : later.CoversMappings probe := by
  have kept : ∀ number handle, machine.Covers probe number handle →
      later.Covers probe number handle := by
    rintro number handle ⟨start, region, recorded, covering⟩
    refine ⟨start, region, ?_, covering⟩
    rw [maps.regions_eq spaceExists]
    split
    · next here =>
      subst here
      have different : plan.start ≠ start := by
        rintro rfl
        cases unrecorded.symm.trans recorded
      rw [OrderedMap.get?_insert_of_ne different]
      exact recorded
    · exact recorded
  intro number handle known reopened
  by_cases planned : probe = key ∧ ∃ index < range.length.toNat, number = plan.start.advance index
  · obtain ⟨rfl, index, inside, rfl⟩ := planned
    obtain ⟨page, backing, found, uses, same⟩ := handle?_eq_some_iff.mp known
    rw [maps.page?_planned spaceExists inside] at found
    cases found
    cases uses
    refine ⟨plan.start, ⟨range, plan.handle, plan.offset⟩, ?_, maps.contains inside, same⟩
    rw [maps.regions_eq spaceExists, if_pos rfl]
    exact OrderedMap.get?_insert_self ..
  · have same : later.handle? probe number = machine.handle? probe number := by
      apply handle?_of_page?
      apply maps.page?_other spaceExists
      rintro rfl index inside rfl
      exact planned ⟨rfl, index, inside, rfl⟩
    exact kept _ _ (covers number handle (same ▸ known) reopened)

end Machine

/-! ## Transitions that make no mapping -/

namespace Transition

open Machine

/-- A page that is registered does not use a handle that a mapping opened. -/
def MakesNoMapping : Transition config → Prop
  | .register _ page => ∀ backing, page.kind.backing? = some backing → ¬ backing.handle.IsReopened
  | _ => True

variable {transition : Transition config} {machine next : Machine config} {key : SpaceKey}

/-- A transition that registers no page of a mapping leaves a space with pages of mappings that it
had before. -/
theorem Leads.inherits (leads : transition.Leads machine next) (consistent : machine.Consistent)
    (makes : transition.MakesNoMapping) : machine.Inherits key next := by
  intro number handle known reopened
  obtain ⟨page, backing, found, uses, same⟩ := handle?_eq_some_iff.mp known
  have alters := leads.alters consistent key number
  rw [found] at alters
  rw [handle?_eq_some_iff]
  generalize machine.page? key number = earlier at alters ⊢
  cases alters with
  | same => exact ⟨page, backing, rfl, uses, same⟩
  | changed sameBacking => exact ⟨_, backing, rfl, sameBacking ▸ uses, same⟩
  | registered isRegistered =>
    subst isRegistered
    exact absurd (same ▸ reopened) (makes backing uses)

/-- Making room registers nothing. -/
theorem IsQuiet.makesNoMapping (isQuiet : transition.IsQuiet) : transition.MakesNoMapping := by
  cases transition <;> first | exact trivial | exact isQuiet.elim

/-- An access registers a page of the stack at most, which is on no file. -/
theorem Accesses.makesNoMapping {number : PageNumber} (accesses : transition.Accesses key number) :
    transition.MakesNoMapping := by
  rcases accesses with (isQuiet | ⟨_, rfl⟩) | rfl | rfl
  · exact isQuiet.makesNoMapping
  · exact trivial
  · exact fun _ none => nomatch none
  · exact trivial

/-- Removing a page registers nothing. -/
theorem Discards.makesNoMapping (discards : transition.Discards key) :
    transition.MakesNoMapping := by
  cases transition <;> first | exact trivial | exact discards.elim

/-- Dropping a space registers nothing. -/
theorem Drops.makesNoMapping (drops : transition.Drops key) : transition.MakesNoMapping := by
  rcases drops with (discards | rfl) | rfl
  · exact discards.makesNoMapping
  · exact trivial
  · exact trivial

end Transition

/-- Where no transition registers a page of a mapping, a space keeps none but those it had. -/
theorem Path.inherits {permits : Machine config → Transition config → Prop}
    {start last : Machine config} {key : SpaceKey} (path : Path permits start last)
    (consistent : start.Consistent)
    (makes : ∀ machine transition, permits machine transition → transition.MakesNoMapping) :
    start.Inherits key last := by
  induction path with
  | refl => exact .refl
  | step prior leads permitted inductionHypothesis =>
    exact inductionHypothesis.trans
      (leads.inherits (prior.consistent consistent) (makes _ _ permitted))

/-- Whether an operation may register pages that use the handle of a mapping. -/
def Operation.MakesMappings : Operation config → Prop
  | .fork _ | .copy _ _ | .request _ (.map ..) => True
  | _ => False

/-- Pages are allocated for the handle of the creator of their file only. -/
theorem TargetRequest.Grants.notReopened {request : TargetRequest} {target : PageTarget config}
    (grants : request.Grants target) {backing : FileBacking config}
    (uses : target.backing? = some backing) : ¬ backing.handle.IsReopened := by
  cases request with
  | anonymous =>
    subst grants
    cases uses
  | malformed => exact grants.elim
  | file source offset readBytes zeroBytes =>
    obtain ⟨granted, split, rfl⟩ := grants
    cases uses
    unfold FileBacking.ofSplit at split
    split at split
    · cases split
      exact fun reopened => reopened rfl
    · cases split

/-- Of the requests of a space only that for a mapping registers pages of one. -/
theorem SpaceRequest.Takes.makesNoMapping {key : SpaceKey} {current : Machine config}
    {transition : Transition config} {asked : SpaceRequest config}
    (takes : asked.Takes key current transition)
    (makes : ∀ address length writable file offset,
      asked ≠ .map address length writable file offset) :
    transition.MakesNoMapping := by
  cases asked with
  | allocate =>
    rcases takes with ⟨_, rfl⟩ | ⟨target, _, grants, rfl⟩
    · exact trivial
    · exact fun backing uses => grants.notReopened uses
  | claim | fault | userFault => exact Transition.Accesses.makesNoMapping takes
  | remove => exact takes ▸ trivial
  | recordStackPointer => exact takes ▸ trivial
  | read =>
    obtain ⟨_, accesses⟩ := takes
    exact accesses.makesNoMapping
  | write =>
    rcases takes with ⟨_, accesses⟩ | ⟨_, _, _, rfl⟩
    · exact accesses.makesNoMapping
    · exact trivial
  | map => exact absurd rfl (makes _ _ _ _ _)
  | unmap | tearDown => exact Transition.Drops.makesNoMapping (.inl takes)

/-- Only mapping, forking and copying register pages of mappings. -/
theorem Operation.Takes.makesNoMapping {start current : Machine config}
    {transition : Transition config} {operation : Operation config}
    (takes : operation.Takes start current transition) (makes : ¬ operation.MakesMappings) :
    transition.MakesNoMapping := by
  cases operation with
  | fork | copy => exact absurd trivial makes
  | create => exact takes ▸ trivial
  | drop => exact Transition.Drops.makesNoMapping takes
  | request space asked =>
    apply SpaceRequest.Takes.makesNoMapping takes
    rintro address length writable file offset rfl
    exact makes trivial
  | shutdown => exact takes.elim
  | takeFrame | returnFrame | createFile =>
    obtain ⟨_, rfl⟩ := takes
    exact trivial
  | closeFile | writeFile | setFileFaults | setSwapFaults => exact takes ▸ trivial

/-! ## Operations that take no record's place -/

namespace Operation

open Machine KernelAction

variable {operation : Operation config} {machine later : Machine config}
  {result : Except VmError Answer}

/-- A mapping that an operation makes does not begin where one is recorded. Copying into a space that
is in use is left out: it adds records to those of the space, and pages without records if it fails. -/
def TakesNoRecord (machine : Machine config) : Operation config → Prop
  | .copy _ _ => False
  | .request key (.map address _ _ _ _) => (machine.regions key).get? (address.page config) = none
  | _ => True

/-- An operation that leaves the records alone makes no mapping. -/
theorem KeepsRecords.makesNoMappings (keeps : operation.KeepsRecords) :
    ¬ operation.MakesMappings := by
  cases operation with
  | create | drop | fork | copy => exact keeps.elim
  | request space asked => cases asked <;> first | exact id | exact keeps.elim
  | _ => exact id

/-- An operation that makes no mapping leaves a space with pages of mappings that it had before. -/
theorem Performs.inherits (performs : operation.Performs machine result later)
    (atRest : machine.AtRest) (makes : ¬ operation.MakesMappings) (key : SpaceKey) :
    machine.Inherits key later :=
  (performs.path atRest).inherits atRest.consistent fun _ _ takes => takes.makesNoMapping makes

/-- A fork gets the records of its model with the pages. -/
theorem Yields.coversMappings_of_fork {parent child key : SpaceKey} {root : PhysicalAddress}
    (yields : (Operation.fork parent).Yields machine (.ok (.space child root)) later)
    (forks : Forks parent machine (.ok child) later) (atRest : machine.AtRest)
    (covers : ∀ key, machine.CoversMappings key) : later.CoversMappings key := by
  obtain ⟨_, _, exact⟩ := yields.exactCopy_of_fork atRest
  by_cases here : key = child
  · subst here
    intro number handle known reopened
    rw [handle?_eq_of_shape? (exact.pages number)] at known
    rw [Covers, exact.regions]
    exact covers parent number handle known reopened
  · cases forks with
    | done creates _ passes =>
      have createdRest := creates ▸ addSpace_atRest atRest parent.subsystem _
      have spares := passes.path.spares createdRest.consistent fun _ _ => Transition.Clones.concerns
      apply CoversMappings.of_spares _ spares here
      exact creates ▸ .of_addSpace atRest.consistent.known.unissued (covers key)

/-- One operation preserves that records cover the pages of mappings, unless a mapping begins where
one is recorded. -/
theorem Yields.coversMappings (yields : operation.Yields machine result later)
    (atRest : machine.AtRest) (permitted : operation.IsPermitted machine)
    (takes : operation.TakesNoRecord machine) (covers : ∀ key, machine.CoversMappings key)
    (key : SpaceKey) : later.CoversMappings key := by
  have performs := yields.performs atRest permitted
  by_cases keeps : operation.KeepsRecords
  · exact (covers key).of_inherits (performs.inherits atRest keeps.makesNoMappings key)
      (congrFun (performs.regions_eq atRest keeps) key)
  cases performs with
  | refused => exact covers key
  | noFrame outside => rcases outside with rfl | rfl <;> exact absurd trivial keeps
  | created => exact .of_addSpace atRest.consistent.known.unissued (covers key)
  | @dropped space _ _ passes pages _ =>
    by_cases here : key = space
    · exact .of_vacant fun number => (congrFun (congrFun pages key) number).trans (if_pos here)
    · have spares := passes.path.spares atRest.consistent fun _ _ => Transition.Drops.concerns
      exact .of_spares (covers key) spares here
  | forked forks => exact yields.coversMappings_of_fork forks atRest covers
  | unforked forks =>
    obtain ⟨_, recedes, records, _⟩ := forks.spares_of_error atRest
    apply (covers key).of_inherits _ (congrFun records key)
    intro number handle known _
    rwa [handle?_of_recedes (recedes key number)] at known
  | copied => exact takes.elim
  | @requested space asked _ _ _ spaceExists asks =>
    have others : asked.KeepsRecords → False := keeps
    cases asks with
    | refused | notUnmapped => exact covers key
    | mapped maps starts => exact maps.coversMappings spaceExists (starts ▸ takes) (covers key)
    | unmappable leaves =>
      obtain ⟨_, rfl, _⟩ := leaves.onlyEnvironment
      exact covers key
    | unmapped _ unmaps =>
      by_cases here : key = space
      · subst here
        exact unmaps.coversMappings atRest (covers key)
      · have spares := unmaps.path.spares atRest.consistent
          fun _ _ empties => Transition.Drops.concerns (.inl empties)
        exact .of_spares (covers key) spares here
    | tornDown passes pages =>
      by_cases here : key = space
      · exact .of_vacant fun number => (congrFun (congrFun pages key) number).trans (if_pos here)
      · have spares := passes.path.spares atRest.consistent
          fun _ _ empties => Transition.Drops.concerns (.inl empties)
        exact .of_spares (covers key) spares here
    | _ => exact absurd trivial keeps
  | _ => exact absurd trivial keeps

end Operation

/-! ## Removing all recorded mappings -/

namespace KernelAction

/-- Removing pages needs no frame. -/
theorem makesNoRoom_removeOwned (key : SpaceKey) (region : Region) (numbers : List PageNumber) :
    ∀ result, (removeOwned key region numbers result : KernelAction config _).MakesNoRoom := by
  induction numbers with
  | nil => exact fun _ => .pure _
  | cons number rest inductionHypothesis =>
    intro result
    unfold removeOwned
    refine .bind (.view _) fun space => ?_
    split
    · exact inductionHypothesis _
    · split
      · refine .bind (makesNoRoom_removePage key number).attempt fun removed => ?_
        split
        · exact inductionHypothesis _
        · exact .bind (.change _) fun _ => inductionHypothesis _
      · exact inductionHypothesis _

/-- Removing a mapping needs no frame. -/
theorem makesNoRoom_unmapFile (key : SpaceKey) (address : VirtualAddress) :
    (unmapFile key address : KernelAction config Unit).MakesNoRoom := by
  unfold unmapFile
  refine .bind ?_ fun _ => .bind (.view _) fun space => .bind (.orFail _ _) fun region =>
    .bind (.change _) fun _ => .bind (makesNoRoom_removeOwned _ _ _ _) fun result => .ofExcept _
  unfold Action.require
  split
  · exact .pure _
  · exact .fail _

end KernelAction

namespace Machine

/-- The requests that remove every recorded mapping of a space, in ascending order. -/
def unmapRequests (machine : Machine config) (key : SpaceKey) : List (Operation config) :=
  (machine.space key).mappings.map fun region =>
    .request key (.unmap (region.range.start.firstAddress config))

/-- The handles that a space uses are those of its pages and of its records. -/
theorem mem_handles_iff {machine : Machine config} {key : SpaceKey} {handle : FileHandle} :
    handle ∈ (machine.space key).handles ↔
      (∃ number, machine.handle? key number = some handle) ∨
        ∃ start region, (machine.regions key).get? start = some region ∧ region.handle = handle := by
  simp only [Space.handles, List.mem_append, List.mem_filterMap, List.mem_map,
    OrderedMap.mem_values_iff]
  constructor
  · rintro (⟨page, ⟨number, found⟩, uses⟩ | ⟨region, ⟨start, recorded⟩, same⟩)
    · obtain ⟨backing, uses, same⟩ := Option.map_eq_some_iff.mp uses
      exact .inl ⟨number, handle?_eq_some_iff.mpr ⟨page, backing, found, uses, same⟩⟩
    · exact .inr ⟨start, region, recorded, same⟩
  · rintro (⟨number, known⟩ | ⟨start, region, recorded, same⟩)
    · obtain ⟨page, backing, found, uses, same⟩ := handle?_eq_some_iff.mp known
      exact .inl ⟨page, ⟨number, found⟩, Option.map_eq_some_iff.mpr ⟨backing, uses, same⟩⟩
    · exact .inr ⟨region, ⟨start, recorded⟩, same⟩

/-- A handle that a mapping opened is closed once no space uses it. -/
theorem not_mem_openHandles {machine : Machine config} {handle : FileHandle}
    (reopened : handle.IsReopened)
    (unused : ∀ key, handle ∉ (machine.space key).handles) :
    handle ∉ machine.openHandles handle.file := by
  intro isOpen
  rw [openHandles, List.mem_eraseDups] at isOpen
  rcases List.mem_append.mp isOpen with held | used
  · split at held
    · exact reopened (congrArg FileHandle.serial (List.mem_singleton.mp held))
    · exact List.not_mem_nil held
  · obtain ⟨space, listed, uses⟩ := List.mem_flatMap.mp (List.mem_filter.mp used).1
    obtain ⟨key, known⟩ := OrderedMap.mem_values_iff.mp listed
    exact unused key (space_eq_of_get? known ▸ uses)

/-- The mapping at a page has been removed: all its pages are gone that can be told from its record,
and other spaces are as they were. -/
structure Unmapped (key : SpaceKey) (start : PageNumber) (machine later : Machine config) : Prop where
  atRest : later.AtRest
  covers : later.CoversMappings key
  spares : machine.Spares key later
  spaceExists : (later.spaces.get? key).isSome
  records : ∀ other, (later.regions key).get? other =
    if other = start then none else (machine.regions key).get? other

end Machine

/-- An action that ends well either way and makes no room is done or has failed. -/
theorem Action.Ends.settles {State Value : Type} {action : Action State Value} {state : State}
    {holds : State → Prop} (ends : action.Ends state (fun _ => holds) (fun _ => holds))
    (makesNoRoom : action.MakesNoRoom) :
    ∃ later, holds later ∧ ((∃ value, action state = .done value later) ∨
      ∃ error, action state = .failed error later) := by
  obtain ⟨done, failed, panicked⟩ := ends_iff.mp ends
  cases outcome : action state with
  | done value last => exact ⟨last, done value last outcome, .inl ⟨value, rfl⟩⟩
  | failed error last => exact ⟨last, failed error last outcome, .inr ⟨error, rfl⟩⟩
  | panicked panic last =>
    exact absurd (panicked panic last outcome) (makesNoRoom state panic last outcome)

namespace PageNumber

variable {number : PageNumber}

/-- The first address of a page that lies in the address space is its number times the size of a
page. -/
theorem toNat_firstAddress (placed : number.word.toNat * config.pageSize < Word.modulus) :
    (number.firstAddress config).word.toNat = number.word.toNat * config.pageSize := by
  rw [firstAddress, UInt64.toNat_mul, Config.toNat_pageSizeWord]
  exact Nat.mod_eq_of_lt placed

/-- The first address of a page leads back to the page. -/
theorem page_firstAddress (placed : number.word.toNat * config.pageSize < Word.modulus) :
    (number.firstAddress config).page config = number := by
  apply Numbered.number_injective
  show ((number.firstAddress config).page config).word.toNat = number.word.toNat
  rw [VirtualAddress.toNat_page, toNat_firstAddress placed]
  exact Nat.mul_div_cancel _ config.pageSize_pos

/-- The first address of a page is aligned. -/
theorem isPageAligned_firstAddress (placed : number.word.toNat * config.pageSize < Word.modulus) :
    (number.firstAddress config).isPageAligned config = true := by
  rw [VirtualAddress.isPageAligned_iff, toNat_firstAddress placed]
  exact Nat.mul_mod_left _ _

end PageNumber

/-- An action on a space that exists is performed. -/
theorem KernelAction.withSpace_apply {machine : Machine config} {key : SpaceKey}
    (known : (machine.spaces.get? key).isSome) (action : KernelAction config Answer) :
    withSpace key action machine = action machine := by
  have checked : (if machine.spaces.contains key then action else pure (.refused .noSuchSpace)) =
      action := if_pos known
  exact congrFun checked machine

/-- Operations can be performed one after the other as long as each of them ends. -/
theorem Operation.Yields.performAll_cons {operation : Operation config}
    {machine middle later : Machine config} {result : Except VmError Answer}
    {rest : List (Operation config)} {log : OperationLog config}
    (yields : operation.Yields machine result middle) (permitted : operation.IsPermitted machine)
    (performed : performAll rest middle = some (log, later)) :
    performAll (operation :: rest) machine = some ((operation, result) :: log, later) := by
  unfold performAll
  rw [if_pos permitted]
  unfold Operation.Yields at yields
  cases result <;> simp only [yields, performed, Option.map_some]

namespace Machine

open KernelAction

variable {machine : Machine config} {key : SpaceKey} {start : PageNumber}

/-- Where records cover the pages of mappings, removing a mapping leaves none of its pages. -/
theorem UnmapsFile.unmapped {region : Region} {later : Machine config}
    (unmaps : UnmapsFile key start region machine later) (atRest : machine.AtRest)
    (spaceExists : (machine.spaces.get? key).isSome) (covers : machine.CoversMappings key) :
    Unmapped key start machine later where
  atRest := unmaps.passes.atRest
  covers := unmaps.coversMappings atRest covers
  spares := unmaps.path.spares atRest.consistent
    fun _ _ empties => Transition.Drops.concerns (.inl empties)
  spaceExists := by
    rw [unmaps.passes.isSome_eq (fun _ => Transition.Discards.keepsSpaces), unrecorded,
      isSome_updateSpace]
    exact spaceExists
  records other := by
    rw [unmaps.passes.path.regions_eq fun _ _ discards => discards.keepsRecords key,
      regions_unrecorded, if_pos rfl, OrderedMap.get?_erase_eq]

/-- A mapping can be removed; if content of it cannot be saved, it is removed nevertheless. -/
theorem unmap_completes (atRest : machine.AtRest)
    (spaceExists : (machine.spaces.get? key).isSome) (covers : machine.CoversMappings key)
    (placed : start.word.toNat * config.pageSize < Word.modulus) :
    ∃ result later,
      (Operation.request key (.unmap (start.firstAddress config))).Yields machine result later ∧
        Unmapped key start machine later := by
  have performs : (Operation.request key (.unmap (start.firstAddress config))).perform machine =
      (unmapFile key (start.firstAddress config) >>= fun _ => pure .done) machine :=
    withSpace_apply spaceExists _
  have starts := PageNumber.page_firstAddress placed
  cases recorded : (machine.regions key).get? start with
  | none =>
    have failed : unmapFile key (start.firstAddress config) machine = .failed .notMapped machine :=
      unmapFile_of_unrecorded fun _ => starts.symm ▸ recorded
    refine ⟨.error .notMapped, machine, performs.trans (Action.bind_of_failed failed), ?_⟩
    exact ⟨atRest, covers, .refl, spaceExists, fun other => by
      split
      · next here => rw [here, recorded]
      · rfl⟩
  | some region =>
    have ends := unmapFile_recorded_ends atRest (PageNumber.isPageAligned_firstAddress placed)
      (starts.symm ▸ recorded)
    rw [starts] at ends
    obtain ⟨later, unmaps, ⟨_, done⟩ | ⟨error, failed⟩⟩ :=
      ends.settles (makesNoRoom_unmapFile key _)
    · exact ⟨.ok .done, later, performs.trans (Action.bind_of_done done),
        unmaps.unmapped atRest spaceExists covers⟩
    · exact ⟨.error error, later, performs.trans (Action.bind_of_failed failed),
        unmaps.unmapped atRest spaceExists covers⟩

/-- The mappings that are removed one after the other are gone, and other spaces are as they were. -/
theorem unmapAll_completes {starts : List PageNumber}
    (placed : ∀ start ∈ starts, start.word.toNat * config.pageSize < Word.modulus)
    (atRest : machine.AtRest) (spaceExists : (machine.spaces.get? key).isSome)
    (covers : machine.CoversMappings key) :
    ∃ log later,
      performAll (starts.map fun start => .request key (.unmap (start.firstAddress config))) machine =
        some (log, later) ∧
      later.CoversMappings key ∧ machine.Spares key later ∧
      ∀ start, start ∈ starts ∨ (machine.regions key).get? start = none →
        (later.regions key).get? start = none := by
  induction starts generalizing machine with
  | nil => exact ⟨[], machine, rfl, covers, .refl, fun start vacant => vacant.resolve_left nofun⟩
  | cons start rest inductionHypothesis =>
    obtain ⟨result, middle, yields, unmapped⟩ := unmap_completes atRest spaceExists covers
      (placed start List.mem_cons_self)
    obtain ⟨log, later, performed, covers', spares, vacant⟩ := inductionHypothesis
      (fun other listed => placed other (List.mem_cons_of_mem _ listed)) unmapped.atRest
      unmapped.spaceExists unmapped.covers
    refine ⟨(_, result) :: log, later, yields.performAll_cons trivial performed, covers',
      unmapped.spares.trans spares, ?_⟩
    intro other listed
    apply vacant
    rw [unmapped.records]
    rcases listed with listed | unrecorded
    · rcases List.mem_cons.mp listed with rfl | listed
      · exact .inr (if_pos rfl)
      · exact .inl listed
    · right
      split
      · rfl
      · exact unrecorded

/-- Once all recorded mappings of a space are removed, no page of a mapping is left in it, and the
handles that mappings opened and no other space uses are closed. -/
theorem CoversMappings.unmapAll (covers : machine.CoversMappings key) (atRest : machine.AtRest)
    (placed : machine.RegionsPlaced) (spaceExists : (machine.spaces.get? key).isSome) :
    ∃ log later, performAll (machine.unmapRequests key) machine = some (log, later) ∧
      (∀ number handle, later.handle? key number = some handle → ¬ handle.IsReopened) ∧
      ∀ handle : FileHandle, handle.IsReopened →
        (∀ other, other ≠ key → handle ∉ (machine.space other).handles) →
          handle ∉ later.openHandles handle.file := by
  have starts : machine.unmapRequests key = ((machine.space key).mappings.map
      fun region => region.range.start).map
        fun start => .request key (.unmap (start.firstAddress config)) := by
    rw [List.map_map]
    rfl
  have listed : ∀ {start region}, (machine.regions key).get? start = some region →
      start ∈ (machine.space key).mappings.map fun region => region.range.start := by
    intro start region recorded
    rw [← (placed _ _ _ recorded).1]
    exact List.mem_map_of_mem (OrderedMap.mem_values_iff.mpr ⟨start, recorded⟩)
  have inMemory : ∀ start ∈ (machine.space key).mappings.map fun region => region.range.start,
      start.word.toNat * config.pageSize < Word.modulus := by
    intro start isStart
    obtain ⟨region, isMapping, rfl⟩ := List.mem_map.mp isStart
    obtain ⟨first, recorded⟩ := OrderedMap.mem_values_iff.mp isMapping
    exact (placed _ _ _ recorded).1 ▸ (placed _ _ _ recorded).2
  obtain ⟨log, later, performed, covers', spares, vacant⟩ :=
    unmapAll_completes inMemory atRest spaceExists covers
  have none : ∀ start, (later.regions key).get? start = none := by
    intro start
    apply vacant
    cases recorded : (machine.regions key).get? start with
    | none => exact .inr rfl
    | some region => exact .inl (listed recorded)
  have unmapped : ∀ number handle, later.handle? key number = some handle → ¬ handle.IsReopened := by
    intro number handle known reopened
    obtain ⟨start, region, recorded, _⟩ := covers' number handle known reopened
    cases (none start).symm.trans recorded
  refine ⟨log, later, starts ▸ performed, unmapped, ?_⟩
  intro handle reopened elsewhere
  apply not_mem_openHandles reopened
  intro other uses
  by_cases here : other = key
  · subst here
    rcases mem_handles_iff.mp uses with ⟨number, known⟩ | ⟨start, region, recorded, _⟩
    · exact unmapped number handle known reopened
    · cases (none start).symm.trans recorded
  · apply elsewhere other here
    rw [mem_handles_iff] at uses ⊢
    rcases uses with ⟨number, known⟩ | ⟨start, region, recorded, same⟩
    · exact .inl ⟨number, handle?_of_recedes (spares.pages other here number) ▸ known⟩
    · exact .inr ⟨start, region, spares.regions other here ▸ recorded, same⟩

end Machine

/-! ## Runs -/

instance (machine : Machine config) (operation : Operation config) :
    Decidable (operation.TakesNoRecord machine) :=
  match operation with
  | .copy _ _ => isFalse id
  | .request key (.map address _ _ _ _) =>
    inferInstanceAs (Decidable ((machine.regions key).get? (address.page config) = none))
  | .request _ (.allocate _ _ _ _) | .request _ (.claim _) | .request _ (.remove _)
  | .request _ (.fault _) | .request _ (.userFault _) | .request _ (.recordStackPointer _)
  | .request _ (.read _ _) | .request _ (.write _ _) | .request _ (.unmap _)
  | .request _ .tearDown | .create _ | .drop _ | .fork _ | .shutdown _ | .takeFrame | .returnFrame
  | .createFile _ | .closeFile _ | .writeFile _ _ _ | .setFileFaults _ _ | .setSwapFaults _ _ _ =>
    isTrue trivial

/-- In a run in which no mapping takes the place of an older record, every page of a mapping is covered
by a record of its space. Once the recorded mappings of a space are removed, no such page is left, and
the handles of mappings that no other space uses are closed.

Besides by mappings, pages of files are registered in a run only through the handles that the creators of
the files hold (`TargetRequest.file`). The handle that a mapping opens stays with it and is given to no
program, so no page is registered through it by other means. -/
theorem GuardedRun.mappings_covered {frames slots : Nat} {log : OperationLog config}
    {machine : Machine config}
    (guarded : GuardedRun Operation.TakesNoRecord (.boot config frames slots) log machine)
    (key : SpaceKey) :
    machine.CoversMappings key ∧
      ((machine.spaces.get? key).isSome →
        ∃ more later, performAll (machine.unmapRequests key) machine = some (more, later) ∧
          (∀ number handle, later.handle? key number = some handle → ¬ handle.IsReopened) ∧
          ∀ handle : FileHandle, handle.IsReopened →
            (∀ other, other ≠ key → handle ∉ (machine.space other).handles) →
              handle ∉ later.openHandles handle.file) := by
  have covers : ∀ key, machine.CoversMappings key := by
    apply guarded.preserves fun key => .of_vacant fun _ => rfl
    intro operation _ machine _ later run covers permitted takes yields
    exact fun key => yields.coversMappings run.atRest permitted takes covers key
  exact ⟨covers key, (covers key).unmapAll guarded.run.atRest guarded.run.regionsPlaced⟩

/-- A file is mapped, a page of the mapping is removed, and its place is mapped again on its own. -/
def remappingProgram (again : VirtualAddress) : List (Operation .small) :=
  let space : SpaceKey := ⟨.main, ⟨1⟩⟩
  [.create .main,
    .createFile #[10, 11, 12, 13, 14, 15, 16, 17],
    .request space (.map ⟨16⟩ 8 true ⟨0⟩ 0),
    .request space (.write ⟨18⟩ #[5, 6, 7]),
    .request space (.remove again),
    .request space (.map again 4 true ⟨0⟩ 0)]

/-- The second page of a mapping is mapped again and the space is forked: the records of both spaces
cover all pages, and removing the mappings of one leaves no page of them in it. -/
theorem GuardedRun.mappings_covered_remapped : ∃ log machine more later,
    performGuarded Operation.TakesNoRecord (remappingProgram ⟨20⟩ ++ [.fork ⟨.main, ⟨1⟩⟩])
      (.boot .small 3 8) = some (log, machine) ∧
    machine.handle? ⟨.main, ⟨2⟩⟩ ⟨5⟩ = some ⟨⟨0⟩, 2⟩ ∧ machine.CoversMappings ⟨.main, ⟨2⟩⟩ ∧
    performAll (machine.unmapRequests ⟨.main, ⟨2⟩⟩) machine = some (more, later) ∧
    ∀ number handle, later.handle? ⟨.main, ⟨2⟩⟩ number = some handle → ¬ handle.IsReopened := by
  have performed : ((performGuarded Operation.TakesNoRecord
      (remappingProgram ⟨20⟩ ++ [.fork ⟨.main, ⟨1⟩⟩]) (.boot .small 3 8)).any fun (_, machine) =>
        machine.handle? ⟨.main, ⟨2⟩⟩ ⟨5⟩ = some ⟨⟨0⟩, 2⟩ &&
          (machine.spaces.get? ⟨.main, ⟨2⟩⟩).isSome) = true := by
    decide +kernel
  obtain ⟨⟨log, machine⟩, outcome, facts⟩ := (Option.any_eq_true _ _).mp performed
  rw [Bool.and_eq_true, decide_eq_true_eq] at facts
  obtain ⟨covers, removes⟩ :=
    GuardedRun.mappings_covered (GuardedRun.nil.append outcome) ⟨.main, ⟨2⟩⟩
  obtain ⟨more, later, unmapped, left, _⟩ := removes facts.2
  exact ⟨log, machine, more, later, outcome, facts.1, covers, unmapped, left⟩

/-- The first page of a mapping is mapped again: the new record takes the place of the old one, and
the second page of the old mapping is covered by none. When all recorded mappings are removed it stays,
and its handle stays open, although there is no other space. -/
theorem mapping_uncovered : ∃ log machine more later,
    performAll (remappingProgram ⟨16⟩) (.boot .small 3 8) = some (log, machine) ∧
    machine.spaces.keys = [⟨.main, ⟨1⟩⟩] ∧ ¬ machine.CoversMappings ⟨.main, ⟨1⟩⟩ ∧
    performAll (machine.unmapRequests ⟨.main, ⟨1⟩⟩) machine = some (more, later) ∧
    later.handle? ⟨.main, ⟨1⟩⟩ ⟨5⟩ = some ⟨⟨0⟩, 1⟩ ∧ ⟨⟨0⟩, 1⟩ ∈ later.openHandles ⟨0⟩ := by
  let key : SpaceKey := ⟨.main, ⟨1⟩⟩
  let handle : FileHandle := ⟨⟨0⟩, 1⟩
  have performed : ((performAll (remappingProgram ⟨16⟩) (.boot .small 3 8)).any fun (_, machine) =>
      machine.spaces.keys = [key] && machine.handle? key ⟨5⟩ = some handle &&
        (machine.regions key).values.all (fun region =>
          !(region.range.contains ⟨5⟩ && region.handle == handle)) &&
        (performAll (machine.unmapRequests key) machine).any fun (_, later) =>
          later.handle? key ⟨5⟩ = some handle && (later.openHandles ⟨0⟩).contains handle) = true := by
    decide +kernel
  obtain ⟨⟨log, machine⟩, outcome, facts⟩ := (Option.any_eq_true _ _).mp performed
  simp only [Bool.and_eq_true, decide_eq_true_eq] at facts
  obtain ⟨⟨⟨alone, known⟩, uncovered⟩, removed⟩ := facts
  obtain ⟨⟨more, later⟩, unmapped, kept⟩ := (Option.any_eq_true _ _).mp removed
  simp only [Bool.and_eq_true, decide_eq_true_eq, List.contains_iff_mem] at kept
  refine ⟨log, machine, more, later, outcome, alone, ?_, unmapped, kept⟩
  intro covers
  obtain ⟨start, region, recorded, inside, same⟩ := covers ⟨5⟩ handle known nofun
  have listed := List.all_eq_true.mp uncovered region (OrderedMap.mem_values_iff.mpr ⟨start, recorded⟩)
  simp [inside, same] at listed

end DemandPaging
