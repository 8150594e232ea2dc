import DemandPaging.Proofs.Acquisition
import DemandPaging.Proofs.Materialisation.Initializers
import DemandPaging.Proofs.Resolver
import DemandPaging.Proofs.Transparency

/-!
# Loads that fail

A load that fails has a reason, and leaves everything behind as it was found: the page waits where it did,
with the slot that it had, no content has changed although another page may have been evicted, and the
frame is back in the pool. What the page would have been loaded with is still there, so that a later claim
that is done loads it.
-/

namespace DemandPaging

open Machine

variable {config : Config}

/-! ## What a claim would load -/

namespace PageKind

variable {before after : Environment config} {kind : PageKind config} {number : PageNumber}

/-- The content of a page depends on the data of the devices alone. -/
theorem source_eq_of_sameStores (same : before.SameStores after) :
    kind.source after = kind.source before := by
  match kind with
  | .anonymous (some slot) => simp only [source, same.swap]
  | .anonymous none | .unloaded .anonymous _ => rfl
  | .file backing | .unloaded (.file backing) _ => simp only [source, same.data]

/-- Reports do not change what a page would be loaded with, which is read from the stores alone. -/
theorem source_record (environment : Environment config) (event : Event) :
    kind.source (environment.record event) = kind.source environment :=
  source_eq_of_sameStores ⟨rfl, fun _ => rfl⟩

/-- What is made of a content depends on how often initializers have been run. -/
theorem MadeFrom.congr {content bytes : PageBytes config}
    (made : kind.MadeFrom before number content bytes)
    (runs : ∀ id, before.runsOf id = after.runsOf id) : kind.MadeFrom after number content bytes := by
  unfold MadeFrom at made ⊢
  cases waits : kind.initializer? with
  | none => simpa [waits] using made
  | some initializer => simpa [waits, runs] using made

/-- A report changes no reason. -/
theorem CannotLoad.of_record {environment : Environment config} {event : Event} {error : VmError}
    (unasked : event.isRequest = false)
    (cannotLoad : kind.CannotLoad (environment.record event) number error) :
    kind.CannotLoad environment number error := by
  cases cannotLoad with
  | slot read => exact .slot (environment.swapSwitches_record unasked ▸ read)
  | file uses withheld =>
    refine .file uses ?_
    have next := environment.nextSwitches_record unasked
    have fetched : ∀ backing : FileBacking config,
        backing.fetch (environment.record event) = backing.fetch environment := fun backing =>
      congrArg (fun switches => (environment.file backing.handle.file).read switches
        backing.offset.toNat backing.readBytes) (next backing.handle.file)
    cases withheld with
    | unreachable needed inode => exact .unreachable needed (next _ ▸ inode)
    | failing needed read => exact .failing needed (fetched _ ▸ read)
    | short needed read incomplete => exact .short needed (fetched _ ▸ read) incomplete
  | initializer waits refused =>
    rw [source_record] at refused
    exact .initializer waits refused

end PageKind

namespace Machine

variable {machine ready later : Machine config} {key : SpaceKey} {page : Page config}
  {content : PageBytes config} {error : VmError} {frame : FrameNumber}

/-- What a claim of a page would load, apart from an initializer: the content of the page when a frame has
been acquired for it. -/
def Offers (key : SpaceKey) (page : Page config) (content : PageBytes config)
    (machine : Machine config) : Prop :=
  ∃ frame ready, KernelAction.acquireFrame key.subsystem [key] machine = .done frame ready ∧
    page.kind.source ready.environment = content

/-- Making room runs no initializer. -/
theorem runsOf_of_acquires {subsystem : Subsystem} {acquire : Transition config}
    (acquires : acquire.Acquires subsystem frame) (acquired : acquire.Leads machine ready)
    (consistent : machine.Consistent) (id : InitializerId) :
    ready.environment.runsOf id = machine.environment.runsOf id := by
  rw [acquired.runsOf_eq consistent id]
  cases acquires <;> rfl

/-- A page is loaded with what a claim of it would load. -/
theorem LoadsPage.madeFrom (loads : LoadsPage key page machine later)
    (consistent : machine.Consistent) (found : machine.page? key page.number = some page)
    (absent : page.frame = none) (offers : machine.Offers key page content) :
    ∃ frame, later.frame? key page.number = some frame ∧
      page.kind.MadeFrom machine.environment page.number content (later.frameBytes frame) := by
  obtain @⟨_, frame, ready, kind, window, requested, acquires, acquired, loaded⟩ := loads
  obtain ⟨_, _, requested', offered⟩ := offers
  cases requested.symm.trans requested'
  have spaceExists := isSome_of_page? (acquires.page?_eq acquired found absent)
  refine ⟨frame, ?_, ?_⟩
  · rw [frame?_of_page? (page?_settleLoaded spaceExists), amend_self]
    rfl
  · have made := ((PageKind.load_ends _ _ _).of_done loaded).madeFrom
    have recorded : page.kind.source
        ((ready.record (.loading key page.number)).window frame).environment = content :=
      (PageKind.source_record ..).trans offered
    rw [recorded] at made
    rw [frameBytes_settleLoaded, if_pos rfl]
    exact made.congr fun id => runsOf_of_acquires acquires acquired consistent id

end Machine

/-- While a frame is free, a claim would load the content that the page has. -/
theorem Machine.offers_of_free {machine : Machine config} {key : SpaceKey} {page : Page config}
    (nodup : machine.frames.Nodup) (free : machine.pool.free ≠ []) :
    machine.Offers key page (page.kind.source machine.environment) := by
  obtain ⟨frame, rest, first⟩ := List.exists_cons_of_ne_nil free
  have listed : frame ∈ machine.pool.free := first ▸ List.mem_cons_self
  refine ⟨frame, _, KernelAction.acquireFrame_eq_take [key] first
    (not_mem_table_of_free nodup listed key.subsystem), ?_⟩
  rw [environment_take, PageKind.source_record]

/-- A transition changes one page at most. -/
theorem Transition.Leads.changed_unique {transition : Transition config} {machine next : Machine config}
    (leads : transition.Leads machine next) (consistent : machine.Consistent)
    {key key' : SpaceKey} {number number' : PageNumber}
    (changed : next.page? key number ≠ machine.page? key number)
    (changed' : next.page? key' number' ≠ machine.page? key' number') :
    key' = key ∧ number' = number := by
  have touched : ∀ {probe other}, next.page? probe other ≠ machine.page? probe other →
      transition.Touches probe other := by
    intro probe other changed
    by_contra untouched
    exact changed (leads.untouched consistent untouched).1
  exact (touched changed).unique (touched changed')

/-! ## What a failed load leaves -/

namespace Machine

/-- The content with which a page would have been loaded is there, a frame can be had for the page however
the devices are mended, and a claim that is done loads that content; one that is not has a reason again. -/
structure Retries (key : SpaceKey) (page : Page config) (content : PageBytes config)
    (machine : Machine config) : Prop where
  there : page.kind.source machine.environment = content
  offered : ∀ environment, page.kind.source environment = content →
    ({ machine with environment := environment }).Offers key page content
  claimed : ∀ retry : Machine config, retry.AtRest →
    retry.page? key page.number = some page → retry.Offers key page content →
      (KernelAction.claimPage key page.number).Ends retry
        (fun _ last => ∃ frame, last.frame? key page.number = some frame ∧
          page.kind.MadeFrom retry.environment page.number content (last.frameBytes frame))
        (fun error _ => ∃ environment, page.kind.source environment = content ∧
          page.kind.CannotLoad environment page.number error)

/-- A load failed. The page is as it was, and so is everything else but for one page that may have been
evicted; the frame is back in the pool. -/
structure LeavesUnloaded (key : SpaceKey) (page : Page config) (error : VmError)
    (machine later : Machine config) : Prop where
  kept : later.page? key page.number = some page
  unmapped : later.mapped? key page.number = none
  slot : ∀ slot, page.kind.slot? = some slot → ∃ bytes,
    machine.stored? slot = some (some bytes) ∧ later.stored? slot = some (some bytes)
  samePages : SamePages machine later
  contents : later.content? = machine.content?
  oneEvicted : ∀ probe number probe' number',
    later.page? probe number ≠ machine.page? probe number →
    later.page? probe' number' ≠ machine.page? probe' number' → probe' = probe ∧ number' = number
  attempt : ∃ frame ready,
    KernelAction.acquireFrame key.subsystem [key] machine = .done frame ready ∧
    page.kind.CannotLoad ready.environment page.number error ∧
    frame ∈ later.pool.free ∧ (∀ subsystem, frame ∉ (later.table subsystem).frames) ∧
    later.Retries key page (page.kind.source ready.environment)

variable {machine ready later : Machine config} {key : SpaceKey} {page : Page config}
  {content : PageBytes config} {error : VmError} {frame : FrameNumber}

/-- The load failed for a reason when a frame had been acquired for the page. -/
theorem FailsToLoad.reason (fails : FailsToLoad key page error machine later) :
    ∃ frame ready, KernelAction.acquireFrame key.subsystem [key] machine = .done frame ready ∧
      page.kind.CannotLoad ready.environment page.number error := by
  obtain ⟨requested, -, -, failed⟩ := fails
  exact ⟨_, _, requested, ((PageKind.load_fails _ _ _).of_failed failed).of_record rfl⟩

/-- Where a frame is free and the content is still there, the load can be tried again and yields
that content. -/
theorem AtRest.retries (atRest : later.AtRest) (free : later.pool.free ≠ [])
    (absent : page.frame = none) (there : page.kind.source later.environment = content) :
    later.Retries key page content where
  there := there
  offered environment same := by
    have nodup : ({ later with environment } : Machine config).frames.Nodup := atRest.consistent.nodup
    rw [← same]
    exact offers_of_free nodup free
  claimed retry retryRest found offers := by
    refine (KernelAction.claimPage_decides retryRest found absent).mono
      (fun _ _ loads => loads.madeFrom retryRest.consistent found absent offers) ?_
    intro error last fails
    obtain ⟨_, _, requested, cannotLoad⟩ := fails.reason
    obtain ⟨_, _, requested', offered⟩ := offers
    cases requested.symm.trans requested'
    exact ⟨_, offered, cannotLoad⟩

/-- The slot of a page that waits is not touched when room is made. -/
theorem stored?_of_acquires {subsystem : Subsystem} {acquire : Transition config}
    (acquires : acquire.Acquires subsystem frame) (acquired : acquire.Leads machine ready)
    (consistent : machine.Consistent) (found : machine.page? key page.number = some page)
    (absent : page.frame = none) {slot : SwapSlot} (keeps : page.kind.slot? = some slot) :
    ready.stored? slot = machine.stored? slot := by
  have change := acquired.slotChange consistent.slots consistent.fits consistent.known.unissued
  have foundNow := acquires.page?_eq acquired found absent
  exact consistent.slots.stored?_eq change ((slot?_of_found found).trans keeps)
    ((slot?_of_found foundNow).trans keeps)

/-- A load that fails leaves the page unloaded. -/
theorem FailsToLoad.leavesUnloaded (fails : FailsToLoad key page error machine later)
    (atRest : machine.AtRest) (found : machine.page? key page.number = some page)
    (absent : page.frame = none) : LeavesUnloaded key page error machine later := by
  have consistent := atRest.consistent
  have course := fails.course atRest found absent
  have samePages := SamePages.of_shape? (fails.shape?_eq consistent)
  obtain ⟨frame, ready, requested', cannotLoad⟩ := fails.reason
  obtain @⟨_, _, _, window, requested, acquires, acquired, failed⟩ := fails
  cases requested.symm.trans requested'
  have environment : (ready.giveUp key page.number frame error window).environment =
      window.environment.record (.loadFailed page.number error) := environment_release
  have same : ready.environment.SameStores
      (ready.giveUp key page.number frame error window).environment := by
    obtain ⟨swap, files⟩ := ((PageKind.load_ends _ _ _).of_failed failed).1
    rw [environment]
    exact ⟨swap, files⟩
  have freed : frame ∈ (ready.giveUp key page.number frame error window).pool.free := by
    simp [giveUp, release, Machine.giveBack, FramePool.giveBack]
  have kept : (ready.giveUp key page.number frame error window).page? key page.number = some page := by
    rw [page?_giveUp]
    exact acquires.page?_eq acquired found absent
  refine ⟨kept, course.atRest.consistent.fits.entry_of_absent kept absent, fun slot keeps => ?_,
    samePages, ?_, fun probe number probe' number' changed changed' => ?_,
    frame, ready, requested, cannotLoad, freed, ?_, ?_⟩
  · obtain ⟨bytes, stored⟩ := consistent.slots.written ((slot?_of_found found).trans keeps)
    refine ⟨bytes, stored, ?_⟩
    rw [stored?, same.swap, ← stored?, stored?_of_acquires acquires acquired consistent found absent keeps,
      stored]
  · exact content?_eq_of_flat
      (course.passes.path.idles consistent fun _ _ fetches => fetches.1.keepsContents).pages
  · rw [page?_giveUp] at changed changed'
    exact acquired.changed_unique consistent changed changed'
  · exact not_mem_table_of_free course.atRest.consistent.nodup freed
  · exact course.atRest.retries (List.ne_nil_of_mem freed) absent (PageKind.source_eq_of_sameStores same)

end Machine

namespace KernelAction

variable {machine later : Machine config} {key : SpaceKey} {page : Page config} {error : VmError}

/-- A claim of a page that is registered and not resident fails only where the page cannot be loaded. -/
theorem failsToLoad_of_claimAddress (atRest : machine.AtRest)
    (found : machine.page? key page.number = some page) (absent : page.frame = none)
    {address : VirtualAddress} (here : address.page config = page.number)
    (failed : claimAddress key address machine = .failed error later) :
    FailsToLoad key page error machine later := by
  have there : (machine.space key).pageAt? address = some page := by
    unfold Space.pageAt?
    rw [here]
    exact found
  have claims : claimAddress key address machine = claimPage key page.number machine := by
    simp [claimAddress, Action.bind_apply, space, there, Action.orFail, Page.isResident, absent, here]
  exact (claimPage_decides atRest found absent).of_failed (claims.symm.trans failed)

/-- A fault on such a page, if it is permitted, fails only where the page cannot be loaded. -/
theorem failsToLoad_of_handleFault (atRest : machine.AtRest)
    (found : machine.page? key page.number = some page) (absent : page.frame = none)
    {fault : PageFault} (here : fault.address.page config = page.number)
    (named : fault.IsNamed config) (missing : fault.cause.notPresent = true)
    (permitted : ¬ fault.IsForbidden config page)
    (failed : handleFault key fault machine = .failed error later) :
    FailsToLoad key page error machine later := by
  have resolves := (handleFault_resolves atRest (isSome_of_page? found) fault).of_failed failed
  rw [← here] at found
  have decides := (resolves.decides atRest.consistent).registered named missing page found
  obtain ⟨done, -⟩ | ⟨_, same, fails⟩ := decides.2.2 permitted absent
  · cases done
  · cases same
    exact fails

end KernelAction

/-- A load that fails leaves everything as it was: the page, its slot, what all pages contain, and the
frames; and a later claim loads what this one would have loaded. -/
theorem Run.failed_load_undone {frames slots : Nat} {log : OperationLog config}
    {machine : Machine config} (run : Run (.boot config frames slots) log machine) {key : SpaceKey}
    {page : Page config} (found : machine.page? key page.number = some page)
    (absent : page.frame = none) :
    (∀ address error later, address.page config = page.number →
      KernelAction.claimAddress key address machine = .failed error later →
        LeavesUnloaded key page error machine later) ∧
    ∀ fault error later, fault.address.page config = page.number → fault.IsNamed config →
      fault.cause.notPresent = true → ¬ fault.IsForbidden config page →
        KernelAction.handleFault key fault machine = .failed error later →
          LeavesUnloaded key page error machine later := by
  have atRest := run.atRest
  refine ⟨fun address error later here failed => ?_, fun fault error later here named missing permitted
    failed => ?_⟩
  · have fails := KernelAction.failsToLoad_of_claimAddress atRest found absent here failed
    exact fails.leavesUnloaded atRest found absent
  · have fails := KernelAction.failsToLoad_of_handleFault atRest found absent here named missing
      permitted failed
    exact fails.leavesUnloaded atRest found absent

/-- After a fork the child has a page in a slot that cannot be read: it stays there, although another page
was evicted for it. -/
theorem Run.failed_load_undone_unreadable :
    let child : SpaceKey := ⟨.main, ⟨2⟩⟩
    ∃ log machine page error later,
      performAll (crowdedProgram ++ [.setSwapFaults (some (some inputOutputError)) none])
        (.boot .small 3 8) = some (log, machine) ∧
      machine.page? child page.number = some page ∧ page.frame = none ∧ page.kind.slot?.isSome ∧
      KernelAction.claimAddress child ⟨6⟩ machine = .failed error later ∧
      machine.mainTable.evictions < later.mainTable.evictions ∧
      LeavesUnloaded child page error machine later := by
  intro child
  have performed : ((performAll (crowdedProgram ++
      [.setSwapFaults (some (some inputOutputError)) none]) (.boot .small 3 8)).any
        fun (_, machine) =>
          (match machine.page? child ⟨1⟩ with
            | some page => page.number == ⟨1⟩ && page.frame.isNone && page.kind.slot?.isSome
            | none => false) &&
          match KernelAction.claimAddress child ⟨6⟩ machine with
          | .failed _ later => decide (machine.mainTable.evictions < later.mainTable.evictions)
          | _ => false) = true := by
    decide +kernel
  obtain ⟨⟨log, machine⟩, outcome, checked⟩ := (Option.any_eq_true _ _).mp performed
  obtain ⟨waits, denied⟩ := Bool.and_eq_true_iff.mp checked
  have run : Run (.boot .small 3 8) log machine := Run.nil.append outcome
  cases found : machine.page? child ⟨1⟩ with
  | none =>
    rw [found] at waits
    cases waits
  | some page =>
    simp only [found, Bool.and_eq_true, beq_iff_eq, Option.isNone_iff_eq_none] at waits
    obtain ⟨⟨numbered, absent⟩, kept⟩ := waits
    rw [← numbered] at found
    cases failed : KernelAction.claimAddress child ⟨6⟩ machine with
    | failed error later =>
      rw [failed] at denied
      exact ⟨log, machine, page, error, later, outcome, found, absent, kept, failed,
        of_decide_eq_true denied,
        (run.failed_load_undone found absent).1 ⟨6⟩ error later numbered.symm failed⟩
    | done value later | panicked panic later =>
      rw [failed] at denied
      cases denied

end DemandPaging
