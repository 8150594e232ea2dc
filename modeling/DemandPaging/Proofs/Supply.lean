import DemandPaging.Proofs.Requests
import DemandPaging.Proofs.UserCopy.Fading

/-!
# Enough frames for a fork

A subsystem can draw on the free frames and on those in its queue. A request moves a frame from the pool to
the queue or from the front of the queue to its end, so a copy keeps the number of frames that it can draw
on. All of them but the one that is being copied can be had, so a fork never runs out of two frames. One
frame is enough if it is free: then the subsystem has no other, and nothing is copied from a frame.
-/

namespace DemandPaging

open Machine

variable {config : Config}

namespace Machine

variable {machine later : Machine config} {subsystem : Subsystem} {frame : FrameNumber}
  {transition : Transition config}

/-- The number of frames that a subsystem can draw on: the free ones, and those in its queue. -/
def supply (machine : Machine config) (subsystem : Subsystem) : Nat :=
  machine.pool.free.length + (machine.table subsystem).queue.length

/-- The supply does not depend on who owns the frames in the queue. -/
theorem supply_update {change : FrameEntry → FrameEntry} :
    (machine.updateTable subsystem (·.update frame change)).supply subsystem =
      machine.supply subsystem := by
  unfold supply
  rw [pool_updateTable, table_updateTable, FrameTable.update, List.length_map]

/-- A request draws on what there is, and leaves as much. -/
theorem supply_of_acquires (acquires : transition.Acquires subsystem frame)
    (leads : transition.Leads machine later) : later.supply subsystem = machine.supply subsystem := by
  unfold supply
  cases acquires with
  | take =>
    cases leads with
    | @take _ _ _ rest free =>
      have pool : (machine.take subsystem frame rest).pool.free = rest := by simp [take]
      rw [table_take, if_pos rfl, pool, free]
      simp only [FrameTable.push, List.length_append, List.length_cons, List.length_nil]
      omega
  | evict home =>
    subst home
    cases leads with
    | @evict _ _ _ _ _ _ _ _ picked =>
      obtain ⟨_, before, after, parts, rest⟩ := FrameTable.pickVictim_eq_some picked
      rw [table_evicted, if_pos rfl, parts]
      simp [vacate, beforeStore, FrameTable.push, FrameTable.countEviction, rest]

/-- If no frame can be had, a subsystem can draw on nothing but the frame that is being copied. -/
theorem supply_le {source : Option FrameNumber} (nodup : machine.frames.Nodup)
    (empty : machine.pool.free = []) (none : (machine.table subsystem).firstBut source = none) :
    machine.supply subsystem ≤ source.toList.length := by
  have copied : ∀ entry ∈ (machine.table subsystem).queue, source = some entry.frame := by
    simpa [FrameTable.firstBut] using none
  have once := nodup_table nodup subsystem
  unfold FrameTable.frames at once
  unfold supply
  rw [empty]
  cases queue : (machine.table subsystem).queue with
  | nil => simp
  | cons first rest =>
    rw [queue] at once copied
    have here := copied first (by simp)
    cases rest with
    | nil => simp [here]
    | cons second rest =>
      have same := here.symm.trans (copied second (by simp))
      simp [Option.some.inj same] at once

/-- While its queue is empty, no page of a subsystem is mapped. -/
theorem Consistent.mapped?_eq_none (consistent : machine.Consistent) {key : SpaceKey}
    (empty : (machine.table key.subsystem).queue = []) (number : PageNumber) :
    machine.mapped? key number = none := by
  cases mapped : machine.mapped? key number with
  | none => rfl
  | some entry =>
    obtain ⟨page, found, resident, -⟩ := consistent.fits.page_of_entry mapped
    have tracked := consistent.tables.tracked ((frame?_of_found found).trans resident)
    rw [FrameTable.frames, empty] at tracked
    cases tracked

end Machine

/-- A copy does nothing to a page that it copies but evict it. -/
theorem Transition.Clones.spares {transition : Transition config} {child parent : SpaceKey}
    {number : PageNumber} (clones : transition.Clones child parent) (apart : child ≠ parent) :
    transition.Spares parent number := by
  rcases clones with prepares | rfl | ⟨page, rfl⟩ | ⟨other, frame, rfl⟩
  · cases transition with
    | pin => exact fun touches => touches.elim
    | _ => exact Transition.IsQuiet.spares prepares
  · exact fun touches => touches.elim
  · exact fun touches => absurd touches.1 apart
  · exact fun touches => absurd touches.1 apart

namespace KernelAction

variable {machine later : Machine config} {child parent : SpaceKey} {number : PageNumber}

/-- Giving a page its frame does not change the supply. -/
theorem settlePage_supply {key : SpaceKey} {page : Page config} {frame : FrameNumber} :
    (settlePage key page frame).Keeps (·.supply key.subsystem) := by
  refine .bind (.assert _ _) fun _ => .bind (.change fun _ => rfl) fun _ => .bind .current fun _ => ?_
  split
  · exact .bind (.change fun _ => supply_update) fun _ => .change fun _ => rfl
  · exact .change fun _ => rfl

/-- A page is filled with a frame that the subsystem can draw on. -/
theorem fillCopy_supply {source : CopySource} {filled : FrameNumber × Bool}
    (consistent : (FrameRequest.ofCopy child parent machine source).machine.Consistent)
    (done : fillCopy child parent number source machine = .done filled later) :
    later.supply child.subsystem = machine.supply child.subsystem := by
  have acquired : ∀ {ready middle : Machine config} {frame : FrameNumber}, ready.Consistent →
      acquireFrame child.subsystem [parent, child] ready = .done frame middle →
        middle.supply child.subsystem = ready.supply child.subsystem := by
    intro ready middle frame consistent done
    obtain ⟨transition, acquires, leads⟩ :=
      (acquireFrame_ends consistent child.subsystem [parent, child]).of_done done
    exact supply_of_acquires acquires leads
  cases source with
  | frame source =>
    obtain ⟨_, _, pinned, done⟩ := Action.bind_eq_done_iff.mp done
    cases pinned
    obtain ⟨frame, middle, acquires, done⟩ := Action.bind_eq_done_iff.mp done
    cases done
    exact supply_update.trans ((acquired consistent acquires).trans supply_update)
  | slot slot =>
    obtain ⟨frame, middle, acquires, done⟩ := Action.bind_eq_done_iff.mp done
    obtain ⟨result, read, reads, done⟩ := Action.bind_eq_done_iff.mp done
    have blind : (EnvironmentAction.readSlot slot : EnvironmentAction config _).Keeps fun _ => () :=
      EnvironmentAction.keeps_readSlot slot
    have keeps : (onEnvironment (EnvironmentAction.readSlot slot) : KernelAction config _).Keeps
        (Machine.supply · child.subsystem) := blind.zoom fun _ _ _ => rfl
    have same := (keeps.attempt.of_done reads).trans (acquired consistent acquires)
    cases result with
    | ok content =>
      cases done
      exact same
    | error error =>
      obtain ⟨_, _, _, failed⟩ := Action.bind_eq_done_iff.mp done
      cases failed

/-- A page that is copied leaves its subsystem as much to draw on. -/
theorem copyPage_supply (atRest : machine.AtRest) (spaceExists : (machine.spaces.get? child).isSome)
    (apart : child ≠ parent) (home : child.subsystem = parent.subsystem)
    (done : copyPage child parent number machine = .done () later) :
    later.supply child.subsystem = machine.supply child.subsystem := by
  obtain ⟨space, _, seen, done⟩ := Action.bind_eq_done_iff.mp done
  cases seen
  cases known : (machine.space parent).pages.get? number with
  | none =>
    rw [known] at done
    cases done
    rfl
  | some page =>
    have found : machine.page? parent number = some page := known
    cases atRest.consistent.fits.number_eq found
    rw [known] at done
    obtain ⟨_, grown, registers, done⟩ := Action.bind_eq_done_iff.mp done
    obtain ⟨vacant, rfl⟩ := insertPage_eq_done_iff.mp registers
    obtain ⟨grownRest, model⟩ := atRest.registered spaceExists apart found vacant
    cases content : page.copySource? with
    | none =>
      rw [content] at done
      cases done
      rfl
    | some source =>
      rw [content] at done
      obtain ⟨⟨frame, dirty⟩, middle, fills, done⟩ := Action.bind_eq_done_iff.mp done
      obtain ⟨_, settled, settles, done⟩ := Action.bind_eq_done_iff.mp done
      have filled := fillCopy_supply (grownRest.requesting_ofCopy home model content).consistent fills
      have same := (settlePage_supply.of_done settles).trans filled
      cases dirty <;> cases done <;> exact same

/-- The pages that are copied leave their subsystem as much to draw on. -/
theorem copyPages_supply (numbers : List PageNumber) {machine : Machine config} (atRest : machine.AtRest)
    (spaceExists : (machine.spaces.get? child).isSome) (apart : child ≠ parent)
    (home : child.subsystem = parent.subsystem)
    (done : Action.forEach (copyPage child parent) numbers machine = .done () later) :
    later.supply child.subsystem = machine.supply child.subsystem := by
  induction numbers generalizing machine with
  | nil =>
    cases done
    rfl
  | cons number rest inductionHypothesis =>
    obtain ⟨middle, here, others⟩ := Action.forEach_cons_eq_done.mp done
    have course := ((copyPage_course atRest home.symm apart spaceExists).of_done here).1
    have still := (course.passes.isSome_eq (fun _ => Transition.ClonesOnly.keepsSpaces)
      child).trans spaceExists
    exact (inductionHypothesis course.atRest still others).trans
      (copyPage_supply atRest spaceExists apart home here)

end KernelAction

namespace Machine

variable {machine : Machine config} {child parent : SpaceKey} {request : FrameRequest config}

/-- A request of a copy can draw on as much as the copy could when it began. -/
theorem AtRest.supply_of_copyAsks (atRest : machine.AtRest)
    (spaceExists : (machine.spaces.get? child).isSome) (asks : CopyAsks child parent machine request) :
    request.subsystem = child.subsystem ∧
      request.machine.supply child.subsystem = machine.supply child.subsystem := by
  cases asks with
  | @page _ _ _ _ source apart home _ copied =>
    have points := KernelAction.takeStackPointer_passes atRest child parent
    have same := KernelAction.copyPages_supply _ points.atRest
      (KernelAction.isSome_of_clones points spaceExists) apart home copied
    cases source with
    | frame => exact ⟨rfl, supply_update.trans same⟩
    | slot => exact ⟨rfl, same⟩

/-- While the queue of its subsystem is empty, a copy has no frame to copy from. -/
theorem AtRest.source_of_copyAsks (atRest : machine.AtRest)
    (spaceExists : (machine.spaces.get? child).isSome) (asks : CopyAsks child parent machine request)
    (empty : (machine.table child.subsystem).queue = []) : request.source = none := by
  cases asks with
  | @page _ _ middle page source apart home _ copied found _ content =>
    cases source with
    | slot => rfl
    | frame frame =>
      obtain ⟨_, resident⟩ := page.copySource?_eq_frame content
      have passes := atRest.passes_copied spaceExists apart home copied
      have fades : Fades parent page.number machine middle :=
        passes.fades atRest.consistent fun _ clones => clones.spares apart
      obtain ⟨_, _, mapped⟩ := passes.atRest.consistent.fits.entry_of_resident found resident
      have unmapped := atRest.consistent.mapped?_eq_none (home ▸ empty) page.number
      cases unmapped.symm.trans (fades _ mapped).1

/-- A copy does not run out of frames if one is free or its subsystem has two. -/
theorem AtRest.copySpace_roomy (atRest : machine.AtRest)
    (spaceExists : (machine.spaces.get? child).isSome)
    (enough : machine.pool.free ≠ [] ∨ 2 ≤ (machine.table child.subsystem).queue.length) :
    ¬ (KernelAction.copySpace child parent).Stops machine .outOfFrames := by
  intro stops
  obtain ⟨request, asks, shortage⟩ :=
    ((KernelAction.copySpace_requests atRest spaceExists).stops _).mp stops
  have consistent := (atRest.requesting_of_copyAsks spaceExists asks).consistent
  obtain ⟨home, same⟩ := atRest.supply_of_copyAsks spaceExists asks
  cases shortage with
  | exhausted empty none =>
    have few := supply_le consistent.nodup empty none
    rw [home, same, supply] at few
    have most : request.source.toList.length ≤ 1 := by cases request.source <;> simp
    rcases enough with free | two
    · have positive := List.length_pos_iff.mpr free
      have vacant : (machine.table child.subsystem).queue = [] :=
        List.eq_nil_of_length_eq_zero (by omega)
      rw [atRest.source_of_copyAsks spaceExists asks vacant, Option.toList_none, List.length_nil] at few
      omega
    · omega
  | unsaved _ cannot => exact cannot.ne_outOfFrames rfl

/-- A fork does not run out of frames if one is free or its subsystem has two. -/
theorem AtRest.forkSpace_roomy (atRest : machine.AtRest)
    (enough : machine.pool.free ≠ [] ∨ 2 ≤ (machine.table parent.subsystem).queue.length) :
    ¬ (KernelAction.forkSpace parent).Stops machine .outOfFrames := by
  intro stops
  obtain ⟨child, created, creates, stops⟩ := (KernelAction.forkSpace_stops_iff .outOfFrames).mp stops
  obtain ⟨createdRest, spaceExists⟩ := atRest.of_created creates
  obtain ⟨rfl, root, rfl⟩ := (KernelAction.createSpace_ends machine parent.subsystem).of_done creates
  refine createdRest.copySpace_roomy spaceExists ?_ stops
  have home : (machine.nextKey parent.subsystem).subsystem = parent.subsystem := rfl
  rw [pool_addSpace, home, table_addSpace, if_pos rfl]
  exact enough

/-- Where frames are requested, all requests are decided. -/
structure DecidesRequests (machine : Machine config) : Prop where
  claims : ∀ key address, (KernelAction.claimAddress key address).Requests machine
    (ClaimAsks key address machine)
  faults : ∀ key fault, (machine.spaces.get? key).isSome →
    (KernelAction.handleFault key fault).Requests machine (FaultAsks key fault machine)
  copies : ∀ child parent, (machine.spaces.get? child).isSome →
    (KernelAction.copySpace child parent).Requests machine (CopyAsks child parent machine)
  forks : ∀ parent, (KernelAction.forkSpace parent).Requests machine (ForkAsks parent machine)
  /-- A fork does not run out of frames if one is free or its subsystem has two. -/
  roomy : ∀ parent,
    machine.pool.free ≠ [] ∨ 2 ≤ (machine.table parent.subsystem).queue.length →
      ¬ (KernelAction.forkSpace parent).Stops machine .outOfFrames

/-- Between operations, all requests for frames that come next are decided. -/
theorem AtRest.decidesRequests (atRest : machine.AtRest) : machine.DecidesRequests where
  claims _ address := KernelAction.claimAddress_requests atRest address
  faults _ fault spaceExists := KernelAction.handleFault_requests atRest spaceExists fault
  copies _ _ := KernelAction.copySpace_requests atRest
  forks _ := KernelAction.forkSpace_requests atRest
  roomy _ := atRest.forkSpace_roomy

end Machine

/-- In every run each request for a frame is decided by the pool, the queue, and the content of one page:
the kernel stops if there is no page that could go, or if the content of the first one cannot be stored, and
otherwise a blank frame is had that nothing is mapped to. That also holds in the middle of an operation,
where no frame is in hand. -/
theorem Run.requests_decided {frames slots : Nat} {log : OperationLog config} {machine : Machine config}
    (run : Run (.boot config frames slots) log machine) :
    machine.DecidesRequests ∧ ∀ middle, Path (fun _ _ => True) machine middle → middle.Pending [] [] →
      middle.DecidesRequests := by
  have atRest := run.atRest
  refine ⟨atRest.decidesRequests, fun middle path idle => ?_⟩
  have middleRest : middle.AtRest := ⟨path.consistent atRest.consistent, idle⟩
  exact middleRest.decidesRequests

/-- A program that fills the only frame of a machine, and registers a second page. -/
def cornerProgram : List (Operation .small) :=
  let space : SpaceKey := ⟨.main, ⟨1⟩⟩
  [.create .main,
    .request space (.allocate .anonymous ⟨4⟩ true none),
    .request space (.write ⟨4⟩ #[1]),
    .request space (.allocate .anonymous ⟨8⟩ true none)]

/-- Without swap slots there is no frame for the second page; and there is none for a copy of the first,
which must not lose the frame that it is copied from. -/
theorem Run.requests_decided_cornered : ∃ log machine,
    performAll cornerProgram (.boot .small 1 0) = some (log, machine) ∧
    (∃ request, ClaimAsks ⟨.main, ⟨1⟩⟩ ⟨8⟩ machine request ∧ request.IsDecided ∧
      request.Shortage .swapFull) ∧
    ∃ request, ForkAsks ⟨.main, ⟨1⟩⟩ machine request ∧ request.IsDecided ∧
      request.Shortage .outOfFrames := by
  have performed : ((performAll cornerProgram (.boot .small 1 0)).any fun (_, machine) =>
      (KernelAction.claimAddress ⟨.main, ⟨1⟩⟩ ⟨8⟩ machine).panic? = some .swapFull &&
        (KernelAction.forkSpace ⟨.main, ⟨1⟩⟩ machine).panic? = some .outOfFrames) = true := by
    decide +kernel
  obtain ⟨⟨log, machine⟩, outcome, facts⟩ := (Option.any_eq_true _ _).mp performed
  simp only [Bool.and_eq_true, decide_eq_true_eq] at facts
  obtain ⟨decides, _⟩ := Run.requests_decided (Run.nil.append outcome)
  have claims := decides.claims ⟨.main, ⟨1⟩⟩ ⟨8⟩
  have forks := decides.forks ⟨.main, ⟨1⟩⟩
  obtain ⟨claim, claimed, full⟩ := (claims.stops _).mp (Action.stops_of_panic? facts.1)
  obtain ⟨copy, copied, exhausted⟩ := (forks.stops _).mp (Action.stops_of_panic? facts.2)
  exact ⟨log, machine, outcome, ⟨claim, claimed, claims.decided claim claimed, full⟩,
    copy, copied, forks.decided copy copied, exhausted⟩

end DemandPaging
