import Mathlib.Data.List.Find
import DemandPaging.Proofs.WriteBack.Reports

/-!
# When no frame can be had

A frame is requested while all frames have owners and none is exempt from eviction but that of a page that
is being copied. So if the pool is empty there is one page that has to go, the first in the queue that is
not being copied, and the request stops the kernel exactly if there is no such page or its content cannot
be stored. No second page is tried.
-/

namespace DemandPaging

open Machine

variable {config : Config}

/-! ## The page that has to go -/

/-- The first frame in the queue that is not the given one. -/
def FrameTable.firstBut (table : FrameTable) (source : Option FrameNumber) : Option FrameEntry :=
  table.queue.find? fun entry => decide (source ≠ some entry.frame)

namespace Machine

/-- A machine in which a frame is requested for a subsystem: all frames have owners, and none is exempt from
eviction but that of a page that is being copied, `source`, if there is one. -/
structure Requesting (subsystem : Subsystem) (source : Option FrameNumber) (machine : Machine config) :
    Prop where
  consistent : machine.Consistent
  owned : ∀ entry ∈ (machine.table subsystem).queue, entry.owner.isSome = true
  pinned : ∀ entry ∈ (machine.table subsystem).queue,
    entry.pinned = true ↔ source = some entry.frame

/-- The page that has to go if a frame is requested: while none is free, the first in the queue that is not
being copied. -/
structure IsNext (subsystem : Subsystem) (source : Option FrameNumber) (machine : Machine config)
    (key : SpaceKey) (page : Page config) (frame : FrameNumber) : Prop where
  empty : machine.pool.free = []
  home : key.subsystem = subsystem
  found : machine.page? key page.number = some page
  resident : page.frame = some frame
  first : ∃ entry, (machine.table subsystem).firstBut source = some entry ∧ entry.frame = frame

/-- Why no frame can be had: the pool is empty, and there is no page that could go, or the content of the
page that has to go cannot be stored once the frame has been asked for. -/
inductive Shortage (subsystem : Subsystem) (source : Option FrameNumber) (machine : Machine config) :
    Panic → Prop where
  | exhausted (empty : machine.pool.free = [])
      (none : (machine.table subsystem).firstBut source = none) :
    Shortage subsystem source machine .outOfFrames
  | unsaved {key : SpaceKey} {page : Page config} {frame : FrameNumber} {panic : Panic}
      (next : machine.IsNext subsystem source key page frame)
      (cannot : page.kind.CannotStore
        (machine.environment.record (.frameRequested key.subsystem true)) page.number
        (machine.frameBytes frame) ((machine.space key).isDirty page.number) panic) :
    Shortage subsystem source machine panic

variable {subsystem : Subsystem} {source : Option FrameNumber} {machine last : Machine config}
  {entry : FrameEntry} {key : SpaceKey} {page : Page config} {frame : FrameNumber}
  {remaining : FrameTable} {panic : Panic}

/-- A shortage is one of the reasons to stop the kernel. -/
theorem Shortage.isExhaustion (shortage : machine.Shortage subsystem source panic) :
    panic.IsExhaustion := by
  cases shortage with
  | exhausted => exact .outOfFrames
  | unsaved _ cannot => exact cannot.isExhaustion

/-- No other page has to go. -/
theorem IsNext.unique (next : machine.IsNext subsystem source key page frame)
    (consistent : machine.Consistent) {key' : SpaceKey} {page' : Page config} {frame' : FrameNumber}
    (next' : machine.IsNext subsystem source key' page' frame') :
    key' = key ∧ page' = page ∧ frame' = frame := by
  obtain ⟨_, _, found, resident, entry, first, rfl⟩ := next
  obtain ⟨_, _, found', resident', entry', first', rfl⟩ := next'
  cases first.symm.trans first'
  obtain ⟨rfl, same⟩ := consistent.tables.holder_unique consistent.nodup
    ((frame?_of_found found).trans resident) ((frame?_of_found found').trans resident')
  rw [← same] at found'
  cases found.symm.trans found'
  exact ⟨rfl, rfl, rfl⟩

namespace Requesting

variable (requesting : machine.Requesting subsystem source)

include requesting

/-- The kernel picks the first page in the queue that is not being copied. -/
theorem pickVictim_eq :
    (machine.table subsystem).pickVictim.map Prod.fst = (machine.table subsystem).firstBut source := by
  have same : ∀ entry ∈ (machine.table subsystem).queue,
      entry.isEvictable = decide (source ≠ some entry.frame) := by
    intro entry listed
    have pinned := requesting.pinned entry listed
    rw [FrameEntry.isEvictable, requesting.owned entry listed, Bool.true_and]
    by_cases copied : source = some entry.frame
    · rw [pinned.mpr copied]
      simp [copied]
    · rw [Bool.eq_false_iff.mpr fun isPinned => copied (pinned.mp isPinned)]
      simp [copied]
  unfold FrameTable.pickVictim FrameTable.firstBut
  rw [Option.map_map]
  show Option.map id _ = _
  rw [Option.map_id]
  exact List.find?_congr same

/-- The page that is picked has to go. -/
theorem isNext_of_picked (empty : machine.pool.free = []) (home : key.subsystem = subsystem)
    (picked : (machine.table subsystem).pickVictim =
      some ({ frame := frame, owner := some ⟨key.id, page.number⟩ }, remaining))
    (found : machine.page? key page.number = some page) (resident : page.frame = some frame) :
    machine.IsNext subsystem source key page frame := by
  have first := requesting.pickVictim_eq
  rw [picked] at first
  exact ⟨empty, home, found, resident, _, first.symm, rfl⟩

/-- The page that has to go is picked. -/
theorem picked_of_isNext (next : machine.IsNext subsystem source key page frame) :
    ∃ remaining, (machine.table subsystem).pickVictim =
      some ({ frame := frame, owner := some ⟨key.id, page.number⟩ }, remaining) := by
  obtain ⟨_, rfl, found, resident, entry, first, rfl⟩ := next
  rw [← requesting.pickVictim_eq, Option.map_eq_some_iff] at first
  obtain ⟨⟨_, remaining⟩, picked, rfl⟩ := first
  have consistent := requesting.consistent
  obtain ⟨space, other, held, owned, holds⟩ := consistent.holder_of_picked picked
  obtain ⟨same, numbered⟩ := consistent.tables.holder_unique consistent.nodup
    ((frame?_of_found owned).trans holds) ((frame?_of_found found).trans resident)
  have named : FrameOwner.mk space other.number = ⟨key.id, page.number⟩ := by
    rw [← same, ← numbered]
  rw [named] at held
  exact ⟨remaining, picked.trans (congrArg (fun victim => some (victim, remaining)) held)⟩

end Requesting

/-- The content of a victim can be stored unless there is a reason why it cannot be. -/
theorem Consistent.store_stops_iff (consistent : machine.Consistent)
    (found : machine.page? key page.number = some page) (resident : page.frame = some frame) :
    (∃ environment, page.kind.store page.number (machine.frameBytes frame)
        ((machine.space key).isDirty page.number)
        (machine.beforeStore key page.number remaining).environment = .panicked panic environment) ↔
      page.kind.CannotStore (machine.environment.record (.frameRequested key.subsystem true))
        page.number (machine.frameBytes frame) ((machine.space key).isDirty page.number) panic := by
  refine (PageKind.store_stops_iff (consistent.fits.isLoaded found resident)).trans ?_
  rw [environment_beforeStore]
  exact PageKind.cannotStore_record rfl

/-- A request for a frame finds none exactly in a shortage. -/
theorem Requesting.findsNoFrame_iff (requesting : machine.Requesting subsystem source) :
    (∃ last, machine.FindsNoFrame subsystem panic last) ↔ machine.Shortage subsystem source panic := by
  have consistent := requesting.consistent
  constructor
  · rintro ⟨_, ⟨empty, none⟩ | ⟨empty, home, picked, found, resident, unstored⟩⟩
    · refine .exhausted empty ?_
      rw [← requesting.pickVictim_eq, none]
      rfl
    · exact .unsaved (requesting.isNext_of_picked empty home picked found resident)
        ((consistent.store_stops_iff found resident).mp ⟨_, unstored⟩)
  · rintro (⟨empty, none⟩ | ⟨next, cannot⟩)
    · rw [← requesting.pickVictim_eq, Option.map_eq_none_iff] at none
      exact ⟨_, .exhausted empty none⟩
    · obtain ⟨remaining, picked⟩ := requesting.picked_of_isNext next
      obtain ⟨environment, unstored⟩ :=
        (consistent.store_stops_iff next.found next.resident).mpr cannot
      exact ⟨_, .unstored next.empty next.home picked next.found next.resident unstored⟩

end Machine

/-! ## Requests -/

/-- A request for a frame: the machine in which it is made and the subsystem to which, the spaces that the
caller works on, and the frame of the page that is being copied, if there is one. -/
structure FrameRequest (config : Config) where
  machine : Machine config
  subsystem : Subsystem
  held : List SpaceKey
  source : Option FrameNumber

namespace FrameRequest

/-- How a request ends. -/
def outcome (request : FrameRequest config) : Outcome (Machine config) FrameNumber :=
  KernelAction.acquireFrame request.subsystem request.held request.machine

/-- Why a request finds no frame. -/
def Shortage (request : FrameRequest config) (panic : Panic) : Prop :=
  request.machine.Shortage request.subsystem request.source panic

/-- The page that has to go. -/
def IsNext (request : FrameRequest config) (key : SpaceKey) (page : Page config) (frame : FrameNumber) :
    Prop :=
  request.machine.IsNext request.subsystem request.source key page frame

/-- A frame is there for a new page: it is blank and no page of any space is mapped to it. It was the next
free one, or that of the page that had to go. -/
structure Grants (request : FrameRequest config) (frame : FrameNumber) (later : Machine config) :
    Prop where
  blank : later.frameBytes frame = PageBytes.zero
  unmapped : ∀ key number entry, later.mapped? key number = some entry → entry.frame ≠ frame
  origin : request.machine.pool.free.head? = some frame ∨ ∃ key page, request.IsNext key page frame

/-- What becomes of a request. -/
structure IsDecided (request : FrameRequest config) : Prop where
  /-- The kernel stops in a shortage, and only then. -/
  stops : ∀ panic, (∃ last, request.outcome = .panicked panic last) ↔ request.Shortage panic
  /-- While a frame is free the next one is had. -/
  serves : ∀ frame rest, request.machine.pool.free = frame :: rest →
    ∃ later, request.outcome = .done frame later
  grants : (∀ panic, ¬ request.Shortage panic) →
    ∃ frame later, request.outcome = .done frame later ∧ request.Grants frame later
  /-- There is at most one page that has to go. -/
  unique : ∀ key page frame key' page' frame', request.IsNext key page frame →
    request.IsNext key' page' frame' → key' = key ∧ page' = page ∧ frame' = frame
  /-- However the request ends, no other page is asked to go. -/
  spares : ∀ key number,
    (∀ page frame, request.IsNext key page frame → page.number ≠ number) →
      request.outcome.state.page? key number = request.machine.page? key number ∧
        request.outcome.state.mapped? key number = request.machine.mapped? key number

variable {request : FrameRequest config} {frame : FrameNumber} {later : Machine config}
  {transition : Transition config}

/-- A frame that was acquired is there for a new page. -/
theorem grants_of_acquires (requesting : request.machine.Requesting request.subsystem request.source)
    (acquires : transition.Acquires request.subsystem frame)
    (leads : transition.Leads request.machine later) : request.Grants frame later := by
  have consistent := leads.consistent requesting.consistent
  have unmapped : ∀ key number entry, later.mapped? key number = some entry → entry.frame ≠ frame := by
    rintro key number entry mapped rfl
    obtain ⟨page, found, resident, _⟩ := consistent.fits.page_of_entry mapped
    exact consistent.tables.not_held consistent.nodup (acquires.awaits leads)
      ((frame?_of_found found).trans resident)
  cases acquires with
  | take =>
    cases leads with
    | take free =>
      refine ⟨?_, unmapped, .inl (by rw [free]; rfl)⟩
      rw [frameBytes_take, if_pos rfl]
  | evict home =>
    cases leads with
    | evict empty picked found resident =>
      have next := requesting.isNext_of_picked empty home (home ▸ picked) found resident
      refine ⟨?_, unmapped, .inr ⟨_, _, next⟩⟩
      rw [frameBytes_evicted, if_pos rfl]

/-- A frame is acquired at the cost of one page at most. -/
theorem spares_of_acquires (requesting : request.machine.Requesting request.subsystem request.source)
    (acquires : transition.Acquires request.subsystem frame)
    (leads : transition.Leads request.machine later) {key : SpaceKey} {number : PageNumber}
    (spared : ∀ page frame, request.IsNext key page frame → page.number ≠ number) :
    later.page? key number = request.machine.page? key number ∧
      later.mapped? key number = request.machine.mapped? key number := by
  cases acquires with
  | take =>
    cases leads with
    | take => exact ⟨by rw [page?_take], by rw [mapped?_take]⟩
  | @evict victim _ home =>
    cases leads with
    | @evict _ _ page _ _ _ _ empty picked found resident _ =>
      have next : request.IsNext victim page frame :=
        requesting.isNext_of_picked empty home (home ▸ picked) found resident
      have apart : ¬ (key = victim ∧ number = page.number) := by
        rintro ⟨rfl, rfl⟩
        exact spared page frame next rfl
      have spaceExists := isSome_of_page? found
      exact ⟨by rw [page?_evicted spaceExists, amend_of_ne apart],
        by rw [mapped?_evicted spaceExists, amend_of_ne apart]⟩

/-- A request that finds no frame has cost one page at most its mapping. -/
theorem spares_of_findsNoFrame {last : Machine config} {panic : Panic}
    (requesting : request.machine.Requesting request.subsystem request.source)
    (finds : request.machine.FindsNoFrame request.subsystem panic last) {key : SpaceKey}
    {number : PageNumber}
    (spared : ∀ page frame, request.IsNext key page frame → page.number ≠ number) :
    last.page? key number = request.machine.page? key number ∧
      last.mapped? key number = request.machine.mapped? key number := by
  cases finds with
  | exhausted => exact ⟨rfl, rfl⟩
  | @unstored victim page frame remaining _ environment empty home picked found resident =>
    have next : request.IsNext victim page frame :=
      requesting.isNext_of_picked empty home picked found resident
    have apart : ¬ (key = victim ∧ number = page.number) := by
      rintro ⟨rfl, rfl⟩
      exact spared page frame next rfl
    have pages : (request.machine.beforeStore victim page.number remaining).page? key number =
        request.machine.page? key number := by
      rw [page?_beforeStore]
    have mapped : (request.machine.beforeStore victim page.number remaining).mapped? key number =
        request.machine.mapped? key number := by
      rw [mapped?_beforeStore (isSome_of_page? found), amend_of_ne apart]
    exact ⟨pages, mapped⟩

/-- All requests are decided that are made while no frame is exempt from eviction but the one that is
being copied. -/
theorem isDecided (requesting : request.machine.Requesting request.subsystem request.source) :
    request.IsDecided := by
  have consistent := requesting.consistent
  have stops : ∀ panic, (∃ last, request.outcome = .panicked panic last) ↔ request.Shortage panic :=
    fun panic => (exists_congr fun last => KernelAction.acquireFrame_eq_panicked_iff consistent).trans
      requesting.findsNoFrame_iff
  obtain ⟨done, failed, _⟩ := Action.ends_iff.mp
    (KernelAction.acquireFrame_ends consistent request.subsystem request.held)
  refine ⟨stops, fun frame rest free => ?_, fun enough => ?_,
    fun _ _ _ _ _ _ next => next.unique consistent, fun key number spared => ?_⟩
  · exact ⟨_, KernelAction.acquireFrame_eq_take request.held free
      (not_mem_table_of_free consistent.nodup (free ▸ List.mem_cons_self) request.subsystem)⟩
  · cases ends : request.outcome with
    | done frame later =>
      obtain ⟨transition, acquires, leads⟩ := done frame later ends
      exact ⟨frame, later, rfl, grants_of_acquires requesting acquires leads⟩
    | failed error later => exact (failed error later ends).elim
    | panicked panic last => exact absurd ((stops panic).mp ⟨last, ends⟩) (enough panic)
  · cases ends : request.outcome with
    | done frame later =>
      obtain ⟨transition, acquires, leads⟩ := done frame later ends
      exact spares_of_acquires requesting acquires leads spared
    | failed error later => exact (failed error later ends).elim
    | panicked panic last =>
      exact spares_of_findsNoFrame requesting
        ((KernelAction.acquireFrame_eq_panicked_iff consistent).mp ends) spared

end FrameRequest

end DemandPaging
