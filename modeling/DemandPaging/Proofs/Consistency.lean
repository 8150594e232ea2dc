import DemandPaging.Proofs.Consistency.Names
import DemandPaging.Proofs.Consistency.Tables

/-!
# Consistent machines

`Machine.Consistent` gathers what holds of a machine between any two transitions: no frame is in two
places, page maps and page tables fit together, queues and pages agree on who holds which frame,
slots belong to one page each, and files and initializers are named in order. `Machine.Pending` says
which frames an operation has in hand; between operations there are none.
-/

namespace DemandPaging

variable {config : Config}

namespace Machine

variable {machine next : Machine config}

/-- What holds of a machine between transitions. -/
structure Consistent (machine : Machine config) : Prop where
  nodup : machine.frames.Nodup
  fits : machine.Fits
  known : machine.SpacesKnown
  tables : machine.TablesAgree
  slots : machine.SlotsAgree
  names : machine.environment.NamesInOrder
  named : machine.InitializersNamed

/-- Only the given frames wait for their pages, and only the given ones are pinned. -/
def Pending (machine : Machine config) (waiting pinned : List FrameNumber) : Prop :=
  ∀ subsystem, ∀ entry ∈ (machine.table subsystem).queue,
    (entry.owner = none → entry.frame ∈ waiting) ∧ (entry.pinned = true → entry.frame ∈ pinned)

/-- A machine between two operations: consistent, and no frame is in hand. -/
structure AtRest (machine : Machine config) : Prop where
  consistent : machine.Consistent
  idle : machine.Pending [] []

/-- More frames may be said to wait, or to be exempt from eviction. -/
theorem Pending.mono {waiting pinned waiting' pinned' : List FrameNumber}
    (pending : machine.Pending waiting pinned) (fewer : ∀ frame ∈ waiting, frame ∈ waiting')
    (fewer' : ∀ frame ∈ pinned, frame ∈ pinned') : machine.Pending waiting' pinned' :=
  fun subsystem entry member =>
    ⟨fun unowned => fewer _ ((pending subsystem entry member).1 unowned),
      fun isPinned => fewer' _ ((pending subsystem entry member).2 isPinned)⟩

/-- Every space of a consistent machine is registered. -/
theorem Consistent.registered (consistent : machine.Consistent) {key : SpaceKey}
    (found : (machine.spaces.get? key).isSome) : (machine.space key).registered = true := by
  obtain ⟨space, present⟩ := Option.isSome_iff_exists.mp found
  have known := (consistent.known key space.registered (by rw [registration, present]; rfl)).1
  rw [space_eq_of_get? present]
  exact known

/-- An entry of a queue that has an owner stands for a resident page. -/
theorem Consistent.owned (consistent : machine.Consistent) {subsystem : Subsystem}
    {entry : FrameEntry} (member : entry ∈ (machine.table subsystem).queue) {owner : FrameOwner}
    (owned : entry.owner = some owner) :
    ∃ page, machine.page? ⟨subsystem, owner.space⟩ owner.page = some page ∧
      page.frame = some entry.frame :=
  Option.bind_eq_some_iff.mp
    ((consistent.tables subsystem entry.frame owner).mp ⟨entry, member, rfl, owned⟩)

/-- The victim is the frame of a resident page. -/
theorem Consistent.holder_of_picked (consistent : machine.Consistent) {subsystem : Subsystem}
    {victim : FrameEntry} {remaining : FrameTable}
    (picked : (machine.table subsystem).pickVictim = some (victim, remaining)) :
    ∃ space page, victim = { frame := victim.frame, owner := some ⟨space, page.number⟩ } ∧
      machine.page? ⟨subsystem, space⟩ page.number = some page ∧ page.frame = some victim.frame := by
  obtain ⟨frame, owner, pinned⟩ := victim
  obtain ⟨evictable, before, after, parts, _⟩ := FrameTable.pickVictim_eq_some picked
  simp only [FrameEntry.isEvictable, Bool.and_eq_true, Bool.not_eq_true'] at evictable
  obtain ⟨isOwned, rfl⟩ := evictable
  obtain ⟨⟨space, number⟩, rfl⟩ := Option.isSome_iff_exists.mp isOwned
  obtain ⟨page, found, resident⟩ := consistent.owned
    (parts ▸ List.mem_append_right _ List.mem_cons_self) rfl
  cases consistent.fits.number_eq found
  exact ⟨space, page, rfl, found, resident⟩

/-- A machine that was just started is consistent, and all its frames are free. -/
theorem boot_consistent (config : Config) (frames slots : Nat) :
    (boot config frames slots).Consistent where
  nodup := by
    have distinct : ((List.range frames).map FrameNumber.mk).Nodup :=
      List.nodup_range.map fun _ _ same => FrameNumber.mk.inj same
    simpa [Machine.frames, boot, FramePool.ofSize, FrameTable.frames, OrderedMap.keys,
      OrderedMap.empty] using distinct
  fits := fun _ _ => .vacant
  known := by
    intro _ _ known
    cases known
  tables subsystem frame owner := by
    constructor
    · rintro ⟨_, member, _⟩
      cases subsystem <;> exact (List.not_mem_nil member).elim
    · rintro ⟨⟩
  slots := by
    refine ⟨fun _ stored => ?_, fun holds => ?_, fun holds _ => ?_⟩
    · cases stored
    · cases holds
    · cases holds
  names := by
    constructor <;>
    · intro _ listed
      cases listed
  named := by
    intro _ _ _ _ found
    cases found

/-- At the start no frame waits and none is exempt from eviction. -/
theorem boot_pending (config : Config) (frames slots : Nat) :
    (boot config frames slots).Pending [] [] := by
  intro subsystem entry member
  cases subsystem <;> exact (List.not_mem_nil member).elim

end Machine

namespace Transition

open Machine

variable {transition : Transition config} {machine next : Machine config}

/-- Transitions lead from consistent machines to consistent machines. -/
theorem Leads.consistent (leads : transition.Leads machine next)
    (consistent : machine.Consistent) : next.Consistent where
  nodup := (leads.frames_perm consistent.nodup fun _ _ _ => consistent.tables.tracked).nodup_iff.mpr
    consistent.nodup
  fits := leads.fits consistent.fits consistent.known.unissued
  known := leads.spacesKnown consistent.known
  tables := leads.tablesAgree consistent.tables consistent.nodup consistent.fits
    consistent.known.unissued
  slots := leads.slotsAgree consistent.slots consistent.fits consistent.known.unissued
  names := leads.namesInOrder consistent.fits consistent.slots consistent.names
  named := leads.initializersNamed consistent.fits consistent.slots consistent.known.unissued
    consistent.named

/-- The waiting frames after a transition. -/
def waitingAfter (waiting : List FrameNumber) : Transition config → List FrameNumber
  | .take _ frame | .evict _ _ frame => frame :: waiting
  | .load _ _ frame | .copy _ _ _ frame | .release _ frame => waiting.filter (· ≠ frame)
  | _ => waiting

/-- The pinned frames after a transition. -/
def pinnedAfter (pinned : List FrameNumber) : Transition config → List FrameNumber
  | .pin _ frame true => frame :: pinned
  | .pin _ frame false => pinned.filter (· ≠ frame)
  | _ => pinned

/-- A frame in one queue is not the frame of an entry in the other. -/
theorem frame_ne_of_ne (nodup : machine.frames.Nodup) {subsystem other : Subsystem}
    (different : subsystem ≠ other) {entry : FrameEntry}
    (member : entry ∈ (machine.table subsystem).queue) {frame : FrameNumber}
    (tracked : frame ∈ (machine.table other).frames) : entry.frame ≠ frame := by
  rintro rfl
  exact different (subsystem_eq_of_mem nodup (List.mem_map.mpr ⟨entry, member, rfl⟩) tracked)

/-- Every transition accounts for the frames that it takes in hand and for those that it lets go. -/
theorem Leads.pending (leads : transition.Leads machine next) (consistent : machine.Consistent)
    {waiting pinned : List FrameNumber} (pending : machine.Pending waiting pinned) :
    next.Pending (transition.waitingAfter waiting) (transition.pinnedAfter pinned) := by
  intro subsystem entry member
  have nodup := consistent.nodup
  -- An entry of the new queue was in the old one, unless its frame has just been put there. The three
  -- facts say what its frame is accounted for by when a frame is added to those in hand, taken from
  -- them, or taken from them and assigned.
  have more : ∀ frame, entry ∈ (machine.table subsystem).queue →
      (entry.owner = none → entry.frame ∈ frame :: waiting) ∧
        (entry.pinned = true → entry.frame ∈ pinned) := fun frame old =>
    ⟨fun unowned => List.mem_cons_of_mem _ ((pending _ entry old).1 unowned),
      (pending _ entry old).2⟩
  have other : ∀ frame, entry ∈ (machine.table subsystem).queue → entry.frame ≠ frame →
      (entry.owner = none → entry.frame ∈ waiting.filter (· ≠ frame)) ∧
        (entry.pinned = true → entry.frame ∈ pinned) := fun frame old different =>
    ⟨fun unowned => List.mem_filter.mpr ⟨(pending _ entry old).1 unowned, by simpa using different⟩,
      (pending _ entry old).2⟩
  have assigned : ∀ {frame : FrameNumber} {owner : FrameOwner},
      entry ∈ ((machine.table subsystem).assign frame owner).queue →
      (entry.owner = none → entry.frame ∈ waiting.filter (· ≠ frame)) ∧
        (entry.pinned = true → entry.frame ∈ pinned) := by
    intro frame owner changed
    obtain ⟨old, oldIn, rfl⟩ := List.mem_map.mp changed
    split
    · exact ⟨nofun, (pending _ old oldIn).2⟩
    · next different =>
      exact ⟨fun unowned => List.mem_filter.mpr
        ⟨(pending _ old oldIn).1 unowned, by simpa using different⟩, (pending _ old oldIn).2⟩
  cases leads with
  | note | setFile | createFile | listInitializer | setSwapFaults | lend | reclaim | spoil
  | register | unregister | discard | store | set | forget =>
    exact pending subsystem entry member
  | take =>
    rw [table_take] at member
    split at member
    · rcases List.mem_append.mp member with old | new
      · exact more _ old
      · cases List.mem_singleton.mp new
        exact ⟨fun _ => List.mem_cons_self, nofun⟩
    · exact more _ member
  | @evict _ key page frame remaining _ _ _ picked =>
    rw [table_evicted] at member
    split at member
    · next same =>
      subst same
      rcases List.mem_append.mp member with old | new
      · exact more _ ((FrameTable.mem_pickVictim (nodup_table nodup _) picked entry).mp old).1
      · cases List.mem_singleton.mp new
        exact ⟨fun _ => List.mem_cons_self, nofun⟩
    · exact more _ member
  | load _ _ awaits =>
    rw [table_settleLoaded] at member
    split at member
    · exact assigned member
    · next different =>
      exact other _ member (frame_ne_of_ne nodup different member awaits.mem_frames)
  | copy _ _ awaits =>
    rw [table_settleCopy] at member
    split at member
    · exact assigned member
    · next different =>
      exact other _ member (frame_ne_of_ne nodup different member awaits.mem_frames)
  | release awaits =>
    rw [table_release] at member
    split at member
    · have kept := (FrameTable.mem_remove (nodup_table nodup _) entry).mp member
      exact other _ kept.1 kept.2
    · next different =>
      exact other _ member (frame_ne_of_ne nodup different member awaits.mem_frames)
  | discardResident =>
    rw [table_endResident] at member
    split at member
    · exact pending _ entry ((FrameTable.mem_remove (nodup_table nodup _) entry).mp member).1
    · exact pending _ entry member
  | create =>
    rw [queue_addSpace] at member
    exact pending _ entry member
  | @pin _ _ frame pinning tracked =>
    rw [table_updateTable_eq] at member
    split at member
    · obtain ⟨old, oldIn, rfl⟩ := List.mem_map.mp member
      have before := pending _ old oldIn
      split
      · next same =>
        refine ⟨before.1, fun isPinned => ?_⟩
        cases pinning with
        | true => exact List.mem_cons.mpr (.inl same)
        | false => cases isPinned
      · next different =>
        refine ⟨before.1, fun isPinned => ?_⟩
        cases pinning with
        | true => exact List.mem_cons_of_mem _ (before.2 isPinned)
        | false => exact List.mem_filter.mpr ⟨before.2 isPinned, by simpa using different⟩
    · next elsewhere =>
      have different := frame_ne_of_ne nodup elsewhere member tracked
      refine ⟨(pending _ entry member).1, fun isPinned => ?_⟩
      have old := (pending _ entry member).2 isPinned
      cases pinning with
      | true => exact List.mem_cons_of_mem _ old
      | false => exact List.mem_filter.mpr ⟨old, by simpa using different⟩

/-- The frames stay the same, wherever they are. -/
theorem Leads.frames_conserved (leads : transition.Leads machine next)
    (consistent : machine.Consistent) : next.frames.Perm machine.frames :=
  leads.frames_perm consistent.nodup fun _ _ _ => consistent.tables.tracked

end Transition

namespace Path

variable {permits : Machine config → Transition config → Prop} {start last : Machine config}

/-- Every way keeps a machine consistent, for each of its transitions does. -/
theorem consistent (path : Path permits start last) (consistent : start.Consistent) :
    last.Consistent :=
  path.preserves consistent fun _ _ _ before _ leads => leads.consistent before

/-- No way gains or loses a frame. -/
theorem frames_conserved (path : Path permits start last) (consistent : start.Consistent) :
    last.frames.Perm start.frames := by
  induction path with
  | refl => exact .refl _
  | step prior leads _ inductionHypothesis =>
    exact (leads.frames_conserved (prior.consistent consistent)).trans
      inductionHypothesis

end Path

end DemandPaging
