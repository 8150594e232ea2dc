import Mathlib.Data.List.Nodup
import DemandPaging.Proofs.Consistency.Frames
import DemandPaging.Proofs.Consistency.Spaces

/-!
# The queues know who holds which frame

A queue gives a frame to a page exactly while that page holds the frame. Frames that wait for their
page, and frames that are pinned, may be in the queue as well.
-/

namespace DemandPaging

namespace FrameTable

variable {table remaining : FrameTable} {frame probe : FrameNumber} {owner other : FrameOwner}

/-- In a queue without duplicates a frame has one entry. -/
theorem entry_unique (nodup : table.frames.Nodup) {left right : FrameEntry}
    (leftIn : left ∈ table.queue) (rightIn : right ∈ table.queue)
    (same : left.frame = right.frame) : left = right :=
  List.inj_on_of_nodup_map nodup leftIn rightIn same

/-- A frame belongs to one page. -/
theorem Assigns.unique (nodup : table.frames.Nodup) (first : table.Assigns frame owner)
    (second : table.Assigns frame other) : owner = other := by
  obtain ⟨left, leftIn, leftFrame, leftOwner⟩ := first
  obtain ⟨right, rightIn, rightFrame, rightOwner⟩ := second
  cases entry_unique nodup leftIn rightIn (leftFrame.trans rightFrame.symm)
  rw [leftOwner] at rightOwner
  cases rightOwner
  rfl

/-- A frame that waits for its page belongs to none. -/
theorem Awaits.not_assigns (nodup : table.frames.Nodup) (awaits : table.Awaits frame) :
    ¬ table.Assigns frame owner := by
  rintro ⟨entry, member, here, owned⟩
  cases entry_unique nodup member awaits here
  cases owned

/-- Taking one entry out of a queue takes its frame out. -/
theorem mem_without (nodup : table.frames.Nodup) {before after : List FrameEntry}
    {victim : FrameEntry} (parts : table.queue = before ++ victim :: after) (entry : FrameEntry) :
    entry ∈ before ++ after ↔ entry ∈ table.queue ∧ entry.frame ≠ victim.frame := by
  have perm : (table.queue.map FrameEntry.frame).Perm
      (victim.frame :: (before ++ after).map FrameEntry.frame) := by
    rw [parts, List.map_append, List.map_append, List.map_cons]
    exact List.perm_middle
  have fresh := (List.nodup_cons.mp (perm.nodup_iff.mp nodup)).1
  rw [parts]
  constructor
  · intro member
    refine ⟨?_, fun same => fresh (List.mem_map.mpr ⟨entry, member, same⟩)⟩
    rcases List.mem_append.mp member with left | right
    · exact List.mem_append_left _ left
    · exact List.mem_append_right _ (List.mem_cons_of_mem _ right)
  · rintro ⟨member, different⟩
    rcases List.mem_append.mp member with left | right
    · exact List.mem_append_left _ left
    · rcases List.mem_cons.mp right with rfl | right
      · exact absurd rfl different
      · exact List.mem_append_right _ right

/-- Removing a frame leaves the other entries in the queue. -/
theorem mem_remove (nodup : table.frames.Nodup) (entry : FrameEntry) :
    entry ∈ (table.remove frame).queue ↔ entry ∈ table.queue ∧ entry.frame ≠ frame := by
  unfold remove
  by_cases present : ∃ victim ∈ table.queue, victim.frame = frame
  · obtain ⟨victim, member, rfl⟩ := present
    obtain ⟨first, before, after, _, chosen, parts, erased⟩ :=
      List.exists_of_eraseP (p := fun entry => entry.frame == victim.frame) member (by simp)
    rw [erased, mem_without nodup parts, eq_of_beq chosen]
  · have kept : table.queue.eraseP (fun entry => entry.frame == frame) = table.queue := by
      refine List.eraseP_of_forall_not fun entry member same => present ?_
      exact ⟨entry, member, eq_of_beq same⟩
    rw [kept]
    exact ⟨fun member => ⟨member, fun same => present ⟨entry, member, same⟩⟩, And.left⟩

/-- Picking a victim leaves the other entries in the queue. -/
theorem mem_pickVictim (nodup : table.frames.Nodup) {victim : FrameEntry}
    (picked : table.pickVictim = some (victim, remaining)) (entry : FrameEntry) :
    entry ∈ remaining.queue ↔ entry ∈ table.queue ∧ entry.frame ≠ victim.frame := by
  obtain ⟨_, before, after, parts, rest⟩ := pickVictim_eq_some picked
  rw [rest]
  exact mem_without nodup parts entry

/-! ## Whom the frames belong to after each change of a queue -/

/-- A frame that waits at the end of the queue belongs to no page yet. -/
theorem assigns_push : (table.push frame).Assigns probe owner ↔ table.Assigns probe owner := by
  unfold push Assigns
  constructor
  · rintro ⟨entry, member, here, owned⟩
    rcases List.mem_append.mp member with old | new
    · exact ⟨entry, old, here, owned⟩
    · cases List.mem_singleton.mp new
      cases owned
  · rintro ⟨entry, member, here, owned⟩
    exact ⟨entry, List.mem_append_left _ member, here, owned⟩

theorem assigns_countEviction :
    table.countEviction.Assigns probe owner ↔ table.Assigns probe owner := Iff.rfl

/-- Removing a frame ends what it was assigned to, and nothing else. -/
theorem assigns_remove (nodup : table.frames.Nodup) :
    (table.remove frame).Assigns probe owner ↔ table.Assigns probe owner ∧ probe ≠ frame := by
  constructor
  · rintro ⟨entry, member, rfl, owned⟩
    obtain ⟨old, different⟩ := (mem_remove nodup entry).mp member
    exact ⟨⟨entry, old, rfl, owned⟩, different⟩
  · rintro ⟨⟨entry, member, rfl, owned⟩, different⟩
    exact ⟨entry, (mem_remove nodup entry).mpr ⟨member, different⟩, rfl, owned⟩

/-- Picking a victim ends what its frame was assigned to, and nothing else. -/
theorem assigns_pickVictim (nodup : table.frames.Nodup) {victim : FrameEntry}
    (picked : table.pickVictim = some (victim, remaining)) :
    remaining.Assigns probe owner ↔ table.Assigns probe owner ∧ probe ≠ victim.frame := by
  constructor
  · rintro ⟨entry, member, rfl, owned⟩
    obtain ⟨old, different⟩ := (mem_pickVictim nodup picked entry).mp member
    exact ⟨⟨entry, old, rfl, owned⟩, different⟩
  · rintro ⟨⟨entry, member, rfl, owned⟩, different⟩
    exact ⟨entry, (mem_pickVictim nodup picked entry).mpr ⟨member, different⟩, rfl, owned⟩

/-- Exempting a frame from eviction does not change its owner. -/
theorem assigns_setPinned {pinned : Bool} :
    (table.setPinned frame pinned).Assigns probe owner ↔ table.Assigns probe owner := by
  unfold setPinned update Assigns
  constructor
  · rintro ⟨entry, member, here, owned⟩
    obtain ⟨old, oldIn, rfl⟩ := List.mem_map.mp member
    refine ⟨old, oldIn, ?_⟩
    split at here <;> split at owned <;> exact ⟨here, owned⟩
  · rintro ⟨entry, member, here, owned⟩
    refine ⟨_, List.mem_map.mpr ⟨entry, member, rfl⟩, ?_⟩
    split <;> exact ⟨here, owned⟩

/-- Pinning a frame pins its entry. -/
theorem pinned_setPinned {entry : FrameEntry} (member : entry ∈ (table.setPinned frame true).queue)
    (here : entry.frame = frame) : entry.pinned = true := by
  obtain ⟨old, _, rfl⟩ := List.mem_map.mp member
  split at here
  · next same => rw [if_pos same]
  · next different => exact absurd here different

/-- A frame waits for its page whether others are exempt from eviction or not. -/
theorem Awaits.setPinned_false (awaits : table.Awaits frame) :
    (table.setPinned probe false).Awaits frame := by
  refine List.mem_map.mpr ⟨_, awaits, ?_⟩
  split <;> rfl

/-- A waiting frame that is assigned belongs to its page from then on. -/
theorem assigns_assign (nodup : table.frames.Nodup) (awaits : table.Awaits frame) :
    (table.assign frame owner).Assigns probe other ↔
      probe = frame ∧ other = owner ∨ table.Assigns probe other := by
  unfold assign update Assigns
  constructor
  · rintro ⟨entry, member, rfl, owned⟩
    obtain ⟨old, oldIn, rfl⟩ := List.mem_map.mp member
    split at owned
    · next here =>
      cases owned
      exact .inl ⟨by rw [if_pos here]; exact here, rfl⟩
    · next elsewhere =>
      rw [if_neg elsewhere]
      exact .inr ⟨old, oldIn, rfl, owned⟩
  · rintro (⟨rfl, rfl⟩ | ⟨entry, member, rfl, owned⟩)
    · refine ⟨_, List.mem_map.mpr ⟨_, awaits, rfl⟩, ?_⟩
      simp
    · have elsewhere : entry.frame ≠ frame := by
        intro same
        cases entry_unique nodup member awaits same
        cases owned
      refine ⟨_, List.mem_map.mpr ⟨entry, member, rfl⟩, ?_⟩
      rw [if_neg elsewhere]
      exact ⟨rfl, owned⟩

end FrameTable

namespace Machine

variable {config : Config} {machine next : Machine config} {key : SpaceKey} {number : PageNumber}

/-- Each queue gives a frame to a page exactly while the page holds the frame. -/
def TablesAgree (machine : Machine config) : Prop :=
  ∀ subsystem frame owner, (machine.table subsystem).Assigns frame owner ↔
    machine.frame? ⟨subsystem, owner.space⟩ owner.page = some frame

/-- The frames that pages hold, after a change of one page. -/
theorem frame?_of_page? {page : Option (Page config)}
    (pages : next.page? = amend machine.page? key number page) :
    next.frame? = amend machine.frame? key number (page.bind Page.frame) := by
  funext probe other
  rw [frame?, pages]
  unfold amend
  split <;> rfl

theorem frame?_congr (pages : next.page? = machine.page?) : next.frame? = machine.frame? := by
  funext probe other
  rw [frame?, frame?, pages]

/-- The frame of a page is read from the page. -/
theorem frame?_of_found {page : Page config} (found : machine.page? key number = some page) :
    machine.frame? key number = page.frame := by
  rw [frame?, found]
  rfl

namespace TablesAgree

/-- The frame that a page holds is in the queue of its subsystem. -/
theorem tracked (agree : machine.TablesAgree) {frame : FrameNumber}
    (holds : machine.frame? key number = some frame) :
    frame ∈ (machine.table key.subsystem).frames :=
  ((agree key.subsystem frame ⟨key.id, number⟩).mpr holds).mem_frames

/-- No two pages hold the same frame. -/
theorem holder_unique (agree : machine.TablesAgree) (nodup : machine.frames.Nodup)
    {key' : SpaceKey} {number' : PageNumber} {frame : FrameNumber}
    (holds : machine.frame? key number = some frame)
    (holds' : machine.frame? key' number' = some frame) : key = key' ∧ number = number' := by
  have subsystems := subsystem_eq_of_mem nodup (agree.tracked holds) (agree.tracked holds')
  obtain ⟨subsystem, id⟩ := key
  obtain ⟨subsystem', id'⟩ := key'
  simp only at subsystems
  subst subsystems
  have left := (agree subsystem frame ⟨id, number⟩).mpr holds
  have right := (agree subsystem frame ⟨id', number'⟩).mpr holds'
  cases left.unique (nodup_table nodup subsystem) right
  exact ⟨rfl, rfl⟩

/-- A waiting frame is held by no page. -/
theorem not_held (agree : machine.TablesAgree) (nodup : machine.frames.Nodup)
    {subsystem : Subsystem} {frame : FrameNumber}
    (awaits : (machine.table subsystem).Awaits frame) :
    machine.frame? key number ≠ some frame := by
  intro holds
  have same := subsystem_eq_of_mem nodup awaits.mem_frames (agree.tracked holds)
  subst same
  exact awaits.not_assigns (nodup_table nodup _)
    ((agree key.subsystem frame ⟨key.id, number⟩).mpr holds)

/-- Tables and pages agree as long as neither the frames of pages nor the owners of frames change.
-/
theorem congr (agree : machine.TablesAgree) (frames : next.frame? = machine.frame?)
    (assigns : ∀ subsystem frame owner, (next.table subsystem).Assigns frame owner ↔
      (machine.table subsystem).Assigns frame owner) : next.TablesAgree := by
  intro subsystem frame owner
  rw [assigns, frames]
  exact agree subsystem frame owner

/-- A page gets a frame. -/
theorem assign (agree : machine.TablesAgree) (vacant : machine.frame? key number = none)
    {frame : FrameNumber}
    (frames : next.frame? = amend machine.frame? key number (some frame))
    (assigns : ∀ subsystem probe owner, (next.table subsystem).Assigns probe owner ↔
      subsystem = key.subsystem ∧ probe = frame ∧ owner = ⟨key.id, number⟩ ∨
        (machine.table subsystem).Assigns probe owner) : next.TablesAgree := by
  intro subsystem probe owner
  obtain ⟨space, page⟩ := owner
  obtain ⟨home, id⟩ := key
  rw [assigns, agree, frames]
  unfold amend
  by_cases here : (⟨subsystem, space⟩ : SpaceKey) = ⟨home, id⟩ ∧ page = number
  · obtain ⟨sameKey, rfl⟩ := here
    cases sameKey
    simp [vacant, eq_comm]
  · rw [if_neg here]
    have elsewhere : ¬(subsystem = home ∧ probe = frame ∧
        (⟨space, page⟩ : FrameOwner) = ⟨id, number⟩) := by
      rintro ⟨rfl, _, same⟩
      cases same
      exact here ⟨rfl, rfl⟩
    simp only [elsewhere, false_or]

/-- A page loses its frame. -/
theorem unassign (agree : machine.TablesAgree) (nodup : machine.frames.Nodup)
    {frame : FrameNumber} (holds : machine.frame? key number = some frame)
    (frames : next.frame? = amend machine.frame? key number none)
    (assigns : ∀ subsystem probe owner, (next.table subsystem).Assigns probe owner ↔
      (machine.table subsystem).Assigns probe owner ∧
        (subsystem = key.subsystem → probe ≠ frame)) : next.TablesAgree := by
  intro subsystem probe owner
  obtain ⟨space, page⟩ := owner
  rw [assigns, agree, frames]
  unfold amend
  by_cases here : (⟨subsystem, space⟩ : SpaceKey) = key ∧ page = number
  · rw [if_pos here]
    obtain ⟨rfl, rfl⟩ := here
    constructor
    · rintro ⟨held, different⟩
      rw [holds] at held
      cases held
      exact absurd rfl (different rfl)
    · exact nofun
  · rw [if_neg here]
    refine ⟨And.left, fun held => ⟨held, fun _ same => here ?_⟩⟩
    rw [same] at held
    exact agree.holder_unique nodup held holds

end TablesAgree

end Machine

namespace Transition

open Machine

variable {config : Config} {transition : Transition config} {machine next : Machine config}

/-- Queues and pages agree after every transition if they did before. -/
theorem Leads.tablesAgree (leads : transition.Leads machine next) (agree : machine.TablesAgree)
    (nodup : machine.frames.Nodup) (fits : machine.Fits) (unissued : machine.Unissued) :
    next.TablesAgree := by
  cases leads with
  | note | setFile | createFile | listInitializer | setSwapFaults | lend | reclaim | spoil =>
    exact agree.congr rfl fun _ _ _ => Iff.rfl
  | take =>
    refine agree.congr (frame?_congr page?_take) fun subsystem frame owner => ?_
    rw [table_take]
    split
    · exact FrameTable.assigns_push
    · exact Iff.rfl
  | release awaits =>
    refine agree.congr (frame?_congr page?_release) fun subsystem frame owner => ?_
    rw [table_release]
    split
    · next same =>
      subst same
      -- The frame that is released was waiting, so nobody loses it.
      rw [FrameTable.assigns_remove (nodup_table nodup _)]
      refine ⟨And.left, fun assigns => ⟨assigns, fun same => ?_⟩⟩
      subst same
      exact awaits.not_assigns (nodup_table nodup _) assigns
    · exact Iff.rfl
  | pin =>
    refine agree.congr (frame?_congr (page?_updateTable ..)) fun subsystem frame owner => ?_
    rw [table_updateTable_eq]
    split
    · exact FrameTable.assigns_setPinned
    · exact Iff.rfl
  | @evict _ key page frame remaining kind environment _ picked found resident =>
    have holds := (frame?_of_found found).trans resident
    refine agree.unassign nodup holds (frame?_of_page? (page?_evicted (isSome_of_page? found)))
      fun subsystem probe owner => ?_
    rw [table_evicted]
    split
    · next same =>
      subst same
      rw [FrameTable.assigns_push, FrameTable.assigns_countEviction,
        FrameTable.assigns_pickVictim (nodup_table nodup _) picked]
      simp
    · next different => simp [different]
  | @load _ key page frame kind window found absent awaits =>
    have vacant := (frame?_of_found found).trans absent
    refine agree.assign vacant (frame?_of_page? (page?_settleLoaded (isSome_of_page? found)))
      fun subsystem probe owner => ?_
    rw [table_settleLoaded]
    split
    · next same =>
      subst same
      rw [FrameTable.assigns_assign (nodup_table nodup _) awaits]
      simp
    · next different => simp [different]
  | @copy _ child parent page frame bytes dirty _ found awaits =>
    have vacant : machine.frame? child page.number = none := frame?_of_found found
    refine agree.assign vacant (frame?_of_page? (page?_settleCopy (isSome_of_page? found)))
      fun subsystem probe owner => ?_
    rw [table_settleCopy]
    split
    · next same =>
      subst same
      rw [FrameTable.assigns_assign (nodup_table nodup _) awaits]
      simp [Page.forked]
    · next different => simp [different]
  | @register _ key page vacant absent _ spaceExists =>
    refine agree.congr ?_ fun _ _ _ => Iff.rfl
    rw [frame?_of_page? (page?_setPage spaceExists page)]
    exact amend_eq (by rw [frame?, vacant]; exact absent.symm)
  | @unregister _ key page target initializer found unloaded =>
    refine agree.congr ?_ fun _ _ _ => Iff.rfl
    rw [frame?_of_page? (page?_dropPage (isSome_of_page? found))]
    refine amend_eq ((frame?_of_found found).trans (fits.absent_of_not_isLoaded found ?_))
    rw [unloaded]
    exact PageKind.not_isLoaded_unloaded
  | @discard _ key page environment found absent =>
    refine agree.congr ?_ fun _ _ _ => Iff.rfl
    have dropped := frame?_of_page? (@page?_endAbsent _ machine key page.number environment
      (isSome_of_page? found))
    exact dropped.trans (amend_eq ((frame?_of_found found).trans absent))
  | @discardResident _ key page frame result environment found resident =>
    have holds := (frame?_of_found found).trans resident
    refine agree.unassign nodup holds (frame?_of_page? (page?_endResident (isSome_of_page? found)))
      fun subsystem probe owner => ?_
    rw [table_endResident]
    split
    · next same =>
      subst same
      rw [FrameTable.assigns_remove (nodup_table nodup _)]
      simp
    · next different => simp [different]
  | store => exact agree.congr (frame?_congr page?_markDirty) fun _ _ _ => Iff.rfl
  | set isSetting =>
    refine agree.congr (frame?_congr (page?_updateSpace_of_same fun space => ?_))
      fun _ _ _ => Iff.rfl
    rw [isSetting space]
  | create =>
    refine agree.congr (frame?_congr (page?_addSpace (unissued.vacant _))) fun other frame owner => ?_
    unfold FrameTable.Assigns
    rw [queue_addSpace]
  | forget empty => exact agree.congr (frame?_congr (page?_erase empty)) fun _ _ _ => Iff.rfl

end Transition

end DemandPaging
