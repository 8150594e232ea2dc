import DemandPaging.Proofs.TransitionViews

/-!
# Frames are conserved

Every frame is free, in the queue of one subsystem, or in the hands of outsiders.
`Machine.frames` lists them all, and `Transition.Leads.frames_perm` says that a transition only
moves frames from one of these places to another.
-/

namespace DemandPaging

namespace FrameTable

variable {table remaining : FrameTable} {frame : FrameNumber} {victim : FrameEntry}

@[simp] theorem frames_push : (table.push frame).frames = table.frames ++ [frame] := by
  simp [push, frames]

/-- Changing an entry other than in its frame leaves the queue of frames as it was. -/
theorem frames_update {change : FrameEntry → FrameEntry}
    (keeps : ∀ entry, (change entry).frame = entry.frame) :
    (table.update frame change).frames = table.frames := by
  simp only [update, frames, List.map_map]
  refine List.map_congr_left fun entry _ => ?_
  simp only [Function.comp_apply]
  split
  · exact keeps entry
  · rfl

@[simp] theorem frames_assign (owner : FrameOwner) :
    (table.assign frame owner).frames = table.frames :=
  frames_update fun _ => rfl

@[simp] theorem frames_setPinned (pinned : Bool) :
    (table.setPinned frame pinned).frames = table.frames :=
  frames_update fun _ => rfl

@[simp] theorem frames_countEviction : table.countEviction.frames = table.frames := rfl

/-- Removing a frame takes it out of the queue. -/
theorem frames_remove : (table.remove frame).frames = table.frames.erase frame := by
  simp only [remove, frames]
  induction table.queue with
  | nil => rfl
  | cons entry rest inductionHypothesis =>
    by_cases same : entry.frame = frame
    · simp [same]
    · simp [same, inductionHypothesis]

/-- The victim may be evicted, and what remains is the queue without it. -/
theorem pickVictim_eq_some (picked : table.pickVictim = some (victim, remaining)) :
    victim.isEvictable = true ∧ ∃ before after,
      table.queue = before ++ victim :: after ∧ remaining.queue = before ++ after := by
  unfold pickVictim at picked
  obtain ⟨found, search, same⟩ := Option.map_eq_some_iff.mp picked
  cases same
  have evictable := List.find?_some search
  obtain ⟨entry, before, after, blocked, chosen, parts, erased⟩ :=
    List.exists_of_eraseP (List.mem_of_find?_eq_some search) evictable
  have sameEntry : entry = victim := by
    rw [parts, List.find?_append, List.find?_eq_none.mpr (by simpa using blocked)] at search
    simpa [chosen] using search
  subst sameEntry
  exact ⟨evictable, before, after, parts, erased⟩

/-- The victim and the remaining queue are the queue. -/
theorem frames_pickVictim (picked : table.pickVictim = some (victim, remaining)) :
    (victim.frame :: remaining.frames).Perm table.frames := by
  obtain ⟨_, before, after, parts, rest⟩ := pickVictim_eq_some picked
  simp only [frames, parts, rest, List.map_append, List.map_cons]
  exact List.perm_middle.symm

end FrameTable

namespace Machine

variable {config : Config} (machine : Machine config)

/-- All frames, wherever they are: the free ones, those in the two queues, and those in the hands of
outsiders. -/
def frames : List FrameNumber :=
  machine.pool.free ++ (machine.mainTable.frames ++ machine.alternateTable.frames) ++
    machine.pool.outside.keys

/-- A frame is counted in the pool, in the queues, and in the hands of outsiders. -/
theorem count_frames (frame : FrameNumber) :
    machine.frames.count frame =
      machine.pool.free.count frame +
        (machine.mainTable.frames.count frame + machine.alternateTable.frames.count frame) +
          machine.pool.outside.keys.count frame := by
  simp only [frames, List.count_append]

/-- Changing the queue of one subsystem changes the frames by what that queue gains and loses. -/
theorem count_frames_updateTable (subsystem : Subsystem) (update : FrameTable → FrameTable)
    (frame : FrameNumber) :
    (machine.updateTable subsystem update).frames.count frame +
        (machine.table subsystem).frames.count frame =
      machine.frames.count frame +
        (update (machine.table subsystem)).frames.count frame := by
  cases subsystem <;>
    simp only [count_frames, updateTable, setTable, table] <;> omega

/-- Changing the pool changes the frames by what the pool gains and loses. -/
theorem count_frames_pool (pool : FramePool) (frame : FrameNumber) :
    { machine with pool := pool }.frames.count frame +
        (machine.pool.free.count frame + machine.pool.outside.keys.count frame) =
      machine.frames.count frame + (pool.free.count frame + pool.outside.keys.count frame) := by
  simp only [count_frames]
  omega

variable {machine}

/-- Frames are the same where pool and queues are. -/
theorem frames_congr {later : Machine config} (pool : later.pool = machine.pool)
    (table : later.table = machine.table) : later.frames = machine.frames := by
  have main := congrFun table .main
  have alternate := congrFun table .alternate
  simp only [Machine.table] at main alternate
  simp only [frames, pool, main, alternate]

/-- A change of a table that keeps its frames keeps all frames. -/
theorem frames_updateTable {subsystem : Subsystem} {update : FrameTable → FrameTable}
    (keeps : (update (machine.table subsystem)).frames = (machine.table subsystem).frames) :
    (machine.updateTable subsystem update).frames.Perm machine.frames := by
  refine List.perm_iff_count.mpr fun frame => ?_
  have counted := machine.count_frames_updateTable subsystem update frame
  rw [keeps] at counted
  omega

/-- A frame in a queue is one of the machine. -/
theorem mem_frames_of_table {subsystem : Subsystem} {frame : FrameNumber}
    (member : frame ∈ (machine.table subsystem).frames) : frame ∈ machine.frames := by
  cases subsystem <;> simp only [Machine.table] at member <;> simp [frames, member]

/-- A frame in a queue occurs there once and nowhere else. -/
theorem count_table_of_nodup (nodup : machine.frames.Nodup) {subsystem : Subsystem}
    {frame : FrameNumber} (member : frame ∈ (machine.table subsystem).frames) :
    (machine.table subsystem).frames.count frame = 1 ∧ machine.pool.free.count frame = 0 ∧
      machine.pool.outside.keys.count frame = 0 ∧
      ∀ other, other ≠ subsystem → (machine.table other).frames.count frame = 0 := by
  have total := List.nodup_iff_count.mp nodup frame
  have present := List.count_pos_iff.mpr member
  rw [count_frames] at total
  cases subsystem <;> simp only [Machine.table] at present ⊢ <;>
    refine ⟨by omega, by omega, by omega, fun other different => ?_⟩ <;>
    cases other <;> first | exact absurd rfl different | (simp only; omega)

/-- A frame in the queue is not free. -/
theorem not_free_of_table (nodup : machine.frames.Nodup) {subsystem : Subsystem}
    {frame : FrameNumber} (member : frame ∈ (machine.table subsystem).frames) :
    frame ∉ machine.pool.free :=
  List.count_eq_zero.mp (count_table_of_nodup nodup member).2.1

/-- A free frame is in no queue. -/
theorem not_mem_table_of_free (nodup : machine.frames.Nodup) {frame : FrameNumber}
    (free : frame ∈ machine.pool.free) (subsystem : Subsystem) :
    frame ∉ (machine.table subsystem).frames :=
  fun member => not_free_of_table nodup member free

/-- A queue names a frame once at most. -/
theorem nodup_table (nodup : machine.frames.Nodup) (subsystem : Subsystem) :
    (machine.table subsystem).frames.Nodup := by
  refine List.nodup_iff_count.mpr fun frame => ?_
  by_cases member : frame ∈ (machine.table subsystem).frames
  · exact Nat.le_of_eq (count_table_of_nodup nodup member).1
  · rw [List.count_eq_zero.mpr member]
    exact Nat.zero_le 1

/-- No two queues share a frame. -/
theorem subsystem_eq_of_mem (nodup : machine.frames.Nodup) {left right : Subsystem}
    {frame : FrameNumber} (inLeft : frame ∈ (machine.table left).frames)
    (inRight : frame ∈ (machine.table right).frames) : left = right := by
  refine Decidable.byContradiction fun different => ?_
  have apart := (count_table_of_nodup nodup inLeft).2.2.2 right (Ne.symm different)
  exact List.count_eq_zero.mp apart inRight

end Machine

namespace OrderedMap

variable {Key Value : Type} [Numbered Key]

/-- A map has each of its keys once. -/
theorem nodup_keys (map : OrderedMap Key Value) : map.keys.Nodup := by
  refine List.Pairwise.imp (fun {left right} ordered same => ?_) map.keys_ascending
  rw [same] at ordered
  exact Nat.lt_irrefl _ ordered

/-- The values of a map are those found under its keys. -/
theorem mem_values_iff {map : OrderedMap Key Value} {value : Value} :
    value ∈ map.values ↔ ∃ key, map.get? key = some value := by
  unfold values
  rw [List.mem_map]
  constructor
  · rintro ⟨⟨key, _⟩, listed, rfl⟩
    exact ⟨key, map.get?_of_mem_entries listed⟩
  · rintro ⟨key, known⟩
    exact ⟨(key, value), mem_entries_of_get? known, rfl⟩

/-- A map has each of its keys once. -/
theorem count_keys [DecidableEq Key] (map : OrderedMap Key Value) (key : Key) :
    map.keys.count key = if (map.get? key).isSome then 1 else 0 := by
  split
  · next present =>
    have member : key ∈ map.keys := mem_keys_iff.mpr (Option.isSome_iff_exists.mp present)
    have once := List.nodup_iff_count.mp map.nodup_keys key
    have present := List.count_pos_iff.mpr member
    omega
  · next absent =>
    refine List.count_eq_zero.mpr fun member => absent ?_
    exact Option.isSome_iff_exists.mpr (mem_keys_iff.mp member)

end OrderedMap

namespace Machine

variable {config : Config} {machine : Machine config}

/-- Settling a page moves no frame. -/
theorem frames_settle (key : SpaceKey) (page : Page config) (frame : FrameNumber) :
    (machine.settle key page frame).frames.Perm machine.frames :=
  @frames_updateTable _ (machine.updateSpace key _) _ _ (FrameTable.frames_assign _)

/-- Settling a copied page moves no frame. -/
theorem frames_settleCopy (key : SpaceKey) (page : Page config) (frame : FrameNumber)
    (bytes : PageBytes config) (dirty : Bool) :
    (machine.settleCopy key page frame bytes dirty).frames.Perm machine.frames := by
  unfold settleCopy
  split <;> exact @frames_settle _ (machine.setFrameBytes frame bytes) key page frame

/-- A frame that is given back is one frame more in the pool. -/
theorem count_frames_giveBack (frame probe : FrameNumber) :
    (machine.giveBack frame).frames.count probe =
      machine.frames.count probe + [frame].count probe := by
  have counted := machine.count_frames_pool (machine.pool.giveBack frame) probe
  simp only [FramePool.giveBack, List.count_append] at counted
  simp only [giveBack, FramePool.giveBack]
  omega

/-- A frame that is released leaves its queue for the pool. -/
theorem frames_release {subsystem : Subsystem} {frame : FrameNumber}
    (member : frame ∈ (machine.table subsystem).frames) :
    (machine.release subsystem frame).frames.Perm machine.frames := by
  refine List.perm_iff_count.mpr fun probe => ?_
  have removed := machine.count_frames_updateTable subsystem (·.remove frame) probe
  have shorter := (List.perm_cons_erase member).count_eq probe
  rw [FrameTable.frames_remove] at removed
  rw [← List.singleton_append, List.count_append] at shorter
  rw [release, count_frames_giveBack]
  omega

/-- The frame of a page that ends goes from its queue to the pool. -/
theorem frames_endResident {key : SpaceKey} {number : PageNumber} {frame : FrameNumber}
    {environment : Environment config}
    (member : frame ∈ (machine.table key.subsystem).frames) :
    (machine.endResident key number frame environment).frames.Perm machine.frames :=
  @frames_release _ { (machine.updateSpace key (·.dropPage number)).updateSpace key
    (·.unmapPage number) with environment := environment } _ _ member

/-- A free frame that is taken leaves the pool for a queue. -/
theorem frames_take {subsystem : Subsystem} {frame : FrameNumber} {rest : List FrameNumber}
    (free : machine.pool.free = frame :: rest) :
    (machine.take subsystem frame rest).frames.Perm machine.frames := by
  refine List.perm_iff_count.mpr fun probe => ?_
  let without : Machine config := { machine with pool := { machine.pool with free := rest } }
  have fewer : without.frames.count probe + [frame].count probe = machine.frames.count probe := by
    simp only [count_frames, free, List.count_cons, List.count_nil, without]
    omega
  have pushed := without.count_frames_updateTable subsystem (·.push frame) probe
  rw [FrameTable.frames_push, List.count_append] at pushed
  have same : (machine.take subsystem frame rest).frames =
      (without.updateTable subsystem (·.push frame)).frames := by
    cases subsystem <;> rfl
  rw [same]
  omega

/-- The frame of a victim leaves its queue and enters it again at the end. -/
theorem frames_vacate {key : SpaceKey} {number : PageNumber} {victim : FrameEntry}
    {remaining : FrameTable} {stored : Page config} {environment : Environment config}
    (picked : (machine.table key.subsystem).pickVictim = some (victim, remaining)) :
    ((machine.beforeStore key number remaining).vacate key stored environment
      victim.frame).frames.Perm machine.frames := by
  refine List.perm_iff_count.mpr fun probe => ?_
  have replaced := machine.count_frames_updateTable key.subsystem
    (fun _ => remaining.countEviction.push victim.frame) probe
  have shorter := (FrameTable.frames_pickVictim picked).count_eq probe
  rw [FrameTable.frames_push, FrameTable.frames_countEviction, List.count_append] at replaced
  rw [← List.singleton_append, List.count_append] at shorter
  have same : ((machine.beforeStore key number remaining).vacate key stored environment
      victim.frame).frames = (machine.updateTable key.subsystem
        fun _ => remaining.countEviction.push victim.frame).frames := by
    refine frames_congr ?_ ?_
    · simp [vacate, beforeStore]
    · funext other
      rw [table_vacate, table_beforeStore, table_updateTable_eq]
      split <;> rfl
  rw [same]
  omega

/-- A frame that an outsider takes leaves the pool for the outsiders' hands. -/
theorem frames_lend (nodup : machine.frames.Nodup) {frame : FrameNumber}
    {rest : List FrameNumber} (free : machine.pool.free = frame :: rest) :
    { machine with pool := { machine.pool with free := rest }.lend frame }.frames.Perm
      machine.frames := by
  refine List.perm_iff_count.mpr fun probe => ?_
  have once := List.nodup_iff_count.mp nodup probe
  simp only [count_frames, free, FramePool.lend, OrderedMap.count_keys, OrderedMap.get?_insert_eq,
    List.count_cons, beq_iff_eq] at once ⊢
  by_cases same : probe = frame
  · subst same
    simp only [if_true, Option.isSome_some] at once ⊢
    split at once <;> split <;> first | contradiction | omega
  · simp only [if_neg same, if_neg (Ne.symm same)]
    omega

/-- A frame that an outsider gives back leaves its hands for the pool. -/
theorem frames_reclaim {frame : FrameNumber} (lent : frame ∈ machine.pool.outside.keys) :
    ({ machine with pool := machine.pool.takeBack frame }.giveBack frame).frames.Perm
      machine.frames := by
  refine List.perm_iff_count.mpr fun probe => ?_
  have present := Option.isSome_iff_exists.mpr (OrderedMap.mem_keys_iff.mp lent)
  simp only [count_frames, giveBack, FramePool.giveBack, FramePool.takeBack,
    OrderedMap.count_keys, OrderedMap.get?_erase_eq, List.count_append, List.count_singleton,
    beq_iff_eq]
  by_cases same : probe = frame
  · subst same
    simp only [if_true, present]
    simp
    omega
  · simp only [if_neg same, if_neg (Ne.symm same)]
    omega

end Machine

namespace Transition

variable {config : Config} {transition : Transition config} {machine next : Machine config}

open Machine

/-- A transition moves frames between the pool, the queues and the outsiders; none is lost and none
appears. -/
theorem Leads.frames_perm (leads : transition.Leads machine next)
    (nodup : machine.frames.Nodup)
    (tracked : ∀ key number frame, machine.frame? key number = some frame →
      frame ∈ (machine.table key.subsystem).frames) : next.frames.Perm machine.frames := by
  cases leads with
  | note | spoil | register | unregister | store | set | forget | setFile | createFile
  | listInitializer | setSwapFaults | discard => exact .refl _
  | pin => exact frames_updateTable (FrameTable.frames_setPinned _)
  | create =>
    unfold addSpace
    exact @frames_updateTable _ { machine with spaces := _, pageTables := _ } _ _ rfl
  | load => exact frames_settle ..
  | copy => exact frames_settleCopy ..
  | release awaits => exact frames_release awaits.mem_frames
  | @discardResident _ key page frame _ environment found resident =>
    have holds : machine.frame? key page.number = some frame := by
      rw [frame?, found]
      exact resident
    exact Machine.frames_endResident (tracked key page.number frame holds)
  | take free => exact frames_take free
  | evict _ picked => exact frames_vacate picked
  | lend free => exact frames_lend nodup free
  | reclaim lent => exact frames_reclaim lent

end Transition

end DemandPaging
