import DemandPaging.Proofs.Course.Basic
import DemandPaging.Proofs.WriteBack.Residence

/-!
# The order of the queues

Where frames are requested one at a time, each queue holds the resident pages of its subsystem in the
order in which they became resident, and a frame that waits for its page behind all of them. So the
victim of an eviction has been resident for longer than every other page that could be evicted.
-/

namespace DemandPaging

variable {config : Config}

/-- One page has been resident for longer than another: after the other one became resident, the one
has not become resident anew. -/
def ResidentLonger (moves : List (Move config)) (key : SpaceKey) (number : PageNumber)
    (key' : SpaceKey) (number' : PageNumber) : Prop :=
  ∃ earlier move later, moves = earlier ++ move :: later ∧
    move.transition.MakesResident key' number' ∧
    ∀ other ∈ move :: later, ¬ other.transition.MakesResident key number

section ResidentLonger

variable {moves : List (Move config)} {last : Move config} {key key' : SpaceKey}
  {number number' : PageNumber}

/-- The order of residency stays while the page that came first does not become resident anew. -/
theorem ResidentLonger.append (longer : ResidentLonger moves key number key' number')
    (stays : ¬ last.transition.MakesResident key number) :
    ResidentLonger (moves ++ [last]) key number key' number' := by
  obtain ⟨earlier, move, later, rfl, becomes, since⟩ := longer
  refine ⟨earlier, move, later ++ [last], by simp, becomes, fun other listed => ?_⟩
  rcases List.mem_append.mp (List.cons_append ▸ listed) with listed | listed
  · exact since other listed
  · exact List.mem_singleton.mp listed ▸ stays

/-- A page that becomes resident has been so for less long than all others. -/
theorem residentLonger_of_becomes (becomes : last.transition.MakesResident key' number')
    (stays : ¬ last.transition.MakesResident key number) :
    ResidentLonger (moves ++ [last]) key number key' number' :=
  ⟨moves, last, [], rfl, becomes, fun _ listed => List.mem_singleton.mp listed ▸ stays⟩

end ResidentLonger

/-- An entry has an owner, who has been resident for longer than the owner of another entry, if that
has one. -/
def FrameEntry.Precedes (moves : List (Move config)) (subsystem : Subsystem)
    (first second : FrameEntry) : Prop :=
  ∃ owner, first.owner = some owner ∧ ∀ other, second.owner = some other →
    ResidentLonger moves ⟨subsystem, owner.space⟩ owner.page ⟨subsystem, other.space⟩ other.page

/-- Each queue is in the order in which its pages became resident; a frame without owner is last. -/
def Machine.QueuesInOrder (moves : List (Move config)) (machine : Machine config) : Prop :=
  ∀ subsystem, (machine.table subsystem).queue.Pairwise (FrameEntry.Precedes moves subsystem)

/-- If the transition requests a frame, every frame in the queue has an owner at that time. -/
def Move.FindsOwners (move : Move config) : Prop :=
  ∀ subsystem frame, move.transition.Acquires subsystem frame →
    ∀ entry ∈ (move.before.table subsystem).queue, entry.owner.isSome

/-- No frame waits for its page when the next one is requested. -/
theorem IsOrderly.findsOwners {moves : List (Move config)} (orderly : IsOrderly moves) :
    ∀ move ∈ moves, move.FindsOwners := by
  intro move listed subsystem frame acquires entry member
  obtain ⟨earlier, later, rfl⟩ := List.append_of_mem listed
  obtain ⟨owner, owned, _⟩ := orderly.isPrompt subsystem frame acquires entry member
  rw [owned]
  rfl

/-! ## Transitions keep the queues in order -/

namespace Transition

open Machine

variable {transition : Transition config} {machine next : Machine config} {key : SpaceKey}
  {number : PageNumber} {subsystem : Subsystem} {moves : List (Move config)}

/-- A transition makes one page resident at most. -/
theorem MakesResident.unique {key' : SpaceKey} {number' : PageNumber}
    (becomes : transition.MakesResident key number)
    (becomes' : transition.MakesResident key' number') : (key', number') = (key, number) := by
  rcases becomes with ⟨_, rfl⟩ | ⟨_, _, rfl⟩ <;> rcases becomes' with ⟨_, same⟩ | ⟨_, _, same⟩ <;>
    cases same <;> rfl

/-- A page that is resident does not become so. -/
theorem Leads.not_makesResident (leads : transition.Leads machine next) {frame : FrameNumber}
    (holds : machine.frame? key number = some frame) : ¬ transition.MakesResident key number := by
  rintro (⟨_, rfl⟩ | ⟨_, _, rfl⟩)
  · cases leads with
    | load found absent => cases holds.symm.trans ((frame?_of_found found).trans absent)
  · cases leads with
    | copy _ found => cases holds.symm.trans (frame?_of_found found)

/-- The owner of an entry does not become resident. -/
theorem Leads.not_makesResident_owner (leads : transition.Leads machine next)
    (consistent : machine.Consistent) {entry : FrameEntry}
    (member : entry ∈ (machine.table subsystem).queue) {owner : FrameOwner}
    (owned : entry.owner = some owner) :
    ¬ transition.MakesResident ⟨subsystem, owner.space⟩ owner.page :=
  leads.not_makesResident
    ((consistent.tables subsystem entry.frame owner).mp ⟨entry, member, rfl, owned⟩)

/-- The old queue is still in order after a transition. -/
theorem Leads.precedes (leads : transition.Leads machine next) (consistent : machine.Consistent)
    (inOrder : machine.QueuesInOrder moves) (subsystem : Subsystem) :
    (machine.table subsystem).queue.Pairwise
      (FrameEntry.Precedes (moves ++ [⟨machine, transition⟩]) subsystem) := by
  refine (inOrder subsystem).imp_of_mem fun member _ precedes => ?_
  obtain ⟨owner, owned, longer⟩ := precedes
  exact ⟨owner, owned, fun other otherOwned =>
    (longer other otherOwned).append (leads.not_makesResident_owner consistent member owned)⟩

/-- A frame that is acquired waits behind all others. -/
theorem pairwise_push {table : FrameTable} {frame : FrameNumber}
    (inOrder : table.queue.Pairwise (FrameEntry.Precedes moves subsystem))
    (owned : ∀ entry ∈ table.queue, entry.owner.isSome) :
    (table.push frame).queue.Pairwise (FrameEntry.Precedes moves subsystem) := by
  refine List.pairwise_append.mpr ⟨inOrder, List.pairwise_singleton _ _, ?_⟩
  intro entry member waiting isWaiting
  obtain ⟨owner, isOwner⟩ := Option.isSome_iff_exists.mp (owned entry member)
  cases List.mem_singleton.mp isWaiting
  exact ⟨owner, isOwner, nofun⟩

/-- The page of a frame that waited becomes the youngest. -/
theorem Leads.pairwise_assign (leads : transition.Leads machine next)
    (consistent : machine.Consistent) (inOrder : machine.QueuesInOrder moves) {frame : FrameNumber}
    (awaits : (machine.table key.subsystem).Awaits frame)
    (becomes : transition.MakesResident key number) :
    ((machine.table key.subsystem).assign frame ⟨key.id, number⟩).queue.Pairwise
      (FrameEntry.Precedes (moves ++ [⟨machine, transition⟩]) key.subsystem) := by
  have nodup := nodup_table consistent.nodup key.subsystem
  refine List.pairwise_map.mpr ?_
  refine (leads.precedes consistent inOrder key.subsystem).imp_of_mem ?_
  rintro first second member - ⟨owner, owned, longer⟩
  have different : first.frame ≠ frame := by
    intro same
    cases FrameTable.entry_unique nodup member awaits same
    cases owned
  rw [if_neg different]
  refine ⟨owner, owned, fun other otherOwned => ?_⟩
  split at otherOwned
  · cases otherOwned
    exact residentLonger_of_becomes becomes (leads.not_makesResident_owner consistent member owned)
  · exact longer other otherOwned

/-- Exempting a frame from eviction does not change its place in the queue. -/
theorem pairwise_setPinned {table : FrameTable} {frame : FrameNumber} {pinned : Bool}
    (inOrder : table.queue.Pairwise (FrameEntry.Precedes moves subsystem)) :
    (table.setPinned frame pinned).queue.Pairwise (FrameEntry.Precedes moves subsystem) := by
  have owners : ∀ entry : FrameEntry, (if entry.frame = frame then { entry with pinned := pinned }
      else entry).owner = entry.owner := fun entry => by split <;> rfl
  refine List.pairwise_map.mpr (inOrder.imp fun precedes => ?_)
  simp only [FrameEntry.Precedes, owners]
  exact precedes

/-- Queues stay in order as long as frames are requested one at a time. -/
theorem Leads.queuesInOrder (leads : transition.Leads machine next)
    (consistent : machine.Consistent) (inOrder : machine.QueuesInOrder moves)
    (owners : Move.FindsOwners ⟨machine, transition⟩) :
    next.QueuesInOrder (moves ++ [⟨machine, transition⟩]) := by
  intro subsystem
  have old := leads.precedes consistent inOrder subsystem
  cases leads with
  | note | setFile | createFile | listInitializer | setSwapFaults | lend | reclaim | spoil
  | register | unregister | discard | store | set | forget => exact old
  | take =>
    rw [table_take]
    split
    · next same =>
      subst same
      exact pairwise_push old (owners _ _ .take)
    · exact old
  | @evict _ key page frame remaining _ _ _ picked =>
    rw [table_evicted]
    split
    · next same =>
      subst same
      -- The victim is taken out of the middle of the queue, and its frame goes to the end of it.
      obtain ⟨_, before, after, parts, rest⟩ := FrameTable.pickVictim_eq_some picked
      have fewer : remaining.queue.Sublist (machine.table key.subsystem).queue := by
        rw [parts, rest]
        exact (List.Sublist.refl _).append (List.sublist_cons_self _ _)
      refine pairwise_push (old.sublist fewer) fun entry member => ?_
      exact owners _ _ (.evict rfl) entry (fewer.subset member)
    · exact old
  | load found absent awaits loaded =>
    rw [table_settleLoaded]
    split
    · next same =>
      subst same
      exact (Leads.load found absent awaits loaded).pairwise_assign consistent inOrder awaits
        (.inl ⟨_, rfl⟩)
    · exact old
  | copy model found awaits provides =>
    rw [table_settleCopy]
    split
    · next same =>
      subst same
      exact (Leads.copy model found awaits provides).pairwise_assign consistent inOrder awaits
        (.inr ⟨_, _, rfl⟩)
    · exact old
  | release =>
    rw [table_release]
    split
    · exact old.sublist List.eraseP_sublist
    · exact old
  | discardResident =>
    rw [table_endResident]
    split
    · exact old.sublist List.eraseP_sublist
    · exact old
  | pin =>
    rw [table_updateTable_eq]
    split
    · exact pairwise_setPinned old
    · exact old
  | create =>
    rw [queue_addSpace]
    exact old

end Transition

/-- On an orderly way the queues are in the order in which pages became resident. -/
theorem Trail.queuesInOrder {start machine : Machine config} {moves : List (Move config)}
    (trail : Trail start moves machine) (consistent : start.Consistent)
    (empty : ∀ subsystem, (start.table subsystem).queue = [])
    (owners : ∀ move ∈ moves, move.FindsOwners) : machine.QueuesInOrder moves := by
  induction trail with
  | refl =>
    intro subsystem
    rw [empty]
    exact .nil
  | step prior leads inductionHypothesis =>
    have before := inductionHypothesis fun move listed => owners move (List.mem_append_left _ listed)
    exact leads.queuesInOrder (prior.consistent consistent).1 before
      (owners _ (List.mem_append_right _ List.mem_cons_self))

end DemandPaging
