import DemandPaging.Proofs.Course
import DemandPaging.Proofs.Eviction.Counts
import DemandPaging.Proofs.Eviction.Order

/-!
# Eviction is first-in first-out

A page is evicted exactly when a frame is requested while the pool is empty, one for each such
request, and it is the page that has been resident for longest, not counting one that is being copied
at that moment. The page that gets the frame becomes the youngest. The counters of each subsystem say
how many pages are resident and how many requests found the pool empty.
-/

namespace DemandPaging

variable {config : Config}

/-- The victim of an eviction may be evicted, and so may no entry before it. -/
theorem FrameTable.pickVictim_eq_first {table remaining : FrameTable} {victim : FrameEntry}
    (picked : table.pickVictim = some (victim, remaining)) :
    ∃ before after, table.queue = before ++ victim :: after ∧
      ∀ entry ∈ before, entry.isEvictable = false := by
  unfold pickVictim at picked
  obtain ⟨found, search, same⟩ := Option.map_eq_some_iff.mp picked
  cases same
  obtain ⟨_, before, after, parts, blocked⟩ := List.find?_eq_some_iff_append.mp search
  exact ⟨before, after, parts, by simpa using blocked⟩

/-- A frame that waits at the end of a queue gets an owner. -/
theorem FrameTable.queue_assign {table : FrameTable} {frame : FrameNumber} {owner : FrameOwner}
    {front : List FrameEntry} (nodup : table.frames.Nodup)
    (parts : table.queue = front ++ [{ frame := frame }]) :
    (table.assign frame owner).queue = front ++ [{ frame := frame, owner := some owner }] := by
  have others : ∀ entry ∈ front, entry.frame ≠ frame := by
    intro entry member same
    rw [FrameTable.frames, parts, List.map_append] at nodup
    exact List.disjoint_of_nodup_append nodup (List.mem_map_of_mem member) (by simp [same])
  rw [assign, update, parts, List.map_append]
  simp only [List.map_cons, List.map_nil, if_true]
  congr 1
  refine (List.map_congr_left fun entry member => ?_).trans (List.map_id front)
  rw [if_neg (others entry member)]
  rfl

namespace Machine

variable {moves : List (Move config)} {machine : Machine config} {subsystem : Subsystem}

/-- A frame that waits for its page is the last of its queue. -/
theorem QueuesInOrder.queue_eq (inOrder : machine.QueuesInOrder moves) {frame : FrameNumber}
    (awaits : (machine.table subsystem).Awaits frame) :
    ∃ front, (machine.table subsystem).queue = front ++ [{ frame := frame }] := by
  obtain ⟨front, after, parts⟩ := List.append_of_mem awaits
  cases after with
  | nil => exact ⟨front, parts⟩
  | cons next rest =>
    have ordered := parts ▸ inOrder subsystem
    have last := (List.pairwise_cons.mp (List.pairwise_append.mp ordered).2.1).1
    obtain ⟨owner, owned, _⟩ := last next List.mem_cons_self
    cases owned

/-- The pages behind another one in a queue became resident later. -/
theorem QueuesInOrder.longer (inOrder : machine.QueuesInOrder moves) {owner other : FrameOwner}
    {before after : List FrameEntry} {first second : FrameEntry}
    (parts : (machine.table subsystem).queue = before ++ first :: after)
    (behind : second ∈ after) (owned : first.owner = some owner)
    (otherOwned : second.owner = some other) :
    ResidentLonger moves ⟨subsystem, owner.space⟩ owner.page ⟨subsystem, other.space⟩ other.page := by
  have ordered := parts ▸ inOrder subsystem
  have precedes := (List.pairwise_cons.mp (List.pairwise_append.mp ordered).2.1).1
  obtain ⟨_, same, longer⟩ := precedes second behind
  cases owned.symm.trans same
  exact longer other otherOwned

end Machine

/-- What a transition does for the residency of pages, after the transitions `earlier` and before the
transitions `later`. -/
structure Move.IsFair (earlier : List (Move config)) (move : Move config)
    (later : List (Move config)) (next : Machine config) : Prop where
  leads : move.transition.Leads move.before next
  /-- A page is evicted exactly if a frame of its subsystem is requested while the pool is empty. -/
  evicts : ∀ {subsystem : Subsystem} {frame : FrameNumber},
    (∃ key number, key.subsystem = subsystem ∧ move.transition = .evict key number frame) ↔
      move.transition.Acquires subsystem frame ∧ move.before.pool.free = []
  /-- The victim became resident before all other pages of its subsystem, those not counted that are
  being copied; it is not being copied itself. -/
  oldest : ∀ {key : SpaceKey} {number : PageNumber} {frame : FrameNumber},
    move.transition = .evict key number frame →
      move.before.frame? key number = some frame ∧ ¬ IsCopiedNext key number frame later ∧
      ∀ key' number', key'.subsystem = key.subsystem → (move.before.frame? key' number').isSome →
        (key', number') ≠ (key, number) → ¬ IsCopiedNext key' number' frame later →
          ResidentLonger earlier key number key' number'
  /-- A page that becomes resident gets a frame that waited, and is the youngest from then on. -/
  youngest : ∀ {key : SpaceKey} {number : PageNumber},
    move.transition.MakesResident key number →
      (∃ frame front, (move.before.table key.subsystem).Awaits frame ∧
        next.frame? key number = some frame ∧ (next.table key.subsystem).queue =
          front ++ [{ frame := frame, owner := some ⟨key.id, number⟩ }]) ∧
      ∀ key' number', (next.frame? key' number').isSome → (key', number') ≠ (key, number) →
        ResidentLonger (earlier ++ [move]) key' number' key number

namespace Transition

open Machine

variable {transition : Transition config} {machine next : Machine config}
  {earlier later : List (Move config)}

/-- A page is evicted exactly when a frame is acquired while the pool is empty. -/
theorem Leads.evicts_iff (leads : transition.Leads machine next) {subsystem : Subsystem}
    {frame : FrameNumber} :
    (∃ key number, key.subsystem = subsystem ∧ transition = .evict key number frame) ↔
      transition.Acquires subsystem frame ∧ machine.pool.free = [] := by
  constructor
  · rintro ⟨key, number, home, rfl⟩
    cases leads with
    | evict exhausted => exact ⟨.evict home, exhausted⟩
  · rintro ⟨acquires, exhausted⟩
    cases acquires with
    | evict home => exact ⟨_, _, home, rfl⟩
    | take =>
      cases leads with
      | take free =>
        rw [free] at exhausted
        cases exhausted

/-- The victim of an eviction has been resident for longest. -/
theorem Leads.oldest {key : SpaceKey} {number : PageNumber} {frame : FrameNumber}
    (leads : (Transition.evict key number frame).Leads machine next)
    (consistent : machine.Consistent) (inOrder : machine.QueuesInOrder earlier)
    (prompt : Move.IsPrompt ⟨machine, .evict key number frame⟩ later) {key' : SpaceKey}
    {number' : PageNumber} (home : key'.subsystem = key.subsystem)
    (resident : (machine.frame? key' number').isSome) (other : (key', number') ≠ (key, number))
    (uncopied : ¬ IsCopiedNext key' number' frame later) :
    ResidentLonger earlier key number key' number' := by
  obtain ⟨subsystem, id'⟩ := key'
  obtain rfl : subsystem = key.subsystem := home
  obtain ⟨held, holds⟩ := Option.isSome_iff_exists.mp resident
  obtain ⟨entry, member, _, owned⟩ := (consistent.tables key.subsystem held ⟨id', number'⟩).mpr holds
  cases leads with
  | evict _ picked =>
    obtain ⟨before, after, parts, blocked⟩ := FrameTable.pickVictim_eq_first picked
    rw [parts] at member
    rcases List.mem_append.mp member with isBefore | behind
    · -- An entry before the victim is pinned, so its page is being copied.
      have listed : entry ∈ (machine.table key.subsystem).queue :=
        parts ▸ List.mem_append_left _ isBefore
      have isPinned : entry.pinned = true := by
        simpa [FrameEntry.isEvictable, owned] using blocked entry isBefore
      obtain ⟨owner, same, copied⟩ := prompt key.subsystem frame (.evict rfl) entry listed
      cases owned.symm.trans same
      exact absurd (copied isPinned) uncopied
    · rcases List.mem_cons.mp behind with rfl | isAfter
      · cases owned
        exact absurd rfl other
      · exact inOrder.longer parts isAfter rfl owned

/-- The page that becomes resident is the last of its queue. -/
theorem Leads.queue_of_becomes (leads : transition.Leads machine next)
    (consistent : machine.Consistent) (inOrder : machine.QueuesInOrder earlier) {key : SpaceKey}
    {number : PageNumber} (becomes : transition.MakesResident key number) :
    ∃ frame front, (machine.table key.subsystem).Awaits frame ∧
      next.frame? key number = some frame ∧ (next.table key.subsystem).queue =
        front ++ [{ frame := frame, owner := some ⟨key.id, number⟩ }] := by
  have nodup := nodup_table consistent.nodup key.subsystem
  rcases becomes with ⟨frame, rfl⟩ | ⟨parent, frame, rfl⟩
  · cases leads with
    | load found absent awaits =>
      obtain ⟨front, parts⟩ := inOrder.queue_eq awaits
      refine ⟨frame, front, awaits, ?_, ?_⟩
      · rw [frame?, page?_settleLoaded (isSome_of_page? found), amend_self]
        rfl
      · rw [table_settleLoaded, if_pos rfl, FrameTable.queue_assign nodup parts]
  · cases leads with
    | copy _ found awaits =>
      obtain ⟨front, parts⟩ := inOrder.queue_eq awaits
      refine ⟨frame, front, awaits, ?_, ?_⟩
      · rw [frame?, page?_settleCopy (isSome_of_page? found)]
        exact congrArg (Option.bind · Page.frame) amend_self
      · rw [table_settleCopy, if_pos rfl]
        exact FrameTable.queue_assign nodup parts

end Transition

/-- The residency of pages on a way: the history tells of all its transitions, and pages are evicted
in the order in which they became resident. -/
structure Trail.IsFair (start : Machine config) (moves : List (Move config))
    (machine : Machine config) : Prop where
  history : machine.environment.proceedings =
    start.environment.proceedings ++ moves.flatMap (·.transition.events)
  moves : ∀ {earlier : List (Move config)} {move : Move config} {later : List (Move config)},
    moves = earlier ++ move :: later →
      ∃ next, move.IsFair earlier later next ∧ Trail next later machine

open Machine in
/-- On an orderly way pages are evicted in the order in which they became resident. -/
theorem Trail.isFair {start machine : Machine config} {moves : List (Move config)}
    (trail : Trail start moves machine) (consistent : start.Consistent)
    (empty : ∀ subsystem, (start.table subsystem).queue = []) (orderly : IsOrderly moves) :
    Trail.IsFair start moves machine where
  history := trail.proceedings_eq
  moves := by
    rintro earlier ⟨before, transition⟩ later rfl
    obtain ⟨first, next, leads, rest⟩ := trail.split
    have beforeConsistent := (first.consistent consistent).1
    have inOrder : before.QueuesInOrder earlier := first.queuesInOrder consistent empty
      fun move listed => orderly.findsOwners move (List.mem_append_left _ listed)
    refine ⟨next, ⟨leads, leads.evicts_iff, ?_, ?_⟩, rest⟩
    · rintro key number frame rfl
      refine ⟨?_, ?_, fun key' number' => leads.oldest beforeConsistent inOrder orderly.isPrompt⟩
      · cases leads with
        | evict _ _ found resident => exact (frame?_of_found found).trans resident
      · -- The victim has lost its frame by the time of the next transition.
        intro copied
        cases copied with
        | intro holds =>
          rw [rest.before_eq, leads.frame?_of_ends (.inl ⟨frame, rfl⟩)] at holds
          cases holds
    · intro key number becomes
      exact ⟨leads.queue_of_becomes beforeConsistent inOrder becomes, fun _ _ _ other =>
        residentLonger_of_becomes becomes fun becomes' => other (becomes.unique becomes')⟩

/-- In every run pages are evicted in the order in which they became resident, one for each request
that finds the pool empty, and the counters of each subsystem are exact. -/
theorem Run.evicts_oldest {frames slots : Nat} {log : OperationLog config}
    {machine : Machine config} (run : Run (.boot config frames slots) log machine) :
    (∃ episodes, Chronicle (.boot config frames slots) episodes machine ∧
      episodes.map Episode.entry = log ∧
      Trail.IsFair (.boot config frames slots) (Episode.allMoves episodes) machine) ∧
    ∀ subsystem, (machine.table subsystem).resident = machine.residentCount subsystem ∧
      (machine.table subsystem).evictions = machine.environment.exhaustedRequests subsystem := by
  have bootConsistent := Machine.boot_consistent config frames slots
  have noQueue : ∀ subsystem, ((Machine.boot config frames slots).table subsystem).queue = [] :=
    fun subsystem => by cases subsystem <;> rfl
  obtain ⟨episodes, chronicle, entries, orderly, _⟩ := run.orderly_chronicle
    (boot_atRest config frames slots)
  refine ⟨⟨episodes, chronicle, entries, ?_⟩, fun subsystem => ⟨?_, ?_⟩⟩
  · exact chronicle.trail.isFair bootConsistent noQueue orderly
  · exact run.atRest.resident_eq subsystem
  · exact chronicle.trail.evictions_eq subsystem (by cases subsystem <;> rfl)

/-- On three frames the program evicts pages, first in, first out. -/
theorem Run.evicts_oldest_crowded : ∃ log machine episodes,
    performAll crowdedProgram (.boot .small 3 8) = some (log, machine) ∧
    Chronicle (.boot .small 3 8) episodes machine ∧
    Trail.IsFair (.boot .small 3 8) (Episode.allMoves episodes) machine ∧
    0 < machine.environment.exhaustedRequests .main ∧
    (machine.table .main).evictions = machine.environment.exhaustedRequests .main := by
  obtain ⟨log, machine, outcome, evicted⟩ := crowdedProgram_performed
  obtain ⟨⟨episodes, chronicle, _, fair⟩, counted⟩ := Run.evicts_oldest (Run.nil.append outcome)
  have exact := (counted .main).2
  exact ⟨log, machine, episodes, outcome, chronicle, fair, exact ▸ evicted, exact⟩

end DemandPaging
