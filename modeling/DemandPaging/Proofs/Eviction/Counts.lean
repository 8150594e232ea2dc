import Mathlib.Algebra.GroupWithZero.Nat
import DemandPaging.Proofs.Agreement
import DemandPaging.Proofs.History
import DemandPaging.Proofs.Safety

/-!
# What the counters of a subsystem count

Between operations the length of a queue is the number of the resident pages in the registered spaces
of its subsystem. The number of evictions is the number of the frames that were requested while the
pool was empty.
-/

namespace DemandPaging

variable {config : Config}

/-- Whether an event is the request of a frame for a subsystem while the pool was empty. -/
def Event.isExhaustedRequest (subsystem : Subsystem) : Event → Bool
  | .frameRequested other true => other == subsystem
  | _ => false

/-- How many frames of a subsystem were requested while the pool was empty. -/
def Environment.exhaustedRequests (environment : Environment config) (subsystem : Subsystem) : Nat :=
  environment.history.toList.countP (·.isExhaustedRequest subsystem)

/-- The requests on an empty pool can be counted without the transfers of contents. -/
theorem Environment.exhaustedRequests_eq (environment : Environment config)
    (subsystem : Subsystem) : environment.exhaustedRequests subsystem =
      environment.proceedings.countP (·.isExhaustedRequest subsystem) := by
  rw [exhaustedRequests, proceedings, List.countP_filter]
  refine List.countP_congr fun event _ => ?_
  cases event <;> simp [Event.isExhaustedRequest, Event.isTransfer]

namespace Machine

variable (machine : Machine config)

/-- The resident pages of the registered spaces of a subsystem. -/
def residentOwners (subsystem : Subsystem) : List FrameOwner :=
  (machine.registeredSpaces subsystem).flatMap fun key =>
    (machine.space key).residentPages.map fun page => { space := key.id, page := page.number }

/-- How many pages of the registered spaces of a subsystem are resident. -/
def residentCount (subsystem : Subsystem) : Nat :=
  ((machine.registeredSpaces subsystem).map fun key =>
    (machine.space key).residentPages.length).sum

/-- The resident pages of a subsystem are as many as its spaces count together. -/
theorem length_residentOwners (subsystem : Subsystem) :
    (machine.residentOwners subsystem).length = machine.residentCount subsystem := by
  simp [residentOwners, residentCount, List.length_flatMap]

variable {machine}

/-- The registered spaces of a subsystem are those that exist and say that they are registered. -/
theorem mem_registeredSpaces_iff {subsystem : Subsystem} {key : SpaceKey} :
    key ∈ machine.registeredSpaces subsystem ↔ key.subsystem = subsystem ∧
      ∃ space, machine.spaces.get? key = some space ∧ space.registered = true := by
  unfold registeredSpaces
  constructor
  · intro listed
    obtain ⟨⟨_, space⟩, member, rfl⟩ := List.mem_map.mp listed
    obtain ⟨entry, registered⟩ := List.mem_filter.mp member
    simp only [Bool.and_eq_true, beq_iff_eq] at registered
    exact ⟨registered.1, space, machine.spaces.get?_of_mem_entries entry, registered.2⟩
  · rintro ⟨rfl, space, present, registered⟩
    refine List.mem_map.mpr ⟨(key, space), List.mem_filter.mpr ⟨?_, by simp [registered]⟩, rfl⟩
    exact OrderedMap.mem_entries_of_get? present

/-- No space is registered twice. -/
theorem nodup_registeredSpaces (subsystem : Subsystem) :
    (machine.registeredSpaces subsystem).Nodup :=
  machine.spaces.nodup_keys.sublist (List.Sublist.map _ List.filter_sublist)

/-- The listed owners are the resident pages. -/
theorem Consistent.mem_residentOwners_iff (consistent : machine.Consistent) {subsystem : Subsystem}
    {owner : FrameOwner} : owner ∈ machine.residentOwners subsystem ↔
      (machine.frame? ⟨subsystem, owner.space⟩ owner.page).isSome := by
  unfold residentOwners
  rw [List.mem_flatMap]
  constructor
  · rintro ⟨key, listed, isResident⟩
    obtain ⟨page, member, rfl⟩ := List.mem_map.mp isResident
    obtain ⟨isPage, resident⟩ := List.mem_filter.mp member
    obtain ⟨rfl, _⟩ := mem_registeredSpaces_iff.mp listed
    obtain ⟨number, known⟩ := OrderedMap.mem_values_iff.mp isPage
    have found : machine.page? key number = some page := known
    rw [consistent.fits.number_eq found, frame?_of_found found]
    exact resident
  · intro resident
    obtain ⟨frame, holds⟩ := Option.isSome_iff_exists.mp resident
    obtain ⟨page, found, held⟩ := Option.bind_eq_some_iff.mp holds
    obtain ⟨space, present⟩ := Option.isSome_iff_exists.mp (isSome_of_page? found)
    have registered := consistent.registered (isSome_of_page? found)
    rw [space_eq_of_get? present] at registered
    refine ⟨_, mem_registeredSpaces_iff.mpr ⟨rfl, space, present, registered⟩, ?_⟩
    refine List.mem_map.mpr ⟨page, List.mem_filter.mpr ⟨?_, ?_⟩, ?_⟩
    · exact OrderedMap.mem_values_iff.mpr ⟨owner.page, found⟩
    · rw [Page.isResident, held]
      rfl
    · rw [consistent.fits.number_eq found]

/-- Pages are listed under their own numbers. -/
theorem Consistent.map_number_values (consistent : machine.Consistent) (key : SpaceKey) :
    (machine.space key).pages.values.map Page.number = (machine.space key).pages.keys := by
  rw [OrderedMap.values, OrderedMap.keys, List.map_map]
  refine List.map_congr_left fun entry listed => ?_
  have found : machine.page? key entry.1 = some entry.2 :=
    (machine.space key).pages.get?_of_mem_entries listed
  exact consistent.fits.number_eq found

/-- No resident page is listed twice. -/
theorem Consistent.nodup_residentOwners (consistent : machine.Consistent) (subsystem : Subsystem) :
    (machine.residentOwners subsystem).Nodup := by
  refine List.nodup_flatMap.mpr ⟨fun key _ => ?_, ?_⟩
  · have distinct : ((machine.space key).residentPages.map Page.number).Nodup := by
      refine List.Nodup.sublist (List.filter_sublist.map _) ?_
      rw [consistent.map_number_values]
      exact (machine.space key).pages.nodup_keys
    have named := distinct.map (f := fun number => (⟨key.id, number⟩ : FrameOwner))
      fun _ _ same => (FrameOwner.mk.inj same).2
    rwa [List.map_map] at named
  · refine (machine.nodup_registeredSpaces subsystem).imp_of_mem ?_
    rintro ⟨_, id⟩ ⟨_, id'⟩ listed listed' different owner isFirst isSecond
    obtain ⟨rfl, _⟩ := mem_registeredSpaces_iff.mp listed
    obtain ⟨rfl, _⟩ := mem_registeredSpaces_iff.mp listed'
    obtain ⟨_, _, rfl⟩ := List.mem_map.mp isFirst
    obtain ⟨_, _, same⟩ := List.mem_map.mp isSecond
    obtain rfl : id' = id := (FrameOwner.mk.inj same).1
    exact different rfl

/-- Between operations the queue of a subsystem has an entry for each of its resident pages. -/
theorem AtRest.resident_eq (atRest : machine.AtRest) (subsystem : Subsystem) :
    (machine.table subsystem).resident = machine.residentCount subsystem := by
  have consistent := atRest.consistent
  have agreement := atRest.agreement
  have nodup := nodup_table consistent.nodup subsystem
  have perm : ((machine.table subsystem).queue.map FrameEntry.owner).Perm
      ((machine.residentOwners subsystem).map some) := by
    refine (List.perm_ext_iff_of_nodup ?_ ?_).mpr fun owner => ?_
    · refine List.Nodup.map_on (fun first firstIn second secondIn same => ?_) nodup.of_map
      obtain ⟨owner, owned⟩ := Option.isSome_iff_exists.mp (agreement.owned _ _ firstIn)
      have left := (consistent.tables _ _ owner).mp ⟨first, firstIn, rfl, owned⟩
      have right := (consistent.tables _ _ owner).mp ⟨second, secondIn, rfl, same ▸ owned⟩
      exact FrameTable.entry_unique nodup firstIn secondIn
        (Option.some.inj (left.symm.trans right))
    · exact (consistent.nodup_residentOwners subsystem).map (fun _ _ => Option.some.inj)
    · constructor
      · intro listed
        obtain ⟨entry, member, rfl⟩ := List.mem_map.mp listed
        obtain ⟨owner, owned⟩ := Option.isSome_iff_exists.mp (agreement.owned _ _ member)
        rw [owned]
        refine List.mem_map_of_mem (consistent.mem_residentOwners_iff.mpr ?_)
        rw [(consistent.tables _ _ owner).mp ⟨entry, member, rfl, owned⟩]
        rfl
      · intro listed
        obtain ⟨owner, isResident, rfl⟩ := List.mem_map.mp listed
        obtain ⟨frame, holds⟩ := Option.isSome_iff_exists.mp
          (consistent.mem_residentOwners_iff.mp isResident)
        obtain ⟨entry, member, _, owned⟩ := (consistent.tables _ _ owner).mpr holds
        exact List.mem_map.mpr ⟨entry, member, owned⟩
  have same := perm.length_eq
  rw [List.length_map, List.length_map, length_residentOwners] at same
  exact same

end Machine

namespace Transition

open Machine

variable {transition : Transition config} {machine next : Machine config}

/-- A transition counts an eviction exactly if it requests a frame while the pool is empty. -/
theorem Leads.evictions_eq (leads : transition.Leads machine next) (subsystem : Subsystem) :
    (next.table subsystem).evictions = (machine.table subsystem).evictions +
      transition.events.countP (·.isExhaustedRequest subsystem) := by
  rw [(leads.counters subsystem).1]
  congr 1
  cases leads with
  | @note _ event isNote => cases event <;> first | rfl | cases isNote
  | evict => simp [evictions, events, Event.isExhaustedRequest, List.countP_cons]
  | _ => rfl

end Transition

/-- The evictions of a way are the requests on it that found the pool empty. -/
theorem Trail.evictions_eq {start last : Machine config} {moves : List (Move config)}
    (trail : Trail start moves last) (subsystem : Subsystem)
    (none : (start.table subsystem).evictions = start.environment.exhaustedRequests subsystem) :
    (last.table subsystem).evictions = last.environment.exhaustedRequests subsystem := by
  induction trail with
  | refl => exact none
  | step _ leads inductionHypothesis =>
    rw [leads.evictions_eq, inductionHypothesis, Environment.exhaustedRequests_eq,
      Environment.exhaustedRequests_eq, leads.proceedings_eq, List.countP_append]

end DemandPaging
