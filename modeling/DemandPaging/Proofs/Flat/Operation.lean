import DemandPaging.Proofs.Flat.Copy
import DemandPaging.Proofs.Flat.Spaces

/-!
# Every operation is one on a memory without paging

However room is made while an operation is performed, programs see what the operation does to
`FlatMemory`.
-/

namespace DemandPaging

variable {config : Config}

open Machine

/-- An initializer that was just listed has not been run. -/
theorem Machine.flat_listed {machine : Machine config} (consistent : machine.Consistent)
    (body : Option (InitializerBody config)) : machine.flat.Idles (machine.listed body).flat := by
  unfold listed
  split
  · exact Transition.Leads.idles .listInitializer consistent trivial
  · exact .refl

/-- Naming an initializer leaves a machine consistent. -/
theorem Machine.listed_consistent {machine : Machine config} (consistent : machine.Consistent)
    (body : Option (InitializerBody config)) : (machine.listed body).Consistent := by
  unfold listed
  split
  · exact Transition.Leads.consistent .listInitializer consistent
  · exact consistent

/-- A named initializer does what its body does. -/
theorem Machine.run_namedInitializer (machine : Machine config)
    (body : Option (InitializerBody config)) :
    (machine.namedInitializer body).map Initializer.run = body := by
  cases body <;> rfl

/-- An initializer that was just named has not been run. -/
theorem Machine.runsOf_of_namedInitializer {machine : Machine config}
    (consistent : machine.Consistent) {body : Option (InitializerBody config)}
    {initializer : Initializer config} (isNamed : machine.namedInitializer body = some initializer) :
    machine.environment.runsOf initializer.id = 0 := by
  obtain ⟨run, rfl, rfl⟩ := Option.map_eq_some_iff.mp isNamed
  rw [Environment.runsOf, consistent.names.fresh_initializer]
  rfl

/-- Every request does to the memory that its machine implements what it may do there. -/
theorem SpaceRequest.Performs.answers {key : SpaceKey} {asked : SpaceRequest config}
    {machine later : Machine config} {result : Except VmError Answer}
    (performs : asked.Performs key machine result later) (atRest : machine.AtRest)
    (spaceExists : (machine.spaces.get? key).isSome) :
    FlatMemory.Answers key asked result machine.flat later.flat := by
  have consistent := atRest.consistent
  cases performs with
  | refused => exact .refused .refl
  | unremoved | notUnmapped => exact .failed nofun .refl
  | @listed _ _ _ body _ result shown =>
    have idles := flat_listed consistent body
    cases result with
    | error error => exact .failed nofun idles
    | ok answer =>
      obtain ⟨refusal, rfl⟩ := shown answer rfl
      exact .refused idles
  | @allocated request target address writable body _ _ grants registers =>
    -- The page is registered after its initializer was listed, which the flat memory does not notice.
    have idles := flat_listed consistent body
    have listed := listed_consistent consistent body
    refine .allocated grants (fun id => ?_) (machine.run_namedInitializer body) ?_ ?_ ?_
    · exact Nat.le_trans (idles.runs id)
        (registers.runsOf_le listed.fits listed.slots listed.names id)
    · exact fun fresh isFresh => runsOf_of_namedInitializer consistent isFresh
    · rw [← idles.pages]
      cases registers with
      | register vacant => exact flat_page?_of_vacant vacant
    · rw [registers.flat_register listed, idles.pages]
      congr 2
      cases target with
      | anonymous => exact flatPage_of_pending rfl
      | file backing => exact flatPage_of_pendingFile rfl
  | claimed known accessed =>
    exact .claimed (by rwa [isSome_flat_page?]) (accessed.looks atRest)
  | unclaimed passes =>
    exact .failed nofun (passes.path.idles consistent fun _ _ => (·.keepsContents))
  | removed shown leads =>
    refine .removed shown (leads.runsOf_le consistent.fits consistent.slots consistent.names) ?_
    exact leads.flat_discard consistent
  | resolved accessed => exact .resolved (accessed.looks atRest)
  | unresolved denied => exact .failed nofun (denied.idles atRest)
  | retried accessed => exact .retried (accessed.looks atRest)
  | @exited access _ middle error denied =>
    have notes : (Transition.note (.unresolvedFault access.address access.cause error)).Leads middle
      (middle.record _) := .note rfl
    refine .exited ((denied.idles atRest).trans (notes.idles ?_ trivial))
    exact (denied.passes atRest).atRest.consistent
  | @pointed pointer =>
    have sets : (Transition.set key).Leads machine (machine.pointed key pointer) :=
      .set fun _ => rfl
    exact .pointed (sets.idles consistent trivial)
  | @read address buffer filled _ _ result reads =>
    rw [VirtualAddress.toNat_pageOffset, Chunk.ofCopy_eq] at reads
    obtain ⟨reached, _, within, stops, looks, size, copied, kept⟩ :=
      reads.fills (Nat.zero_add _) (.zero address buffer.size) rfl atRest
    rw [Chunk.entry_zero] at looks copied
    refine .read within stops looks size (fun index byte => copied index byte (Nat.zero_le _)) ?_
    exact fun index after => kept index (.inr after)
  | @written address bytes _ _ result writes =>
    rw [VirtualAddress.toNat_pageOffset, Chunk.ofCopy_eq] at writes
    obtain ⟨reached, _, within, stops, visits⟩ :=
      writes.stores (Nat.zero_add _) (.zero address bytes.size) atRest
    rw [Chunk.entry_zero] at visits
    exact .written within stops visits
  | @mapped address length offset writable file plan range _ _ maps starts _ _ _ _ counted =>
    obtain ⟨placed, others⟩ := maps.flat_eq atRest spaceExists
    rw [starts, counted] at placed others
    have vacant := maps.vacant
    rw [starts, counted] at vacant
    refine .mapped rfl ?_ (fun index inside => flat_page?_of_vacant (vacant index inside)) placed
      others
    exact (maps.passes atRest spaceExists).path.runs_le consistent
  | unmappable leaves =>
    refine .failed nofun ((leaves.passes atRest).path.idles consistent
      fun _ transition reopens => ?_)
    cases transition <;> first | exact trivial | exact reopens.elim
  | @unmapped address _ _ _ _ shown unmaps =>
    refine .unmapped shown (fun id => ?_) (unmaps.flat_eq atRest)
    have erases := machine.unrecorded_leads key (address.page config)
    exact Nat.le_trans ((erases.idles consistent trivial).runs id)
      (unmaps.passes.path.runs_le (erases.consistent consistent) id)
  | tornDown passes pages =>
    exact .tornDown (passes.path.runs_le consistent)
      (flat_of_emptied passes (fun _ empties => Transition.Drops.concerns (.inl empties)) pages atRest)

/-- Every operation does to the memory that its machine implements what it may do there. -/
theorem Operation.Performs.flat {operation : Operation config} {machine later : Machine config}
    {result : Except VmError Answer} (performs : operation.Performs machine result later)
    (atRest : machine.AtRest) : FlatMemory.Performs operation result machine.flat later.flat := by
  have consistent := atRest.consistent
  cases performs with
  | refused => exact .refused .refl
  | created => exact .idle trivial (Transition.Leads.idles .create consistent trivial)
  | dropped passes pages =>
    exact .dropped (passes.path.runs_le consistent)
      (flat_of_emptied passes (fun _ => Transition.Drops.concerns) pages atRest)
  | forked forks =>
    obtain ⟨fresh, pages, runs⟩ := forks.flat_eq atRest
    exact .forked fresh pages runs
  | unforked forks => exact .unforked (forks.idles_of_error atRest)
  | @copied child parent _ _ result copies passes =>
    have runs := passes.path.runs_le consistent
    cases result with
    | ok done =>
      obtain ⟨vacant, _, pages⟩ := copies.flat_eq atRest
      exact .copied vacant pages runs
    | error error => exact .uncopied (copies.flat_of_error atRest) runs
  | requested spaceExists performs => exact .requested (performs.answers atRest spaceExists)
  | idle => exact .idle trivial .refl
  | noFrame outside =>
    refine .idle ?_ .refl
    rcases outside with rfl | rfl <;> exact trivial
  | tookFrame leads => exact .idle trivial (leads.idles consistent trivial)
  | returnedFrame leads => exact .idle trivial (leads.idles consistent trivial)
  | createdFile leads => exact .idle trivial (leads.idles consistent trivial)
  | closedFile | wroteFile | setFileFaults =>
    exact .idle trivial (Transition.Leads.idles .setFile consistent trivial)
  | setSwapFaults leads => exact .idle trivial (leads.idles consistent trivial)

/-- What programs see of a run is a run on a memory without paging. -/
theorem Run.flat {frames slots : Nat} {log : OperationLog config} {machine : Machine config}
    (run : Run (.boot config frames slots) log machine) : FlatMemory.Run log machine.flat := by
  induction run with
  | nil => exact .nil
  | step prior permitted yields inductionHypothesis =>
    exact .step inductionHypothesis ((yields.performs prior.atRest permitted).flat prior.atRest)

end DemandPaging
