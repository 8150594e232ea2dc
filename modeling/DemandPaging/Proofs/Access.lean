import DemandPaging.Proofs.Course.Access
import DemandPaging.Proofs.Resolver

/-!
# A fault that was resolved does not recur

Once a fault has been resolved, the hardware maps the page as the access needs it, and the same fault
would be resolved again without doing anything. That is why the loop in which the kernel looks for the
frame behind a user address ends, although nothing in it counts: it looks at most twice. The loop of a
copy ends because each of its rounds copies a byte at least.
-/

namespace DemandPaging

open Machine

variable {config : Config}

/-! ## Resolved faults -/

namespace Machine

variable {machine later : Machine config} {key : SpaceKey} {fault : PageFault}

/-- After a fault the hardware maps its page as the access needs it, and the fault would change nothing if
it came again. -/
structure Settled (key : SpaceKey) (fault : PageFault) (machine : Machine config) : Prop where
  mapped : ∃ entry, machine.mapped? key (fault.address.page config) = some entry ∧
    entry.flags.valid = true ∧ entry.flags.user = true ∧
    (fault.cause.write = true → entry.flags.writable = true)
  again : KernelAction.handleFault key fault machine = .done () machine

/-- A resolved fault leaves a resident page on which the access is permitted. -/
theorem Resolves.resident_of_ok (resolves : Resolves key fault machine (.ok ()) later)
    (fits : machine.Fits) :
    fault.IsNamed config ∧ fault.cause.notPresent = true ∧
      ∃ page frame, later.page? key (fault.address.page config) = some page ∧
        page.frame = some frame ∧ ¬ fault.IsForbidden config page := by
  generalize ok : Except.ok () = result at resolves
  cases resolves with
  | unnamed | present | unmapped | forbidden | unloadable => cases ok
  | grown named missing _ adds =>
    obtain ⟨frame, registered, -, -⟩ := adds.added
    exact ⟨named, missing, _, frame, registered, rfl, fun forbidden => nomatch forbidden.2⟩
  | resident named missing found permitted holds =>
    exact ⟨named, missing, _, _, found, holds, permitted⟩
  | loaded named missing found permitted absent loads =>
    have numbered := fits.number_eq found
    obtain ⟨kind, frame, resident, -⟩ := loads.settled (numbered ▸ found) absent
    rw [numbered] at resident
    exact ⟨named, missing, _, frame, resident, rfl, permitted⟩

end Machine

namespace KernelAction

variable {machine later : Machine config} {key : SpaceKey} {fault : PageFault}

/-- Where the page is resident and the access permitted, a fault is resolved at once. -/
theorem handleFault_of_resident {page : Page config} {frame : FrameNumber}
    (named : fault.IsNamed config) (missing : fault.cause.notPresent = true)
    (found : machine.page? key (fault.address.page config) = some page)
    (holds : page.frame = some frame) (permitted : ¬ fault.IsForbidden config page) :
    handleFault key fault machine = .done () machine := by
  have there : (machine.space key).pages.get? (fault.address.page config) = some page := found
  have nameable : fault.address.isNameable config = true := VirtualAddress.isNameable_iff.mpr named
  have allowed : (!fault.cause.write || page.writable) = true := by
    simpa [PageFault.IsForbidden, imp_iff_not_or] using permitted
  have resident : page.isResident = true := by simp [Page.isResident, holds]
  simp only [handleFault, Action.bind_apply, Action.require, space, Action.view_apply, nameable, missing,
    there, allowed, resident, if_true, Action.value_apply, Action.pure_apply]

/-- A fault that was resolved is settled. -/
theorem settled_of_handleFault (atRest : machine.AtRest)
    (spaceExists : (machine.spaces.get? key).isSome)
    (done : handleFault key fault machine = .done () later) : later.Settled key fault := by
  have resolves := (handleFault_resolves atRest spaceExists fault).of_done done
  obtain ⟨accessed, -⟩ := (handleFault_ends atRest spaceExists fault).of_done done
  have fits := (accessed.passes atRest).atRest.consistent.fits
  obtain ⟨named, missing, page, frame, found, holds, permitted⟩ :=
    resolves.resident_of_ok atRest.consistent.fits
  obtain ⟨-, dirty, mapped⟩ := fits.entry_of_resident found holds
  refine ⟨⟨_, mapped, rfl, rfl, fun write => ?_⟩,
    handleFault_of_resident named missing found holds permitted⟩
  cases writable : page.writable with
  | true => rfl
  | false => exact absurd ⟨write, writable⟩ permitted

end KernelAction

/-! ## The loop of an access -/

namespace KernelAction

variable {machine : Machine config} {key : SpaceKey} {address : VirtualAddress} {write : Bool}
  {bound : Nat}

/-- Where the page is mapped, a look-up finds its frame, unless the access writes and the page
forbids it. -/
theorem frameWithin_of_mapped {entry : PageTableEntry}
    (mapped : machine.mapped? key (address.page config) = some entry) :
    frameWithin key address write (bound + 1) machine =
      if !write || entry.flags.writable then .done entry.frame machine
      else .failed .accessViolation machine := by
  have there : (machine.space key).pageTable.get? (address.page config) = some entry := mapped
  simp only [frameWithin, Action.bind_apply, space, Action.view_apply, there, Action.require]
  cases !write || entry.flags.writable <;> rfl

/-- Where the page is not mapped, a fault is resolved before the next look-up. -/
theorem frameWithin_of_unmapped (unmapped : machine.mapped? key (address.page config) = none) :
    frameWithin key address write (bound + 1) machine =
      (do handleFault key (.ofKernel address write); frameWithin key address write bound :
        KernelAction config FrameNumber) machine := by
  have absent : (machine.space key).pageTable.get? (address.page config) = none := unmapped
  simp only [frameWithin, Action.bind_apply, space, Action.view_apply, absent]

end KernelAction

/-- The loop in which the kernel looks for the frame behind a user address: it looks the page up in the
page table, and where there is no entry it resolves a fault and looks again. The loop has no bound;
`lookups` counts how often it has looked when it ends with `outcome`. -/
inductive AccessLoop (key : SpaceKey) (address : VirtualAddress) (write : Bool) :
    Machine config → (lookups : Nat) → (outcome : Outcome (Machine config) FrameNumber) → Prop where
  | found {machine : Machine config} {entry : PageTableEntry}
      (mapped : machine.mapped? key (address.page config) = some entry)
      (permitted : write = true → entry.flags.writable = true) :
    AccessLoop key address write machine 1 (.done entry.frame machine)
  | forbidden {machine : Machine config} {entry : PageTableEntry}
      (mapped : machine.mapped? key (address.page config) = some entry) (writes : write = true)
      (readOnly : entry.flags.writable = false) :
    AccessLoop key address write machine 1 (.failed .accessViolation machine)
  | failed {machine later : Machine config} {error : VmError}
      (unmapped : machine.mapped? key (address.page config) = none)
      (faults : KernelAction.handleFault key (.ofKernel address write) machine = .failed error later) :
    AccessLoop key address write machine 1 (.failed error later)
  | panicked {machine later : Machine config} {panic : Panic}
      (unmapped : machine.mapped? key (address.page config) = none)
      (faults : KernelAction.handleFault key (.ofKernel address write) machine =
        .panicked panic later) :
    AccessLoop key address write machine 1 (.panicked panic later)
  | again {machine middle : Machine config} {lookups : Nat}
      {outcome : Outcome (Machine config) FrameNumber}
      (unmapped : machine.mapped? key (address.page config) = none)
      (faults : KernelAction.handleFault key (.ofKernel address write) machine = .done () middle)
      (goesOn : AccessLoop key address write middle lookups outcome) :
    AccessLoop key address write machine (lookups + 1) outcome

namespace AccessLoop

variable {machine : Machine config} {key : SpaceKey} {address : VirtualAddress} {write : Bool}
  {lookups : Nat} {outcome : Outcome (Machine config) FrameNumber}

/-- A loop that ends within a number of look-ups ends as the search that is bounded by that number. -/
theorem frameWithin_eq (loop : AccessLoop key address write machine lookups outcome) {bound : Nat}
    (enough : lookups ≤ bound) : KernelAction.frameWithin key address write bound machine = outcome := by
  induction loop generalizing bound with
  | found mapped permitted =>
    obtain ⟨bound, rfl⟩ := Nat.exists_eq_add_of_le' enough
    rw [KernelAction.frameWithin_of_mapped mapped, if_pos]
    simpa [imp_iff_not_or] using permitted
  | forbidden mapped writes readOnly =>
    obtain ⟨bound, rfl⟩ := Nat.exists_eq_add_of_le' enough
    rw [KernelAction.frameWithin_of_mapped mapped, if_neg]
    simp [writes, readOnly]
  | failed unmapped faults | panicked unmapped faults =>
    obtain ⟨bound, rfl⟩ := Nat.exists_eq_add_of_le' enough
    rw [KernelAction.frameWithin_of_unmapped unmapped, Action.bind_apply, faults]
  | again unmapped faults _ inductionHypothesis =>
    obtain ⟨rest, rfl⟩ := Nat.exists_eq_add_of_le' enough
    rw [← Nat.add_assoc, KernelAction.frameWithin_of_unmapped unmapped, Action.bind_of_done faults]
    exact inductionHypothesis (Nat.le_add_left _ _)

/-- The loop takes one course. -/
theorem unique {lookups' : Nat} {outcome' : Outcome (Machine config) FrameNumber}
    (loop : AccessLoop key address write machine lookups outcome)
    (loop' : AccessLoop key address write machine lookups' outcome') :
    lookups' = lookups ∧ outcome' = outcome := by
  constructor
  · induction loop generalizing lookups' with
    | found mapped | forbidden mapped => cases loop' <;> simp_all
    | failed unmapped faults | panicked unmapped faults => cases loop' <;> simp_all
    | again unmapped faults _ inductionHypothesis =>
      cases loop' with
      | found mapped | forbidden mapped => cases unmapped.symm.trans mapped
      | failed _ faults' | panicked _ faults' => cases faults.symm.trans faults'
      | again _ faults' goesOn =>
        cases faults.symm.trans faults'
        rw [inductionHypothesis goesOn]
  · rw [← loop.frameWithin_eq (Nat.le_max_left lookups lookups'),
      ← loop'.frameWithin_eq (Nat.le_max_right lookups lookups')]

/-- An entry ends the loop. -/
theorem exists_of_mapped {entry : PageTableEntry}
    (mapped : machine.mapped? key (address.page config) = some entry) (write : Bool) :
    ∃ outcome, AccessLoop key address write machine 1 outcome := by
  cases asked : write with
  | false => exact ⟨_, .found mapped nofun⟩
  | true =>
    cases writable : entry.flags.writable with
    | true => exact ⟨_, .found mapped fun _ => writable⟩
    | false => exact ⟨_, .forbidden mapped rfl writable⟩

/-- The loop ends when it has looked twice: the fault between the two look-ups was resolved. -/
theorem exists_of_atRest (atRest : machine.AtRest) (spaceExists : (machine.spaces.get? key).isSome)
    (address : VirtualAddress) (write : Bool) :
    ∃ lookups ≤ 2, ∃ outcome, AccessLoop key address write machine lookups outcome := by
  cases mapped : machine.mapped? key (address.page config) with
  | some entry =>
    obtain ⟨outcome, loop⟩ := exists_of_mapped mapped write
    exact ⟨1, by decide, outcome, loop⟩
  | none =>
    cases faults : KernelAction.handleFault key (.ofKernel address write) machine with
    | failed error later => exact ⟨1, by decide, _, .failed mapped faults⟩
    | panicked panic later => exact ⟨1, by decide, _, .panicked mapped faults⟩
    | done value middle =>
      obtain ⟨entry, mappedNow, -⟩ :=
        (KernelAction.settled_of_handleFault atRest spaceExists faults).mapped
      obtain ⟨outcome, loop⟩ := exists_of_mapped mappedNow write
      exact ⟨2, by decide, outcome, .again mapped faults loop⟩

end AccessLoop

/-! ## Rounds of a copy -/

namespace Chunk

/-- The rounds of the loop of a copy that begins at `base`, once some bytes have been copied: every round
copies up to the end of a page or of the copy. -/
inductive Rounds (config : Config) (base length : Nat) : (copied : Nat) → List Chunk → Prop where
  | finished {copied : Nat} (all : length ≤ copied) : Rounds config base length copied []
  | round {copied advance : Nat} {rest : List Chunk} (more : copied < length)
      (advances : advance =
        min (config.pageSize - (base + copied) % config.pageSize) (length - copied))
      (goesOn : Rounds config base length (copied + advance) rest) :
    Rounds config base length copied ({ start := copied, stop := copied + advance } :: rest)

namespace Rounds

variable {base length copied : Nat} {chunks : List Chunk}

/-- Every round copies a byte at least. -/
theorem advances (rounds : Rounds config base length copied chunks) :
    ∀ chunk ∈ chunks, chunk.start < chunk.stop := by
  induction rounds with
  | finished => exact fun _ listed => absurd listed List.not_mem_nil
  | @round copied advance _ more advances _ inductionHypothesis =>
    have within := Nat.mod_lt (base + copied) config.pageSize_pos
    refine List.forall_mem_cons.mpr ⟨?_, inductionHypothesis⟩
    show copied < copied + advance
    omega

/-- There are no more rounds than bytes. -/
theorem length_le (rounds : Rounds config base length copied chunks) :
    chunks.length ≤ length - copied := by
  induction rounds with
  | finished => exact Nat.zero_le _
  | @round copied advance _ more advances _ inductionHypothesis =>
    have within := Nat.mod_lt (base + copied) config.pageSize_pos
    rw [List.length_cons]
    omega

end Rounds

variable {base length index : Nat}

/-- The chunk of a page is what a round copies that begins where the copy enters the page. -/
theorem entry_succ (inside : index < pageCount config base length) :
    entry config base length (index + 1) = entry config base length index +
      min (config.pageSize - (base + entry config base length index) % config.pageSize)
        (length - entry config base length index) := by
  obtain ⟨grows, ends, low, high, _, last⟩ := entry_bounds inside
  have parts := Nat.div_add_mod' (base + entry config base length index) config.pageSize
  rw [div_of_mem inside (Nat.le_refl _) grows] at parts
  by_cases final : entry config base length (index + 1) < length
  · have whole := last final
    omega
  · omega

/-- The chunks of a copy are the rounds of its loop. -/
theorem rounds_ofCopyFrom (config : Config) (base length : Nat) {count : Nat}
    (whole : index + count = pageCount config base length) :
    Rounds config base length (entry config base length index)
      (ofCopyFrom config base length index count) := by
  induction count generalizing index with
  | zero =>
    obtain rfl : index = pageCount config base length := whole
    rw [entry_last]
    exact .finished (Nat.le_refl _)
  | succ count inductionHypothesis =>
    have inside : index < pageCount config base length := by omega
    have grows := (entry_bounds inside).1
    have ends := (entry_bounds inside).2.1
    have rest : index + 1 + count = pageCount config base length := by omega
    have next := inductionHypothesis rest
    rw [ofCopyFrom_succ, ofIndex]
    rw [entry_succ inside] at next ⊢
    exact .round (by omega) rfl next

/-- The chunks of a copy are rounds that each copy a byte at least. -/
theorem rounds_ofCopy (config : Config) (base : VirtualAddress) (length : Nat) :
    Rounds config base.word.toNat length 0
      (ofCopy config (base.pageOffset config).toNat length) := by
  have rounds := rounds_ofCopyFrom config base.word.toNat length (Nat.zero_add _)
  rwa [entry_zero, ← ofCopy_eq, ← VirtualAddress.toNat_pageOffset] at rounds

end Chunk

/-! ## Along a run -/

namespace Machine

/-- How an access of the kernel to user memory ends. An address that is none of user memory is refused
before anything is looked up; otherwise the loop takes one course, which ends after two look-ups at most,
and only because no frame can be had does it stop the kernel. -/
structure EndsAccess (key : SpaceKey) (address : VirtualAddress) (write : Bool)
    (machine : Machine config) : Prop where
  unnamed : address.isNameable config = false →
    KernelAction.accessFrame key address write machine = .failed .invalidAddress machine
  named : address.isNameable config = true → ∃ lookups ≤ 2, ∀ count outcome,
    AccessLoop key address write machine count outcome ↔
      count = lookups ∧ outcome = KernelAction.accessFrame key address write machine
  panics : ∀ panic later,
    KernelAction.accessFrame key address write machine = .panicked panic later → panic.IsExhaustion

/-- How copies between the kernel and user memory end that begin at an address: they return, unless no
frame can be had, after rounds each of which copies a byte at least. -/
structure EndsCopies (key : SpaceKey) (base : VirtualAddress) (machine : Machine config) : Prop where
  rounds : ∀ length, Chunk.Rounds config base.word.toNat length 0
    (Chunk.ofCopy config (base.pageOffset config).toNat length)
  advances : ∀ length, ∀ chunk ∈ Chunk.ofCopy config (base.pageOffset config).toNat length,
    chunk.start < chunk.stop
  few : ∀ length, (Chunk.ofCopy config (base.pageOffset config).toNat length).length ≤ length
  reads : ∀ buffer, (KernelAction.copyFromUser key base buffer).Ends machine
    (fun _ _ => True) (fun _ _ => False)
  writes : ∀ bytes, (KernelAction.copyToUser key base bytes).Ends machine
    (fun _ _ => True) (fun _ _ => True)

variable {machine : Machine config} {key : SpaceKey}

/-- Between operations, every access to a space that exists comes to an end. -/
theorem AtRest.endsAccess (atRest : machine.AtRest) (spaceExists : (machine.spaces.get? key).isSome)
    (address : VirtualAddress) (write : Bool) : EndsAccess key address write machine where
  unnamed unnamed := by
    simp only [KernelAction.accessFrame, Action.bind_apply, Action.require, unnamed]
    rfl
  named named := by
    obtain ⟨lookups, few, outcome, loop⟩ :=
      AccessLoop.exists_of_atRest atRest spaceExists address write
    have accesses : KernelAction.accessFrame key address write machine = outcome := by
      rw [← loop.frameWithin_eq few, KernelAction.accessFrame, Action.require, if_pos named]
      rfl
    refine ⟨lookups, few, fun count other => ⟨fun loop' => ?_, ?_⟩⟩
    · rw [accesses]
      exact loop.unique loop'
    · rintro ⟨rfl, rfl⟩
      rwa [accesses]
  panics := (Action.ends_iff.mp
    (KernelAction.accessFrame_ends atRest spaceExists address write)).2.2

/-- Between operations, every copy to or from a space that exists comes to an end. -/
theorem AtRest.endsCopies (atRest : machine.AtRest) (spaceExists : (machine.spaces.get? key).isSome)
    (base : VirtualAddress) : EndsCopies key base machine where
  rounds := Chunk.rounds_ofCopy config base
  advances length := (Chunk.rounds_ofCopy config base length).advances
  few length := (Chunk.rounds_ofCopy config base length).length_le
  reads buffer := (KernelAction.copyFromUser_ends atRest spaceExists buffer).mono
    (fun _ _ _ => trivial) (fun _ _ => id)
  writes bytes := (KernelAction.copyToUser_ends atRest spaceExists bytes).mono
    (fun _ _ _ => trivial) (fun _ _ _ => trivial)

end Machine

/-- A fault that was resolved does not recur, so every access of the kernel to user memory ends, in every
machine that a copy comes through, and so does every copy. -/
theorem Run.faults_settle {frames slots : Nat} {log : OperationLog config} {machine : Machine config}
    (run : Run (.boot config frames slots) log machine) {key : SpaceKey}
    (spaceExists : (machine.spaces.get? key).isSome) :
    (∀ fault later, KernelAction.handleFault key fault machine = .done () later →
      later.Settled key fault) ∧
    (∀ current, Passes (Transition.Copies key) machine current → ∀ address write,
      current.EndsAccess key address write) ∧
    ∀ base, machine.EndsCopies key base := by
  refine ⟨fun fault later done => ?_, fun current passes address write => ?_, fun base => ?_⟩
  · exact KernelAction.settled_of_handleFault run.atRest spaceExists done
  · have still := (passes.isSome_eq (fun _ => Transition.Copies.keepsSpaces) key).trans spaceExists
    exact passes.atRest.endsAccess still address write
  · exact run.atRest.endsCopies spaceExists base

/-- After the program has forked, a fault of the child is resolved at the cost of another page and does not
recur. -/
theorem Run.faults_settle_crowded :
    let child : SpaceKey := ⟨.main, ⟨2⟩⟩
    let fault : PageFault := ⟨⟨6⟩, { write := true, notPresent := true }, ⟨0⟩⟩
    ∃ log machine later, performAll crowdedProgram (.boot .small 3 8) = some (log, machine) ∧
      (machine.spaces.get? child).isSome ∧
      KernelAction.handleFault child fault machine = .done () later ∧
      machine.mainTable.evictions < later.mainTable.evictions ∧ later.Settled child fault ∧
      machine.EndsAccess child ⟨6⟩ true ∧ machine.EndsCopies child ⟨6⟩ := by
  intro child fault
  have performed : ((performAll crowdedProgram (.boot .small 3 8)).any fun (_, machine) =>
      (machine.spaces.get? child).isSome &&
        (KernelAction.handleFault child fault machine).done?.any fun later =>
          machine.mainTable.evictions < later.mainTable.evictions) = true := by
    decide +kernel
  obtain ⟨⟨log, machine⟩, outcome, checked⟩ := (Option.any_eq_true _ _).mp performed
  obtain ⟨spaceExists, resolved⟩ := Bool.and_eq_true_iff.mp checked
  obtain ⟨later, done, evicts⟩ := (Option.any_eq_true _ _).mp resolved
  obtain ⟨value, done⟩ := Outcome.exists_of_done? done
  have run : Run (.boot .small 3 8) log machine := Run.nil.append outcome
  obtain ⟨settles, accesses, copies⟩ := run.faults_settle spaceExists
  exact ⟨log, machine, later, outcome, spaceExists, done, of_decide_eq_true evicts,
    settles fault later done, accesses machine (.refl run.atRest) _ _, copies _⟩

end DemandPaging
