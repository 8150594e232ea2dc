import DemandPaging.Proofs.UserCopy.Prefix

/-!
# Copies to user memory and back

A copy that comes back with an error has transferred the bytes before one page, as a copy of those
bytes alone would have, and the error is that of this page. What was copied to anonymous pages comes
back as it was, however few frames there are.
-/

namespace DemandPaging

open Machine Chunk

variable {config : Config}

/-! ## From chunk to chunk -/

namespace Chunk

/-- The chunks of a copy up to a page are those before it and its own. -/
theorem ofCopyFrom_concat (base length index : Nat) :
    ofCopyFrom config base length 0 (index + 1) =
      ofCopyFrom config base length 0 index ++ [ofIndex config base length index] := by
  rw [ofCopyFrom_append, Nat.zero_add]
  rfl

end Chunk

namespace KernelAction

variable {key : SpaceKey} {base : VirtualAddress} {buffer filled bytes : Bytes}
  {machine middle later : Machine config} {index : Nat} {error : VmError}

/-- The space of a copy does not disappear on the way. -/
theorem isSome_of_consults (passes : Passes (Transition.Consults key) machine later)
    (spaceExists : (machine.spaces.get? key).isSome) : (later.spaces.get? key).isSome :=
  (passes.isSome_eq (fun _ ⟨_, accesses⟩ => accesses.keepsSpaces) key).trans spaceExists

/-- The space of a copy does not disappear on the way. -/
theorem isSome_of_storesWithin {first stop : Nat}
    (passes : Passes (Transition.StoresWithin key first stop) machine later)
    (spaceExists : (machine.spaces.get? key).isSome) : (later.spaces.get? key).isSome := by
  refine (passes.isSome_eq ?_ key).trans spaceExists
  rintro _ (⟨_, accesses⟩ | ⟨_, _, _, rfl, _⟩)
  · exact accesses.keepsSpaces
  · exact trivial

/-- The chunks that were read have filled the bytes before the next. -/
theorem fillsPrefix_of_readChunks
    (inside : index ≤ pageCount config base.word.toNat buffer.size) (atRest : machine.AtRest)
    (spaceExists : (machine.spaces.get? key).isSome)
    (done : readChunks key base buffer (ofCopyFrom config base.word.toNat buffer.size 0 index) machine =
      .done (filled, .ok ()) later) :
    Starts config base buffer.size index ∧
      FillsPrefix key base buffer (entry config base.word.toNat buffer.size index) machine filled
        later := by
  induction index generalizing filled later with
  | zero =>
    cases done
    rw [entry_zero]
    exact ⟨.zero base _, .zero atRest⟩
  | succ index inductionHypothesis =>
    rw [ofCopyFrom_concat] at done
    obtain ⟨before, middle, piece, earlier, read, rfl⟩ := readChunks_concat done
    obtain ⟨starts, fills⟩ := inductionHypothesis (by omega) earlier
    obtain ⟨address, page, frame, within, nameable, accessed, found, resident, rfl⟩ :=
      (readChunk_ends fills.passes.atRest (isSome_of_consults fills.passes spaceExists) base _).of_done
        read
    exact ⟨starts.next inside within nameable,
      fills.chunk starts inside within nameable accessed found resident⟩

/-- The chunks that were written have stored the bytes before the next. -/
theorem storesPrefix_of_writeChunks
    (inside : index ≤ pageCount config base.word.toNat bytes.size) (atRest : machine.AtRest)
    (spaceExists : (machine.spaces.get? key).isSome)
    (done : Action.forEach (writeChunk key base bytes)
      (ofCopyFrom config base.word.toNat bytes.size 0 index) machine = .done () later) :
    Starts config base bytes.size index ∧
      StoresPrefix key base bytes (entry config base.word.toNat bytes.size index) machine later := by
  induction index generalizing later with
  | zero =>
    cases done
    rw [entry_zero]
    exact ⟨.zero base _, .zero atRest⟩
  | succ index inductionHypothesis =>
    rw [ofCopyFrom_concat] at done
    obtain ⟨middle, earlier, last⟩ := Action.forEach_append_eq_done.mp done
    obtain ⟨_, written, ended⟩ := Action.forEach_cons_eq_done.mp last
    cases ended
    obtain ⟨starts, stores⟩ := inductionHypothesis (by omega) earlier
    obtain ⟨address, ready, within, nameable, accessed, leads⟩ :=
      (writeChunk_ends stores.passes.atRest (isSome_of_storesWithin stores.passes spaceExists) base bytes
        _).of_done written
    obtain ⟨own, chunk⟩ :=
      storesChunk_of_store stores.passes.atRest starts inside within accessed leads
    exact ⟨starts.next inside within nameable, stores.chunk starts inside within nameable chunk⟩

/-! ## Whole copies -/

/-- Where reading a chunk fails, the copy stops for one of the reasons of `StopsCopy`. -/
theorem stopsCopy_of_readChunk (starts : Starts config base buffer.size index) (atRest : machine.AtRest)
    (spaceExists : (machine.spaces.get? key).isSome)
    (failed : readChunk key base (ofIndex config base.word.toNat buffer.size index) machine =
      .failed error later) :
    StopsCopy key base (entry config base.word.toNat buffer.size index) false machine error later := by
  refine stopsCopy_of_chunk ?_ starts atRest spaceExists failed
  exact fun _ _ _ _ _ => nofun

/-- Where writing a chunk fails, the copy stops for one of the reasons of `StopsCopy`. -/
theorem stopsCopy_of_writeChunk (starts : Starts config base bytes.size index) (atRest : machine.AtRest)
    (spaceExists : (machine.spaces.get? key).isSome)
    (failed : writeChunk key base bytes (ofIndex config base.word.toNat bytes.size index) machine =
      .failed error later) :
    StopsCopy key base (entry config base.word.toNat bytes.size index) true machine error later := by
  refine stopsCopy_of_chunk ?_ starts atRest spaceExists failed
  exact fun _ _ _ _ _ => nofun

/-- A copy from user memory fills a prefix of its buffer. If that is not all of it, it does what a copy
of the prefix does and stops at the page that comes next. -/
theorem copyFromUser_fillsPrefix (atRest : machine.AtRest)
    (spaceExists : (machine.spaces.get? key).isSome) (base : VirtualAddress) (buffer : Bytes) :
    (copyFromUser key base buffer).Ends machine
      (fun returned later => ∃ reached, StopsAt config base buffer.size reached returned.2 ∧
        FillsPrefix key base buffer reached machine returned.1 later ∧
        ∀ error, returned.2 = .error error → ∃ middle,
          copyFromUser key base (buffer.extract 0 reached) machine =
            .done (returned.1.extract 0 reached, .ok ()) middle ∧
          StopsCopy key base reached false middle error later)
      (fun _ _ => False) := by
  refine (copyFromUser_ends atRest spaceExists buffer).outcome.mono ?_ (fun _ _ => And.right)
  rintro ⟨filled, result⟩ later ⟨done, -⟩
  rw [copyFromUser_eq] at done
  cases result with
  | ok value =>
    obtain ⟨-, fills⟩ := fillsPrefix_of_readChunks (Nat.le_refl _) atRest spaceExists done
    rw [entry_last] at fills
    exact ⟨buffer.size, rfl, fills, nofun⟩
  | error error =>
    obtain ⟨index, inside, middle, earlier, stopped⟩ := exists_of_readChunks_error done
    rw [getElem_ofCopyFrom, Nat.zero_add] at stopped
    rw [length_ofCopyFrom] at inside
    rw [take_ofCopyFrom (Nat.le_of_lt inside)] at earlier
    obtain ⟨starts, fills⟩ :=
      fillsPrefix_of_readChunks (Nat.le_of_lt inside) atRest spaceExists earlier
    have still := isSome_of_consults fills.passes spaceExists
    obtain ⟨number, denied⟩ := (readChunk_ends fills.passes.atRest still base _).of_failed stopped
    refine ⟨_, .denied inside, fills.denied denied, ?_⟩
    rintro _ ⟨⟩
    exact ⟨middle, copyFromUser_extract (Nat.le_of_lt inside) earlier,
      stopsCopy_of_readChunk starts fills.passes.atRest still stopped⟩

/-- A copy to user memory stores all of its bytes. -/
theorem storesPrefix_of_copyToUser (atRest : machine.AtRest)
    (spaceExists : (machine.spaces.get? key).isSome)
    (done : copyToUser key base bytes machine = .done () later) :
    StoresPrefix key base bytes bytes.size machine later := by
  rw [copyToUser_eq] at done
  obtain ⟨-, stores⟩ := storesPrefix_of_writeChunks (Nat.le_refl _) atRest spaceExists done
  rwa [entry_last] at stores

/-- A copy to user memory that fails has stored a prefix of its bytes, has done so as a copy of the prefix
does, and stops at the page that comes next. -/
theorem storesPrefix_of_copyToUser_failed (atRest : machine.AtRest)
    (spaceExists : (machine.spaces.get? key).isSome)
    (failed : copyToUser key base bytes machine = .failed error later) :
    ∃ reached middle, StopsAt config base bytes.size reached (.error error) ∧
      StoresPrefix key base bytes reached machine later ∧
      copyToUser key base (bytes.extract 0 reached) machine = .done () middle ∧
      StopsCopy key base reached true middle error later := by
  rw [copyToUser_eq] at failed
  obtain ⟨index, inside, middle, earlier, stopped⟩ := Action.exists_of_forEach_failed failed
  rw [getElem_ofCopyFrom, Nat.zero_add] at stopped
  rw [length_ofCopyFrom] at inside
  rw [take_ofCopyFrom (Nat.le_of_lt inside)] at earlier
  obtain ⟨starts, stores⟩ :=
    storesPrefix_of_writeChunks (Nat.le_of_lt inside) atRest spaceExists earlier
  have still := isSome_of_storesWithin stores.passes spaceExists
  obtain ⟨number, denied⟩ := (writeChunk_ends stores.passes.atRest still base bytes _).of_failed stopped
  refine ⟨_, middle, .denied inside, stores.denied denied, ?_,
    stopsCopy_of_writeChunk starts stores.passes.atRest still stopped⟩
  rw [copyToUser_extract (Nat.le_of_lt inside)]
  exact earlier

end KernelAction

/-! ## Reading back what was written -/

/-- No read of the swap device fails, whenever it is made. -/
def SwapFaults.SpareReads (faults : SwapFaults) : Prop :=
  ∀ moment, (faults.inForce moment).read = none

/-- The failures of the swap device are those that were set for it. -/
theorem Transition.Leads.swapFaults_eq {transition : Transition config} {machine next : Machine config}
    (leads : transition.Leads machine next) (consistent : machine.Consistent)
    (unset : transition ≠ .setSwapFaults) :
    next.environment.swap.faults = machine.environment.swap.faults := by
  have kept := leads.environment_eq
  cases leads with
  | setFile | createFile | listInitializer => rfl
  | setSwapFaults => exact absurd rfl unset
  | @evict _ _ page frame _ _ _ _ _ found resident stored =>
    have became := consistent.fits.stored found resident stored
    rw [environment_vacate]
    rw [environment_beforeStore] at became
    generalize page.kind = earlier at became
    cases became with
    | blank | clean | toSlot => rfl
    | @toFile backing =>
      split
      · rfl
      · exact congrArg SwapDevice.faults
          (backing.sameBut_writtenBack (machine.frameBytes frame) _).swap
  | @load _ _ page _ _ _ _ _ _ loaded =>
    rw [environment_settleLoaded]
    have became := (PageKind.load_ends _ _ _).of_done loaded
    generalize page.kind = earlier at became
    cases became with
    | fromSlot | blank => rfl
    | fromFile _ same | first _ _ same => exact congrArg SwapDevice.faults same.swap
  | spoil _ _ _ failed =>
    exact congrArg SwapDevice.faults ((PageKind.load_ends _ _ _).of_failed failed).1.swap
  | discard found _ ended =>
    rw [(PageKind.discard_absent_ends _ _ (consistent.slots.allocated found)).of_done ended]
    split <;> rfl
  | discardResident found resident ended =>
    have isLoaded := consistent.fits.isLoaded found resident
    rw [environment_endResident, PageKind.swap_of_discard_resident isLoaded ended]
  | _ => rw [kept trivial]

/-- Only outsiders change when swap operations fail. -/
theorem Passes.swapFaults_eq {permits : Transition config → Prop} {machine later : Machine config}
    (passes : Passes permits machine later) (consistent : machine.Consistent)
    (unset : ¬ permits .setSwapFaults) :
    later.environment.swap.faults = machine.environment.swap.faults := by
  have path := passes.path
  clear passes
  induction path with
  | refl => rfl
  | step prior leads permitted inductionHypothesis =>
    refine (leads.swapFaults_eq (prior.consistent consistent) ?_).trans inductionHypothesis
    rintro rfl
    exact unset permitted

theorem Transition.not_consults_setSwapFaults (key : SpaceKey) :
    ¬ (Transition.setSwapFaults : Transition config).Consults key := by
  rintro ⟨number, (quiet | ⟨frame, same⟩) | same | same⟩
  · exact quiet
  · cases same
  · cases same
  · cases same

theorem Transition.not_storesWithin_setSwapFaults (key : SpaceKey) (first stop : Nat) :
    ¬ (Transition.setSwapFaults : Transition config).StoresWithin key first stop := by
  rintro (consults | ⟨_, _, _, same, _⟩)
  · exact not_consults_setSwapFaults key consults
  · cases same

namespace Machine

variable {key : SpaceKey} {base : VirtualAddress} {bytes : Bytes} {number : PageNumber}
  {machine middle later : Machine config} {error : VmError}

/-- An anonymous page that has been loaded before can be loaded while the swap device can be read. -/
theorem FailsToLoad.swapRead_fails {page : Page config} {slot : Option SwapSlot}
    (fails : FailsToLoad key page error machine later) (consistent : machine.Consistent)
    (found : machine.page? key page.number = some page) (absent : page.frame = none)
    (kind : page.kind = .anonymous slot) : ¬ machine.environment.swap.faults.SpareReads := by
  obtain @⟨acquire, frame, ready, _, -, acquires, acquired, failed⟩ := fails
  have sameFaults : ready.environment.swap.faults = machine.environment.swap.faults := by
    refine acquired.swapFaults_eq consistent ?_
    rintro rfl
    cases acquires
  have cannotLoad := ((PageKind.load_fails _ _ _).of_failed failed).of_record rfl
  rw [kind] at cannotLoad
  cases cannotLoad with
  | @slot slot code read =>
    have keeps : page.kind.slot? = some slot := by rw [kind]; rfl
    obtain ⟨content, written⟩ := consistent.slots.written ((slot?_of_found found).trans keeps)
    rw [← stored?_of_acquires acquires acquired consistent found absent keeps] at written
    have failing := SwapDevice.read_fails_of_error written read
    intro spared
    rw [← sameFaults] at spared
    cases (spared _).symm.trans failing
  | file uses => cases uses
  | initializer waits => cases waits

/-- The pages to which a copy has stored its bytes have content, if none of them is a page of a file. -/
theorem WritesChunks.exists_content
    (writes : WritesChunks key base bytes
      (ofCopy config (base.pageOffset config).toNat bytes.size) machine (.ok ()) later)
    (atRest : machine.AtRest)
    (anonymous : ∀ page, machine.page? key number = some page → page.kind.backing? = none)
    (touched : number.IsTouched config base.word.toNat 0 bytes.size) :
    ∃ content, later.content? key number = some content := by
  rw [VirtualAddress.toNat_pageOffset, ofCopy_eq] at writes
  obtain ⟨reached, -, -, rfl, visits⟩ := writes.stores (Nat.zero_add _) (.zero base _) atRest
  rw [entry_zero] at visits
  obtain ⟨page, uses, became⟩ := visits.visited number touched
  have own : page ≠ .foreign := by
    rintro rfl
    generalize before : machine.flat.page? key number = flat at uses
    cases uses
    cases found : machine.page? key number with
    | none =>
      rw [flat_page?_of_vacant found] at before
      cases before
    | some page =>
      rw [flat_page?_of_found found] at before
      have fileless := anonymous page found
      match kindIs : page.kind with
      | .unloaded .anonymous _ =>
        rw [flatPage_of_pending kindIs] at before
        cases before
      | .anonymous _ =>
        rw [flatPage_of_anonymous kindIs] at before
        cases before
      | .unloaded (.file _) _ | .file _ =>
        rw [kindIs] at fileless
        cases fileless
  match page, uses.isUsed, own with
  | .present content, _, _ => exact ⟨_, content?_eq_some_iff.mpr became⟩
  | .pending initializer, isUsed, _ => exact absurd rfl (isUsed initializer)
  | .foreign, _, own => exact absurd rfl own

end Machine

namespace KernelAction

variable {key : SpaceKey} {base : VirtualAddress} {buffer bytes : Bytes}
  {machine stored middle later : Machine config} {reached : Nat} {error : VmError}

/-- A copy from pages with content goes through unless the swap device cannot be read. -/
theorem swapRead_fails_of_stopsCopy (atRest : middle.AtRest)
    (stops : StopsCopy key base reached false middle error later)
    (named : 0 < base.word.toNat + reached ∧ base.word.toNat + reached < config.userEnd.toNat)
    (contents : ∀ number : PageNumber, (base.word.toNat + reached) / config.pageSize =
      number.word.toNat → ∃ content, middle.content? key number = some content) :
    ¬ middle.environment.swap.faults.SpareReads := by
  cases stops with
  | wraps beyond =>
    have bounded : config.userEnd.toNat < Word.modulus := Word.toNat_lt_modulus _
    omega
  | unnamed here unnamed => omega
  | forbidden _ _ _ writes => cases writes
  | @unresolved address error _ here isNamed unmapped refused =>
    obtain ⟨content, has⟩ := contents (address.page config) (by rw [VirtualAddress.toNat_page, here])
    have consistent := atRest.consistent
    rw [content?] at has
    obtain ⟨page, found, shows⟩ := Option.bind_eq_some_iff.mp has
    have numbered := consistent.fits.number_eq found
    have absent : page.frame = none := by
      cases resident : page.frame with
      | none => rfl
      | some frame =>
        obtain ⟨_, _, mapped⟩ := consistent.fits.entry_of_resident found resident
        cases unmapped.symm.trans mapped
    rw [← numbered] at found
    have named : (PageFault.ofKernel address false).IsNamed config := isNamed
    have permitted : ¬ (PageFault.ofKernel address false).IsForbidden config page := by
      rintro ⟨write, -⟩
      cases write
    have fails := failsToLoad_of_handleFault atRest found absent numbered.symm named rfl permitted
      refused
    split at shows
    · next slot kind => exact fails.swapRead_fails consistent found absent kind
    · cases shows

/-- A buffer that is filled from where bytes were stored has these bytes, if their pages have content. -/
theorem eq_of_fillsPrefix (stores : StoresPrefix key base bytes bytes.size machine stored)
    {filled : Bytes} (fills : FillsPrefix key base buffer buffer.size stored filled later)
    (sized : buffer.size = bytes.size)
    (contents : ∀ index < bytes.size, ∀ number : PageNumber,
      (base.word.toNat + index) / config.pageSize = number.word.toNat →
        ∃ content, stored.content? key number = some content) : filled = bytes := by
  refine Array.ext_getElem? fun index => ?_
  rcases Nat.lt_or_ge index bytes.size with inside | outside
  · obtain ⟨_, -, -, number, _, here, -⟩ := stores.stored index inside
    obtain ⟨content, has⟩ := contents index inside number here
    rw [fills.contents index (sized ▸ inside) number content here (fills.preserved _ _ _ has),
      stores.contents index inside number content here has]
  · have size := fills.size
    rw [Array.getElem?_eq_none outside, Array.getElem?_eq_none (by omega)]

/-- What was stored in anonymous pages is what a copy of the same range brings back. -/
theorem copyFromUser_of_copyToUser (atRest : machine.AtRest)
    (spaceExists : (machine.spaces.get? key).isSome)
    (anonymous : ∀ number : PageNumber, number.IsTouched config base.word.toNat 0 bytes.size →
      ∀ page, machine.page? key number = some page → page.kind.backing? = none)
    (done : copyToUser key base bytes machine = .done () stored) (sized : buffer.size = bytes.size) :
    (copyFromUser key base buffer).Ends stored
      (fun returned _ => (returned.2 = .ok () → returned.1 = bytes) ∧
        (machine.environment.swap.faults.SpareReads → returned.2 = .ok ()))
      (fun _ _ => False) := by
  have stores := storesPrefix_of_copyToUser atRest spaceExists done
  have storedRest := stores.passes.atRest
  have contents : ∀ index < bytes.size, ∀ number : PageNumber,
      (base.word.toNat + index) / config.pageSize = number.word.toNat →
        ∃ content, stored.content? key number = some content := by
    intro index inside number here
    have touched : number.IsTouched config base.word.toNat 0 bytes.size :=
      ⟨index, Nat.zero_le _, inside, here⟩
    exact ((copyToUser_ends atRest spaceExists bytes).of_done done).exists_content atRest
      (anonymous number touched) touched
  refine (copyFromUser_fillsPrefix storedRest
    (isSome_of_storesWithin stores.passes spaceExists) base buffer).mono ?_ (fun _ _ => id)
  rintro ⟨filled, result⟩ later ⟨reached, stops, fills, refused⟩
  refine ⟨?_, fun spared => ?_⟩
  · rintro rfl
    obtain rfl : reached = buffer.size := stops
    exact eq_of_fillsPrefix stores fills sized contents
  · cases result with
    | ok value => rfl
    | error error =>
      obtain ⟨early, boundary⟩ := stops
      obtain ⟨middle, prior, stopped⟩ := refused error rfl
      obtain ⟨_, -, before, -⟩ := (copyFromUser_fillsPrefix storedRest
        (isSome_of_storesWithin stores.passes spaceExists) base _).of_done prior
      have named := stores.named reached (sized ▸ early) boundary
      have failing := swapRead_fails_of_stopsCopy before.passes.atRest stopped named fun number here =>
        (contents reached (sized ▸ early) number here).imp fun content => before.preserved _ _ _
      rw [before.passes.swapFaults_eq storedRest.consistent (Transition.not_consults_setSwapFaults key),
        stores.passes.swapFaults_eq atRest.consistent
          (Transition.not_storesWithin_setSwapFaults key _ _)] at failing
      exact absurd spared failing

end KernelAction

/-- Copies transfer a prefix that ends where a page begins that cannot be accessed, or all of their bytes;
the error is that of the page. What was copied to anonymous pages comes back from them. -/
theorem Run.copies_transfer_prefix {frames slots : Nat} {log : OperationLog config}
    {machine : Machine config} (run : Run (.boot config frames slots) log machine) {key : SpaceKey}
    (spaceExists : (machine.spaces.get? key).isSome) (base : VirtualAddress) (buffer bytes : Bytes) :
    (KernelAction.copyFromUser key base buffer).Ends machine
      (fun returned later => ∃ reached, StopsAt config base buffer.size reached returned.2 ∧
        FillsPrefix key base buffer reached machine returned.1 later ∧
        ∀ error, returned.2 = .error error → ∃ middle,
          KernelAction.copyFromUser key base (buffer.extract 0 reached) machine =
            .done (returned.1.extract 0 reached, .ok ()) middle ∧
          StopsCopy key base reached false middle error later)
      (fun _ _ => False) ∧
    (KernelAction.copyToUser key base bytes).Ends machine
      (fun _ later => StoresPrefix key base bytes bytes.size machine later)
      (fun error later => ∃ reached middle,
        StopsAt config base bytes.size reached (.error error) ∧
        StoresPrefix key base bytes reached machine later ∧
        KernelAction.copyToUser key base (bytes.extract 0 reached) machine = .done () middle ∧
        StopsCopy key base reached true middle error later) ∧
    ∀ stored, KernelAction.copyToUser key base bytes machine = .done () stored →
      buffer.size = bytes.size →
      (∀ number : PageNumber, number.IsTouched config base.word.toNat 0 bytes.size →
        ∀ page, machine.page? key number = some page → page.kind.backing? = none) →
      (KernelAction.copyFromUser key base buffer).Ends stored
        (fun returned _ => (returned.2 = .ok () → returned.1 = bytes) ∧
          (machine.environment.swap.faults.SpareReads → returned.2 = .ok ()))
        (fun _ _ => False) := by
  have atRest := run.atRest
  refine ⟨KernelAction.copyFromUser_fillsPrefix atRest spaceExists base buffer, ?_, ?_⟩
  · refine (KernelAction.copyToUser_ends atRest spaceExists bytes).outcome.mono ?_ ?_
    · exact fun _ _ ended => KernelAction.storesPrefix_of_copyToUser atRest spaceExists ended.1
    · exact fun _ _ ended => KernelAction.storesPrefix_of_copyToUser_failed atRest spaceExists ended.1
  · exact fun stored done sized anonymous =>
      KernelAction.copyFromUser_of_copyToUser atRest spaceExists anonymous done sized

/-- A program with two anonymous pages, one behind the other. -/
def twoPages : List (Operation .small) :=
  [.create .main, .request ⟨.main, ⟨1⟩⟩ (.allocate .anonymous ⟨4⟩ true none),
    .request ⟨.main, ⟨1⟩⟩ (.allocate .anonymous ⟨8⟩ true none)]

/-- On one frame, every page of a copy takes the frame from the page before it. A copy that runs over the
end of the two pages stops there, and a shorter one comes back. -/
theorem Run.copies_transfer_prefix_crowded :
    let key : SpaceKey := ⟨.main, ⟨1⟩⟩
    ∃ log machine, performAll twoPages (.boot .small 1 8) = some (log, machine) ∧
      (∃ later reached middle,
        KernelAction.copyToUser key ⟨6⟩ #[1, 2, 3, 4, 5, 6, 7, 8] machine =
          .failed .accessViolation later ∧
        StopsAt .small ⟨6⟩ 8 reached (.error .accessViolation) ∧
        StoresPrefix key ⟨6⟩ #[1, 2, 3, 4, 5, 6, 7, 8] reached machine later ∧
        StopsCopy key ⟨6⟩ reached true middle .accessViolation later) ∧
      ∃ stored filled last, KernelAction.copyToUser key ⟨6⟩ #[1, 2, 3, 4, 5] machine = .done () stored ∧
        0 < stored.mainTable.evictions ∧
        KernelAction.copyFromUser key ⟨6⟩ #[0, 0, 0, 0, 0] stored = .done (filled, .ok ()) last ∧
        filled = #[1, 2, 3, 4, 5] := by
  intro key
  have performed : ((performAll twoPages (.boot .small 1 8)).any fun (_, machine) =>
      (machine.spaces.get? key).isSome &&
      (machine.space key).pages.entries.all (fun entry => entry.2.kind.backing?.isNone) &&
      (KernelAction.copyToUser key ⟨6⟩ #[1, 2, 3, 4, 5, 6, 7, 8] machine).error? = some .accessViolation &&
      (KernelAction.copyToUser key ⟨6⟩ #[1, 2, 3, 4, 5] machine).done?.any fun stored =>
        decide (0 < stored.mainTable.evictions) &&
        (KernelAction.copyFromUser key ⟨6⟩ #[0, 0, 0, 0, 0] stored).value?.any (·.2.isOk)) = true := by
    decide +kernel
  obtain ⟨⟨log, machine⟩, outcome, checked⟩ := (Option.any_eq_true _ _).mp performed
  simp only [Bool.and_eq_true] at checked
  obtain ⟨⟨⟨spaceExists, anonymous⟩, failing⟩, returning⟩ := checked
  have run : Run (.boot .small 1 8) log machine := Run.nil.append outcome
  refine ⟨log, machine, outcome, ?_, ?_⟩
  · obtain ⟨later, failed⟩ := Outcome.exists_of_error? (of_decide_eq_true failing)
    obtain ⟨reached, middle, stops, stores, -, stopped⟩ :=
      (run.copies_transfer_prefix spaceExists ⟨6⟩ #[] #[1, 2, 3, 4, 5, 6, 7, 8]).2.1.of_failed failed
    exact ⟨later, reached, middle, failed, stops, stores, stopped⟩
  · obtain ⟨stored, stores, checked⟩ := (Option.any_eq_true _ _).mp returning
    obtain ⟨evicted, returning⟩ := Bool.and_eq_true_iff.mp checked
    obtain ⟨⟨filled, result⟩, returns, fills⟩ := (Option.any_eq_true _ _).mp returning
    obtain ⟨_, done⟩ := Outcome.exists_of_done? stores
    obtain ⟨last, read⟩ := Outcome.exists_of_value? returns
    have fileless : ∀ number page, machine.page? key number = some page →
        page.kind.backing? = none := fun number page found =>
      Option.isNone_iff_eq_none.mp
        (List.all_eq_true.mp anonymous _ (OrderedMap.mem_entries_of_get? found))
    cases result with
    | ok =>
      exact ⟨stored, filled, last, done, of_decide_eq_true evicted, read,
        ((run.copies_transfer_prefix spaceExists ⟨6⟩ #[0, 0, 0, 0, 0] #[1, 2, 3, 4, 5]).2.2 stored
          done rfl fun number _ => fileless number).of_done read |>.1 rfl⟩
    | error => cases fills

end DemandPaging
