import DemandPaging.Proofs.Fault

/-!
# What copies to and from user memory do

Every chunk of a copy accesses one page. A chunk that cannot be transferred was denied its page, and
then the copy ends; the chunks before it have been transferred.
-/

namespace DemandPaging

variable {config : Config}

namespace Transition

/-- Making room creates and drops no space. -/
theorem IsQuiet.keepsSpaces {transition : Transition config} (isQuiet : transition.IsQuiet) :
    transition.KeepsSpaces := by
  cases transition <;> first | exact trivial | exact isQuiet.elim

/-- An access creates and drops no space. -/
theorem Accesses.keepsSpaces {key : SpaceKey} {number : PageNumber}
    {transition : Transition config} (accesses : transition.Accesses key number) :
    transition.KeepsSpaces := by
  rcases accesses with (quiet | ⟨frame, rfl⟩) | rfl | rfl
  · exact quiet.keepsSpaces
  · exact trivial
  · exact trivial
  · exact trivial

end Transition

/-- The same spaces exist at both ends of a way that neither creates nor forgets one. -/
theorem Passes.registration_eq {permits : Transition config → Prop}
    {machine later : Machine config} (passes : Passes permits machine later)
    (keeps : ∀ transition, permits transition → transition.KeepsSpaces) :
    later.registration = machine.registration := by
  have path := passes.path
  clear passes
  induction path with
  | refl => rfl
  | step _ leads permitted inductionHypothesis =>
    exact (leads.registration_eq (keeps _ permitted)).trans inductionHypothesis

/-- Where spaces are neither created nor dropped, the same ones exist afterwards. -/
theorem Passes.isSome_eq {permits : Transition config → Prop} {machine later : Machine config}
    (passes : Passes permits machine later)
    (keeps : ∀ transition, permits transition → transition.KeepsSpaces) (key : SpaceKey) :
    (later.spaces.get? key).isSome = (machine.spaces.get? key).isSome := by
  have same := congrFun (passes.registration_eq keeps) key
  simpa [Machine.registration] using congrArg Option.isSome same

namespace KernelAction

open Machine

variable {key : SpaceKey} {machine : Machine config}

/-- The look-up of a resident page finds its frame, if the access is permitted. -/
theorem frameWithin_ends (fits : machine.Fits) {address : VirtualAddress} {page : Page config}
    {frame : FrameNumber} (found : machine.page? key (address.page config) = some page)
    (resident : page.frame = some frame) (write : Bool) (lookups : Nat)
    {whenDone : FrameNumber → Machine config → Prop} {whenFailed : VmError → Machine config → Prop} :
    (frameWithin key address write (lookups + 1)).Ends machine whenDone whenFailed ↔
      ((write = true → page.writable = true) → whenDone frame machine) ∧
        (write = true ∧ page.writable = false → whenFailed .accessViolation machine) := by
  obtain ⟨_, dirty, mapped⟩ := fits.entry_of_resident found resident
  have there : (machine.space key).pageTable.get? (address.page config) =
      some ⟨frame, EntryFlags.mapped page.writable dirty⟩ := mapped
  unfold frameWithin
  simp only [Action.ends_bind, ends_space, there, Action.ends_require, Action.ends_pure]
  cases write <;> cases permitted : page.writable <;>
    simp [EntryFlags.mapped, EntryFlags.userPage]

/-- An access finds the frame of its page, or no page has changed. -/
theorem accessFrame_ends (atRest : machine.AtRest) (spaceExists : (machine.spaces.get? key).isSome)
    (address : VirtualAddress) (write : Bool) :
    (accessFrame key address write).Ends machine
      (fun frame later => address.isNameable config = true ∧
        Accessed key (address.page config) machine later ∧
        ∃ page, later.page? key (address.page config) = some page ∧ page.frame = some frame ∧
          (write = true → page.writable = true))
      (fun _ later => Denied key (address.page config) machine later) := by
  have refused : Denied key (address.page config) machine machine := .refused (.refl atRest)
  unfold accessFrame
  simp only [Action.ends_bind, Action.ends_require]
  refine ⟨fun nameable => ?_, fun _ => refused⟩
  cases mapped : machine.mapped? key (address.page config) with
  | some entry =>
    obtain ⟨page, found, resident, _⟩ := atRest.consistent.fits.page_of_entry mapped
    refine Iff.mpr (frameWithin_ends atRest.consistent.fits found resident write 1)
      ⟨fun allowed => ?_, fun _ => refused⟩
    have held : machine.page? key (address.page config) =
        some { page with kind := page.kind, frame := some entry.frame } := by
      rw [found, ← resident]
    exact ⟨nameable, .present found (.refl atRest) held, page, found, resident, allowed⟩
  | none =>
    have absent : (machine.space key).pageTable.get? (address.page config) = none := mapped
    rw [frameWithin]
    simp only [Action.ends_bind, ends_space, absent]
    refine (handleFault_ends atRest spaceExists _).mono ?_ (fun _ _ => id)
    rintro _ later ⟨accessed, writable⟩
    obtain ⟨page, frame, found, resident⟩ := accessed.resident
    have allowed : write = true → page.writable = true := by
      intro asked
      obtain ⟨other, found', permitted⟩ := writable asked
      rw [show (PageFault.ofKernel address write).address = address from rfl] at found found'
      rw [found] at found'
      cases found'
      exact permitted
    refine Iff.mpr (frameWithin_ends (accessed.passes atRest).atRest.consistent.fits found resident
      write 0) ⟨fun _ => ⟨nameable, accessed, page, found, resident, allowed⟩,
        fun ⟨asked, denied⟩ => ?_⟩
    rw [allowed asked] at denied
    cases denied

/-- An access changes nothing that its fault does not change: looking up a frame is all there is to it
otherwise. -/
theorem accessFrame_ends_of_fault {holds : Machine config → Prop} (atRest : machine.AtRest)
    (spaceExists : (machine.spaces.get? key).isSome) {address : VirtualAddress} {write : Bool}
    (stays : holds machine)
    (faults : (handleFault key (PageFault.ofKernel address write)).Ends machine
      (fun _ later => holds later) (fun _ later => holds later)) :
    (accessFrame key address write).Ends machine (fun _ later => holds later)
      (fun _ later => holds later) := by
  unfold accessFrame
  simp only [Action.ends_bind, Action.ends_require]
  refine ⟨fun _ => ?_, fun _ => stays⟩
  cases mapped : machine.mapped? key (address.page config) with
  | some entry =>
    obtain ⟨page, found, resident, _⟩ := atRest.consistent.fits.page_of_entry mapped
    exact Iff.mpr (frameWithin_ends atRest.consistent.fits found resident write 1)
      ⟨fun _ => stays, fun _ => stays⟩
  | none =>
    have absent : (machine.space key).pageTable.get? (address.page config) = none := mapped
    rw [frameWithin]
    simp only [Action.ends_bind, ends_space, absent]
    refine ((handleFault_ends atRest spaceExists _).and faults).mono ?_ (fun _ _ => And.right)
    rintro _ later ⟨⟨accessed, _⟩, still⟩
    obtain ⟨page, frame, found, resident⟩ := accessed.resident
    exact Iff.mpr (frameWithin_ends (accessed.passes atRest).atRest.consistent.fits found resident
      write 0) ⟨fun _ => still, fun _ => still⟩

/-- Reading a chunk succeeds with the bytes of a page that the access has made resident; it fails
where an access was denied. -/
theorem readChunk_ends (atRest : machine.AtRest) (spaceExists : (machine.spaces.get? key).isSome)
    (base : VirtualAddress) (chunk : Chunk) :
    (readChunk key base chunk).Ends machine
      (fun piece later => ∃ address page frame,
        base.checkedAdd (UInt64.ofNat chunk.start) = some address ∧
        address.isNameable config = true ∧
        Accessed key (address.page config) machine later ∧
        later.page? key (address.page config) = some page ∧ page.frame = some frame ∧
        piece = (later.frameBytes frame).slice (address.pageOffset config).toNat chunk.length)
      (fun _ later => ∃ number, Denied key number machine later) := by
  unfold readChunk
  simp only [Action.ends_bind, Action.ends_orFail]
  refine ⟨fun address within => ?_, fun _ => ⟨default, .refused (.refl atRest)⟩⟩
  refine (accessFrame_ends atRest spaceExists address false).mono ?_ (fun _ _ denied => ⟨_, denied⟩)
  rintro frame later ⟨nameable, accessed, page, found, resident, _⟩
  exact ⟨address, page, frame, within, nameable, accessed, found, resident, rfl⟩

/-- Writing a chunk succeeds by a store in a page that the access has made resident; it fails where
an access was denied. -/
theorem writeChunk_ends (atRest : machine.AtRest) (spaceExists : (machine.spaces.get? key).isSome)
    (base : VirtualAddress) (bytes : Bytes) (chunk : Chunk) :
    (writeChunk key base bytes chunk).Ends machine
      (fun _ later => ∃ address middle,
        base.checkedAdd (UInt64.ofNat chunk.start) = some address ∧
        address.isNameable config = true ∧
        Accessed key (address.page config) machine middle ∧
        (Transition.store key (address.page config) (address.pageOffset config).toNat
          (bytes.slice chunk.start chunk.length)).Leads middle later)
      (fun _ later => ∃ number, Denied key number machine later) := by
  unfold writeChunk
  simp only [Action.ends_bind, Action.ends_orFail]
  refine ⟨fun address within => ?_, fun _ => ⟨default, .refused (.refl atRest)⟩⟩
  refine (accessFrame_ends atRest spaceExists address true).mono ?_ (fun _ _ denied => ⟨_, denied⟩)
  rintro frame middle ⟨nameable, accessed, page, found, resident, writable⟩
  have numbered := (accessed.passes atRest).atRest.consistent.fits.number_eq found
  refine ⟨address, middle, within, nameable, accessed, ?_⟩
  rw [← numbered] at found ⊢
  exact .store found resident (writable rfl)

end KernelAction

namespace Machine

/-- What a copy from user memory does, chunk by chunk: `buffer` is what has been filled before, and
`filled` and `result` are what the copy returns. -/
inductive ReadsChunks (key : SpaceKey) (base : VirtualAddress) :
    List Chunk → Bytes → Machine config → Bytes × Except VmError Unit → Machine config → Prop where
  | done {buffer : Bytes} {machine : Machine config} :
    ReadsChunks key base [] buffer machine (buffer, .ok ()) machine
  | chunk {chunk : Chunk} {rest : List Chunk} {buffer : Bytes} {machine middle later : Machine config}
      {result : Bytes × Except VmError Unit} {address : VirtualAddress} {page : Page config}
      {frame : FrameNumber}
      (within : base.checkedAdd (UInt64.ofNat chunk.start) = some address)
      (nameable : address.isNameable config = true)
      (accessed : Accessed key (address.page config) machine middle)
      (found : middle.page? key (address.page config) = some page)
      (resident : page.frame = some frame)
      (reads : ReadsChunks key base rest (buffer.overwrite chunk.start
        ((middle.frameBytes frame).slice (address.pageOffset config).toNat chunk.length))
        middle result later) :
    ReadsChunks key base (chunk :: rest) buffer machine result later
  | denied {chunk : Chunk} {rest : List Chunk} {buffer : Bytes} {machine later : Machine config}
      {number : PageNumber} {error : VmError} (denied : Denied key number machine later) :
    ReadsChunks key base (chunk :: rest) buffer machine (buffer, .error error) later

/-- What a copy to user memory does, chunk by chunk; `result` is how it ends. -/
inductive WritesChunks (key : SpaceKey) (base : VirtualAddress) (bytes : Bytes) :
    List Chunk → Machine config → Except VmError Unit → Machine config → Prop where
  | done {machine : Machine config} : WritesChunks key base bytes [] machine (.ok ()) machine
  | chunk {chunk : Chunk} {rest : List Chunk} {machine middle stored later : Machine config}
      {result : Except VmError Unit} {address : VirtualAddress}
      (within : base.checkedAdd (UInt64.ofNat chunk.start) = some address)
      (nameable : address.isNameable config = true)
      (accessed : Accessed key (address.page config) machine middle)
      (leads : (Transition.store key (address.page config) (address.pageOffset config).toNat
        (bytes.slice chunk.start chunk.length)).Leads middle stored)
      (writes : WritesChunks key base bytes rest stored result later) :
    WritesChunks key base bytes (chunk :: rest) machine result later
  | denied {chunk : Chunk} {rest : List Chunk} {machine later : Machine config}
      {number : PageNumber} {error : VmError} (denied : Denied key number machine later) :
    WritesChunks key base bytes (chunk :: rest) machine (.error error) later

end Machine

namespace Transition

/-- A transition of the kind that a copy to or from a space takes. -/
def Copies (key : SpaceKey) (transition : Transition config) : Prop :=
  (∃ number, transition.Accesses key number) ∨
    ∃ number position piece, transition = .store key number position piece

/-- Copying bytes creates and drops no space. -/
theorem Copies.keepsSpaces {key : SpaceKey} {transition : Transition config}
    (copies : transition.Copies key) : transition.KeepsSpaces := by
  rcases copies with ⟨_, accesses⟩ | ⟨_, _, _, rfl⟩
  · exact accesses.keepsSpaces
  · exact trivial

end Transition

namespace Machine

variable {key : SpaceKey} {base : VirtualAddress} {chunks : List Chunk}
  {machine later : Machine config}

/-- An access is a part of copying bytes. -/
theorem Accessed.copies {number : PageNumber} (accessed : Accessed key number machine later)
    (atRest : machine.AtRest) : Passes (Transition.Copies key) machine later :=
  (accessed.passes atRest).mono fun _ accesses => .inl ⟨number, accesses⟩

/-- An access that was denied is a part of copying bytes. -/
theorem Denied.copies {number : PageNumber} (denied : Denied key number machine later)
    (atRest : machine.AtRest) : Passes (Transition.Copies key) machine later :=
  (denied.passes atRest).mono fun _ accesses => .inl ⟨number, accesses⟩

/-- A copy from user memory passes through transitions of its kind, by induction on the chunks. -/
theorem ReadsChunks.passes {buffer : Bytes} {result : Bytes × Except VmError Unit}
    (reads : ReadsChunks key base chunks buffer machine result later) (atRest : machine.AtRest) :
    Passes (Transition.Copies key) machine later := by
  induction reads with
  | done => exact .refl atRest
  | chunk _ _ accessed _ _ _ inductionHypothesis =>
    have first := accessed.copies atRest
    exact first.trans (inductionHypothesis first.atRest)
  | denied denied => exact denied.copies atRest

/-- A copy to user memory passes through transitions of its kind, by induction on the chunks. -/
theorem WritesChunks.passes {bytes : Bytes} {result : Except VmError Unit}
    (writes : WritesChunks key base bytes chunks machine result later) (atRest : machine.AtRest) :
    Passes (Transition.Copies key) machine later := by
  induction writes with
  | done => exact .refl atRest
  | chunk _ _ accessed leads _ inductionHypothesis =>
    have first := accessed.copies atRest
    have second := first.trans (.single first.atRest leads (.inr ⟨_, _, _, rfl⟩))
    exact second.trans (inductionHypothesis second.atRest)
  | denied denied => exact denied.copies atRest

end Machine

namespace KernelAction

open Machine

variable {key : SpaceKey} {base : VirtualAddress}

/-- A copy from user memory returns how far it got; it does not fail. -/
theorem readChunks_ends (chunks : List Chunk) (buffer : Bytes) {machine : Machine config}
    (atRest : machine.AtRest) (spaceExists : (machine.spaces.get? key).isSome) :
    (readChunks key base buffer chunks).Ends machine
      (fun result later => ReadsChunks key base chunks buffer machine result later)
      (fun _ _ => False) := by
  induction chunks generalizing buffer machine with
  | nil => exact .done
  | cons chunk rest inductionHypothesis =>
    unfold readChunks
    simp only [Action.ends_bind, Action.ends_attempt]
    refine (readChunk_ends atRest spaceExists base chunk).mono ?_ ?_
    · rintro piece middle ⟨address, page, frame, within, nameable, accessed, found, resident, rfl⟩
      have passes := accessed.passes atRest
      have still := (passes.isSome_eq (fun _ => Transition.Accesses.keepsSpaces) key).trans
        spaceExists
      refine (inductionHypothesis _ passes.atRest still).mono ?_ (fun _ _ => id)
      exact fun _ _ reads => .chunk within nameable accessed found resident reads
    · rintro error later ⟨number, denied⟩
      exact .denied denied

/-- Writing chunks one after the other does what `WritesChunks` says, by induction on the chunks. -/
theorem writeChunks_ends (bytes : Bytes) (chunks : List Chunk) {machine : Machine config}
    (atRest : machine.AtRest) (spaceExists : (machine.spaces.get? key).isSome) :
    (Action.forEach (writeChunk key base bytes) chunks).Ends machine
      (fun _ later => WritesChunks key base bytes chunks machine (.ok ()) later)
      (fun error later => WritesChunks key base bytes chunks machine (.error error) later) := by
  induction chunks generalizing machine with
  | nil => exact .done
  | cons chunk rest inductionHypothesis =>
    rw [Action.ends_forEach_cons]
    refine (writeChunk_ends atRest spaceExists base bytes chunk).mono ?_ ?_
    · rintro _ stored ⟨address, middle, within, nameable, accessed, leads⟩
      have first := accessed.copies atRest
      have second := first.trans (.single first.atRest leads (.inr ⟨_, _, _, rfl⟩))
      have still := (second.isSome_eq (fun _ => Transition.Copies.keepsSpaces) key).trans
        spaceExists
      refine (inductionHypothesis second.atRest still).mono ?_ ?_
      · exact fun _ _ writes => .chunk within nameable accessed leads writes
      · exact fun _ _ writes => .chunk within nameable accessed leads writes
    · rintro error later ⟨number, denied⟩
      exact .denied denied

/-- The outcome of a copy from user memory, on a machine at rest. -/
theorem copyFromUser_ends {machine : Machine config} (atRest : machine.AtRest)
    (spaceExists : (machine.spaces.get? key).isSome) (buffer : Bytes) :
    (copyFromUser key base buffer).Ends machine
      (fun result later => ReadsChunks key base
        (Chunk.ofCopy config (base.pageOffset config).toNat buffer.size) buffer machine result later)
      (fun _ _ => False) :=
  readChunks_ends _ buffer atRest spaceExists

/-- A copy to user memory writes the chunks into which its bytes are cut at the ends of pages. -/
theorem copyToUser_ends {machine : Machine config} (atRest : machine.AtRest)
    (spaceExists : (machine.spaces.get? key).isSome) (bytes : Bytes) :
    (copyToUser key base bytes).Ends machine
      (fun _ later => WritesChunks key base bytes
        (Chunk.ofCopy config (base.pageOffset config).toNat bytes.size) machine (.ok ()) later)
      (fun error later => WritesChunks key base bytes
        (Chunk.ofCopy config (base.pageOffset config).toNat bytes.size) machine (.error error)
          later) :=
  writeChunks_ends bytes _ atRest spaceExists

end KernelAction

end DemandPaging
