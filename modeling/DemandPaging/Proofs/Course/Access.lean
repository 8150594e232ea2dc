import DemandPaging.Proofs.Conduct
import DemandPaging.Proofs.Flat.Copy

/-!
# Courses of accesses to user memory

A fault claims the page of its address and no other, and a copy from or to user memory claims pages
only that it touches. Both request frames one at a time.
-/

namespace DemandPaging

variable {config : Config}

namespace Transition

/-- A transition that an access to a page takes; no other page is claimed. -/
def Approaches (key : SpaceKey) (number : PageNumber) (transition : Transition config) : Prop :=
  transition.Accesses key number ∧ transition.ClaimsOnly key (· = number)

/-- A transition that a copy to or from pages of a space takes; no others are claimed. -/
def CopiesWithin (key : SpaceKey) (pages : PageNumber → Prop) (transition : Transition config) :
    Prop :=
  transition.Copies key ∧ transition.ClaimsOnly key pages

/-- A transition that a copy from pages of a space takes; no others are claimed. -/
def ConsultsWithin (key : SpaceKey) (pages : PageNumber → Prop) (transition : Transition config) :
    Prop :=
  transition.Consults key ∧ transition.ClaimsOnly key pages

variable {transition : Transition config} {key : SpaceKey} {number : PageNumber}
  {pages : PageNumber → Prop}

/-- The set of pages that may be claimed may be taken larger. -/
theorem ClaimsOnly.mono {pages' : PageNumber → Prop} (claims : transition.ClaimsOnly key pages)
    (more : ∀ number, pages number → pages' number) : transition.ClaimsOnly key pages' :=
  fun probe other isClaim => ⟨(claims probe other isClaim).1, more _ (claims probe other isClaim).2⟩

/-- To fetch a page is a way to approach it. -/
theorem Fetches.approaches (fetches : transition.Fetches key number) :
    transition.Approaches key number :=
  ⟨.inl fetches.1, fetches.2⟩

/-- Approaching a page of a set is consulting within the set. -/
theorem Approaches.consultsWithin (approaches : transition.Approaches key number)
    (inside : pages number) : transition.ConsultsWithin key pages :=
  ⟨⟨number, approaches.1⟩, approaches.2.mono fun _ same => same ▸ inside⟩

/-- Approaching a page of a set is copying within the set. -/
theorem Approaches.copiesWithin (approaches : transition.Approaches key number)
    (inside : pages number) : transition.CopiesWithin key pages :=
  ⟨.inl ⟨number, approaches.1⟩, approaches.2.mono fun _ same => same ▸ inside⟩

end Transition

namespace KernelAction

open Machine

variable {key : SpaceKey} {machine : Machine config}

/-- The stack grows by a page that is claimed at once, and forgotten if it cannot be loaded. -/
theorem growStack_course (atRest : machine.AtRest) (spaceExists : (machine.spaces.get? key).isSome)
    {number : PageNumber} (vacant : machine.page? key number = none) :
    (growStack key number).Ends machine
      (fun _ later => Course (Transition.Approaches key number) machine later)
      (fun _ later => Course (Transition.Approaches key number) machine later) := by
  unfold growStack
  simp only [Action.ends_bind, ends_record]
  refine Iff.mpr (insertPage_ends _) ⟨fun _ => ?_, fun known => ?_⟩
  · let page : Page config := Page.ofStack number
    have registers : (Transition.register key page).Leads (machine.record (.growingStack number))
        ((machine.record (.growingStack number)).updateSpace key (·.setPage page)) :=
      .register vacant rfl rfl spaceExists nofun
    have noted : Course (Transition.Approaches key number) machine
        (machine.record (.growingStack number)) :=
      .single atRest (.note rfl) ⟨.inl (.inl trivial), fun _ _ => False.elim⟩
    have grown := noted.trans
      (.single noted.atRest registers ⟨.inr (.inl rfl), fun _ _ => False.elim⟩)
    have found : ((machine.record (.growingStack number)).updateSpace key
        (·.setPage page)).page? key page.number = some page := by
      rw [page?_setPage (by exact spaceExists) page]
      exact amend_self
    simp only [Action.ends_bind, Action.ends_attempt]
    refine (claimPage_course grown.atRest found rfl).mono ?_ ?_
    · rintro _ later ⟨course, _⟩
      exact grown.trans (course.mono fun _ => Transition.Fetches.approaches)
    · rintro _ spoiled course
      have spoils := grown.trans (course.mono fun _ fetches => fetches.2.approaches)
      have kept := (course.passes.mono fun _ => And.left).path.page?_eq
        ((frame?_of_found found).trans rfl)
      have unregisters : (Transition.unregister key page.number).Leads spoiled _ :=
        .unregister (kept.trans found) rfl
      exact spoils.trans
        (.single spoils.atRest unregisters ⟨.inr (.inr rfl), fun _ _ => False.elim⟩)
  · simp [Page.awaiting, vacant] at known

/-- A fault claims the page of its address at most. -/
theorem handleFault_course (atRest : machine.AtRest)
    (spaceExists : (machine.spaces.get? key).isSome) (fault : PageFault) :
    (handleFault key fault).Ends machine
      (fun _ later => Course (Transition.Approaches key (fault.address.page config)) machine later)
      (fun _ later => Course (Transition.Approaches key (fault.address.page config)) machine
        later) := by
  have refused : Course (Transition.Approaches key (fault.address.page config)) machine machine :=
    .refl atRest
  unfold handleFault
  simp only [Action.ends_bind, Action.ends_require, ends_space]
  refine ⟨fun _ => ⟨fun _ => ?_, fun _ => refused⟩, fun _ => refused⟩
  cases known : (machine.space key).pages.get? (fault.address.page config) with
  | none =>
    simp only []
    split
    · exact growStack_course atRest spaceExists known
    · simp only [Action.ends_bind, ends_record, Action.ends_fail]
      exact .single atRest (.note rfl) ⟨.inl (.inl trivial), fun _ _ => False.elim⟩
  | some page =>
    have found : machine.page? key (fault.address.page config) = some page := known
    simp only [Action.ends_bind, Action.ends_require]
    refine ⟨fun _ => ?_, fun _ => refused⟩
    cases resident : page.frame with
    | some frame =>
      rw [if_pos (by simp [Page.isResident, resident])]
      exact refused
    | none =>
      rw [if_neg (by simp [Page.isResident, resident])]
      have numbered := atRest.consistent.fits.number_eq found
      rw [← numbered] at found ⊢
      refine (claimPage_course atRest found resident).mono ?_ ?_
      · exact fun _ _ loaded => loaded.1.mono fun _ => Transition.Fetches.approaches
      · exact fun _ _ course => course.mono fun _ fetches => fetches.2.approaches

/-- An access to a page claims that page at most. -/
theorem accessFrame_course (atRest : machine.AtRest)
    (spaceExists : (machine.spaces.get? key).isSome) (address : VirtualAddress) (write : Bool) :
    (accessFrame key address write).Ends machine
      (fun _ later => Course (Transition.Approaches key (address.page config)) machine later)
      (fun _ later => Course (Transition.Approaches key (address.page config)) machine later) :=
  accessFrame_ends_of_fault atRest spaceExists (.refl atRest) (handleFault_course atRest spaceExists _)

/-- A page that is claimed by address is the only one that is claimed. -/
theorem claimAddress_course (atRest : machine.AtRest) (address : VirtualAddress) :
    (claimAddress key address).Ends machine
      (fun _ later => Course (Transition.Approaches key (address.page config)) machine later)
      (fun _ later => Course (Transition.Approaches key (address.page config)) machine later) := by
  unfold claimAddress
  simp only [Action.ends_bind, ends_space, Action.ends_orFail]
  refine ⟨fun page found => ?_, fun _ => .refl atRest⟩
  have known : machine.page? key (address.page config) = some page := found
  split
  · exact .refl atRest
  · next absent =>
    have numbered := atRest.consistent.fits.number_eq known
    rw [← numbered] at known ⊢
    refine (claimPage_course atRest known (by simpa [Page.isResident] using absent)).mono ?_ ?_
    · exact fun _ _ loaded => loaded.1.mono fun _ => Transition.Fetches.approaches
    · exact fun _ _ course => course.mono fun _ fetches => fetches.2.approaches

/-! ## Copies -/

open Chunk

variable {base : VirtualAddress} {pages : PageNumber → Prop} {index : Nat}

/-- What is claimed for a chunk is its page. -/
theorem readChunk_course (atRest : machine.AtRest) (spaceExists : (machine.spaces.get? key).isSome)
    {chunk : Chunk} (touched : ∀ address,
      base.checkedAdd (UInt64.ofNat chunk.start) = some address → pages (address.page config)) :
    (readChunk key base chunk).Ends machine
      (fun _ later => Course (Transition.ConsultsWithin key pages) machine later)
      (fun _ later => Course (Transition.ConsultsWithin key pages) machine later) := by
  unfold readChunk
  simp only [Action.ends_bind, Action.ends_orFail]
  refine ⟨fun address within => ?_, fun _ => .refl atRest⟩
  have approaches : ∀ {later}, Course (Transition.Approaches key (address.page config)) machine later →
      Course (Transition.ConsultsWithin key pages) machine later :=
    fun course => course.mono fun _ approaches => approaches.consultsWithin (touched address within)
  exact (accessFrame_course atRest spaceExists address false).mono (fun _ _ => approaches)
    (fun _ _ => approaches)

/-- Writing a chunk claims no page but that of the chunk. -/
theorem writeChunk_course (atRest : machine.AtRest) (spaceExists : (machine.spaces.get? key).isSome)
    {chunk : Chunk} (bytes : Bytes) (touched : ∀ address,
      base.checkedAdd (UInt64.ofNat chunk.start) = some address → pages (address.page config)) :
    (writeChunk key base bytes chunk).Ends machine
      (fun _ later => Course (Transition.CopiesWithin key pages) machine later)
      (fun _ later => Course (Transition.CopiesWithin key pages) machine later) := by
  unfold writeChunk
  simp only [Action.ends_bind, Action.ends_orFail]
  refine ⟨fun address within => ?_, fun _ => .refl atRest⟩
  have approaches : ∀ {later}, Course (Transition.Approaches key (address.page config)) machine later →
      Course (Transition.CopiesWithin key pages) machine later :=
    fun course => course.mono fun _ approaches => approaches.copiesWithin (touched address within)
  refine ((accessFrame_ends atRest spaceExists address true).and
    (accessFrame_course atRest spaceExists address true)).mono ?_ (fun _ _ both => approaches both.2)
  rintro frame middle ⟨⟨_, _, page, found, resident, writable⟩, course⟩
  have numbered := course.atRest.consistent.fits.number_eq found
  rw [← numbered] at found ⊢ approaches course
  have stores : (Transition.store key page.number (address.pageOffset config).toNat
      (bytes.slice chunk.start chunk.length)).Leads middle _ := .store found resident (writable rfl)
  exact (approaches course).trans (.single course.atRest stores
    ⟨.inr ⟨_, _, _, rfl⟩, fun _ _ => False.elim⟩)

/-- Whether a copy claims the page of a chunk depends on where the chunk lies. -/
theorem isTouched_of_chunk {size : Nat} (starts : Starts config base size index)
    (inside : index < pageCount config base.word.toNat size) {address : VirtualAddress}
    (within : base.checkedAdd (UInt64.ofNat (ofIndex config base.word.toNat size index).start) =
      some address) : (address.page config).IsTouched config base.word.toNat 0 size := by
  obtain ⟨grows, ends, _⟩ := entry_bounds inside
  refine ⟨entry config base.word.toNat size index, Nat.zero_le _, by omega, ?_⟩
  rw [starts.toNat_page inside within, div_of_mem inside (Nat.le_refl _) grows]

/-- A copy from user memory claims no page but those that it touches, by induction on the chunks. -/
theorem readChunks_course {size count : Nat} (buffer : Bytes)
    (whole : index + count = pageCount config base.word.toNat size)
    (starts : Starts config base size index) (atRest : machine.AtRest)
    (spaceExists : (machine.spaces.get? key).isSome) :
    (readChunks key base buffer (ofCopyFrom config base.word.toNat size index count)).Ends machine
      (fun _ later => Course (Transition.ConsultsWithin key
        (·.IsTouched config base.word.toNat 0 size)) machine later)
      (fun _ _ => False) := by
  induction count generalizing index buffer machine with
  | zero => exact Course.refl atRest
  | succ count inductionHypothesis =>
    have inside : index < pageCount config base.word.toNat size := by omega
    rw [ofCopyFrom_succ, readChunks]
    simp only [Action.ends_bind, Action.ends_attempt]
    refine ((readChunk_ends atRest spaceExists base _).and (readChunk_course atRest spaceExists
      fun _ => isTouched_of_chunk starts inside)).mono ?_ (fun _ _ both => both.2)
    rintro piece middle ⟨⟨address, _, _, within, nameable, _⟩, course⟩
    have still := (course.passes.isSome_eq (fun _ consults => (consults.1.elim
      fun _ => Transition.Accesses.keepsSpaces)) key).trans spaceExists
    exact (inductionHypothesis _ (by omega) (starts.next inside within nameable) course.atRest
      still).mono (fun _ _ => course.trans) (fun _ _ => id)

/-- A copy to user memory claims no page but those that it touches, by induction on the chunks. -/
theorem writeChunks_course {count : Nat} {bytes : Bytes}
    (whole : index + count = pageCount config base.word.toNat bytes.size)
    (starts : Starts config base bytes.size index) (atRest : machine.AtRest)
    (spaceExists : (machine.spaces.get? key).isSome) :
    (Action.forEach (writeChunk key base bytes)
        (ofCopyFrom config base.word.toNat bytes.size index count)).Ends machine
      (fun _ later => Course (Transition.CopiesWithin key
        (·.IsTouched config base.word.toNat 0 bytes.size)) machine later)
      (fun _ later => Course (Transition.CopiesWithin key
        (·.IsTouched config base.word.toNat 0 bytes.size)) machine later) := by
  induction count generalizing index machine with
  | zero => exact Course.refl atRest
  | succ count inductionHypothesis =>
    have inside : index < pageCount config base.word.toNat bytes.size := by omega
    rw [ofCopyFrom_succ, Action.ends_forEach_cons]
    refine ((writeChunk_ends atRest spaceExists base bytes _).and (writeChunk_course atRest
      spaceExists bytes fun _ => isTouched_of_chunk starts inside)).mono ?_ (fun _ _ => And.right)
    rintro _ middle ⟨⟨address, _, within, nameable, _⟩, course⟩
    have still := (course.passes.isSome_eq (fun _ copies => copies.1.keepsSpaces) key).trans
      spaceExists
    exact (inductionHypothesis (by omega) (starts.next inside within nameable) course.atRest
      still).mono (fun _ _ => course.trans) (fun _ _ => course.trans)

/-- A copy from user memory claims only pages that it touches. -/
theorem copyFromUser_course (atRest : machine.AtRest)
    (spaceExists : (machine.spaces.get? key).isSome) (buffer : Bytes) :
    (copyFromUser key base buffer).Ends machine
      (fun _ later => Course (Transition.ConsultsWithin key
        (·.IsTouched config base.word.toNat 0 buffer.size)) machine later)
      (fun _ _ => False) := by
  unfold copyFromUser
  rw [VirtualAddress.toNat_pageOffset, ofCopy_eq]
  exact readChunks_course buffer (Nat.zero_add _) (.zero base _) atRest spaceExists

/-- A copy to user memory claims only pages that it touches. -/
theorem copyToUser_course (atRest : machine.AtRest)
    (spaceExists : (machine.spaces.get? key).isSome) (bytes : Bytes) :
    (copyToUser key base bytes).Ends machine
      (fun _ later => Course (Transition.CopiesWithin key
        (·.IsTouched config base.word.toNat 0 bytes.size)) machine later)
      (fun _ later => Course (Transition.CopiesWithin key
        (·.IsTouched config base.word.toNat 0 bytes.size)) machine later) := by
  unfold copyToUser
  rw [VirtualAddress.toNat_pageOffset, ofCopy_eq]
  exact writeChunks_course (Nat.zero_add _) (.zero base _) atRest spaceExists

end KernelAction

end DemandPaging
