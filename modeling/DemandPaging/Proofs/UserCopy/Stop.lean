import DemandPaging.Proofs.Access
import DemandPaging.Proofs.UserCopy.Cut
import DemandPaging.Proofs.WriteBack.Attempts

/-!
# Where copies stop

A copy that fails does so at one of its chunks, after a copy of the bytes before that chunk would have
been done. `Machine.StopsCopy` says why it does not get any further: it has to do with the single page
that comes next, and not with the length of the copy.
-/

namespace DemandPaging

variable {config : Config}

namespace Action

variable {State Element : Type} {step : Element → Action State Unit} {state last : State}

/-- Work on a list that fails does so at one of its elements, when those before are worked through. -/
theorem exists_of_forEach_failed {elements : List Element} {error : VmError}
    (failed : forEach step elements state = .failed error last) :
    ∃ index, ∃ inside : index < elements.length, ∃ middle,
      forEach step (elements.take index) state = .done () middle ∧
        step elements[index] middle = .failed error last := by
  induction elements generalizing state with
  | nil => cases failed
  | cons element rest inductionHypothesis =>
    rcases bind_eq_failed_iff.mp failed with here | ⟨_, between, first, failed⟩
    · exact ⟨0, Nat.zero_lt_succ _, state, rfl, here⟩
    · obtain ⟨index, inside, middle, done, stops⟩ := inductionHypothesis failed
      exact ⟨index + 1, Nat.succ_lt_succ inside, middle,
        forEach_cons_eq_done.mpr ⟨between, first, done⟩, stops⟩

end Action

namespace Bytes

/-- Bytes that are laid over the beginning of a sequence are the beginning of those that are laid over
the whole. -/
theorem extract_overwrite (target piece : Bytes) (position stop : Nat) :
    overwrite (target.extract 0 stop) position piece = (target.overwrite position piece).extract 0 stop := by
  refine Array.ext ?_ fun index inside inside' => ?_
  · simp only [size_overwrite, Array.size_extract]
  · have before : index < stop := by
      rw [size_overwrite, Array.size_extract] at inside
      omega
    have left : (overwrite (target.extract 0 stop) position piece)[index] =
        overlay piece position index ((target.extract 0 stop).getD index 0) :=
      getElem_splice _ _ _ _ inside
    have right : ((target.overwrite position piece).extract 0 stop)[index] =
        overlay piece position index (target.getD index 0) := by
      rw [Array.getElem_extract]
      simp only [Nat.zero_add]
      exact getElem_splice _ _ _ _ _
    rw [left, right, Array.getD_eq_getD_getElem?, Array.getD_eq_getD_getElem?, Array.getElem?_extract]
    simp only [Nat.zero_add]
    rw [size_overwrite, Array.size_extract] at inside
    rw [if_pos (by omega)]

end Bytes

namespace Chunk

variable {base length first count index : Nat}

/-- A copy has as many chunks as were counted. -/
theorem length_ofCopyFrom : (ofCopyFrom config base length first count).length = count := by
  simp [ofCopyFrom]

/-- The first chunks of a copy are those of its first pages. -/
theorem take_ofCopyFrom (inside : index ≤ count) :
    (ofCopyFrom config base length first count).take index =
      ofCopyFrom config base length first index := by
  obtain ⟨more, rfl⟩ := Nat.exists_eq_add_of_le inside
  rw [ofCopyFrom_append, List.take_left' length_ofCopyFrom]

/-- The chunks of a copy are those of its pages, in order. -/
theorem getElem_ofCopyFrom (inside : index < (ofCopyFrom config base length first count).length) :
    (ofCopyFrom config base length first count)[index] =
      ofIndex config base length (first + index) := by
  simp [ofCopyFrom]

end Chunk

namespace KernelAction

variable {key : SpaceKey} {base : VirtualAddress} {buffer filled : Bytes} {chunks : List Chunk}
  {machine later : Machine config} {result : Except VmError Unit}

/-- A copy from user memory is a loop over the parts of its pages. -/
theorem copyFromUser_eq (base : VirtualAddress) (buffer : Bytes) :
    (copyFromUser key base buffer : KernelAction config _) = readChunks key base buffer
      (Chunk.ofCopyFrom config base.word.toNat buffer.size 0
        (Chunk.pageCount config base.word.toNat buffer.size)) := by
  rw [copyFromUser, VirtualAddress.toNat_pageOffset, Chunk.ofCopy_eq]

/-- Reading one chunk more comes after reading those before. -/
theorem readChunks_concat {chunk : Chunk}
    (done : readChunks key base buffer (chunks ++ [chunk]) machine = .done (filled, .ok ()) later) :
    ∃ before middle piece, readChunks key base buffer chunks machine = .done (before, .ok ()) middle ∧
      readChunk key base chunk middle = .done piece later ∧
        filled = before.overwrite chunk.start piece := by
  induction chunks generalizing buffer machine with
  | nil =>
    obtain ⟨outcome, middle, attempted, ended⟩ := Action.bind_eq_done_iff.mp done
    rcases Action.attempt_eq_done_iff.mp attempted with ⟨piece, rfl, read⟩ | ⟨error, rfl, _⟩
    · cases ended
      exact ⟨buffer, machine, piece, rfl, read, rfl⟩
    · cases ended
  | cons next rest inductionHypothesis =>
    obtain ⟨outcome, between, attempted, ended⟩ := Action.bind_eq_done_iff.mp done
    rcases Action.attempt_eq_done_iff.mp attempted with ⟨piece, rfl, read⟩ | ⟨error, rfl, _⟩
    · obtain ⟨before, middle, last, first, final, same⟩ := inductionHypothesis ended
      exact ⟨before, middle, last, (Action.bind_of_done attempted).trans first, final, same⟩
    · cases ended

/-- A copy from user memory that comes back with an error stopped at a chunk. -/
theorem exists_of_readChunks_error {error : VmError}
    (done : readChunks key base buffer chunks machine = .done (filled, .error error) later) :
    ∃ index, ∃ inside : index < chunks.length, ∃ middle,
      readChunks key base buffer (chunks.take index) machine = .done (filled, .ok ()) middle ∧
        readChunk key base chunks[index] middle = .failed error later := by
  induction chunks generalizing buffer machine with
  | nil => cases done
  | cons chunk rest inductionHypothesis =>
    obtain ⟨outcome, between, attempted, ended⟩ := Action.bind_eq_done_iff.mp done
    rcases Action.attempt_eq_done_iff.mp attempted with ⟨piece, rfl, read⟩ | ⟨cause, rfl, failed⟩
    · obtain ⟨index, inside, middle, first, stops⟩ := inductionHypothesis ended
      exact ⟨index + 1, Nat.succ_lt_succ inside, middle, (Action.bind_of_done attempted).trans first,
        stops⟩
    · cases ended
      exact ⟨0, Nat.zero_lt_succ _, machine, rfl, failed⟩

/-- The beginning of a buffer is filled as the beginning of the whole. -/
theorem readChunks_extract (stop : Nat)
    (done : readChunks key base buffer chunks machine = .done (filled, result) later) :
    readChunks key base (buffer.extract 0 stop) chunks machine =
      .done (filled.extract 0 stop, result) later := by
  induction chunks generalizing buffer machine with
  | nil =>
    cases done
    rfl
  | cons chunk rest inductionHypothesis =>
    obtain ⟨outcome, between, attempted, ended⟩ := Action.bind_eq_done_iff.mp done
    refine (Action.bind_of_done attempted).trans ?_
    rcases Action.attempt_eq_done_iff.mp attempted with ⟨piece, rfl, read⟩ | ⟨cause, rfl, failed⟩
    · simp only [Bytes.extract_overwrite]
      exact inductionHypothesis ended
    · cases ended
      rfl

/-- To fill a buffer up to a page is to read the chunks before that page. -/
theorem copyFromUser_extract {stop : Nat}
    (inside : stop ≤ Chunk.pageCount config base.word.toNat buffer.size)
    (done : readChunks key base buffer (Chunk.ofCopyFrom config base.word.toNat buffer.size 0 stop)
      machine = .done (filled, result) later) :
    copyFromUser key base (buffer.extract 0 (Chunk.entry config base.word.toNat buffer.size stop))
      machine = .done (filled.extract 0 (Chunk.entry config base.word.toNat buffer.size stop), result)
        later := by
  have within : Chunk.entry config base.word.toNat buffer.size stop ≤ buffer.size := Nat.min_le_left _ _
  have sized : (buffer.extract 0 (Chunk.entry config base.word.toNat buffer.size stop)).size =
      Chunk.entry config base.word.toNat buffer.size stop := by
    rw [Array.size_extract]
    omega
  rw [copyFromUser_eq, sized, Chunk.pageCount_entry inside, Chunk.ofCopyFrom_entry]
  exact readChunks_extract _ done

end KernelAction

/-! ## Reasons to stop -/

namespace Machine

/-- Why a copy does not get beyond a number of bytes: there is no such address, or it is null or
belongs to the kernel, or the page that comes next must not be written to, or the resolver does not
resolve the fault on it. -/
inductive StopsCopy (key : SpaceKey) (base : VirtualAddress) (reached : Nat) (write : Bool)
    (machine : Machine config) : VmError → Machine config → Prop where
  | wraps (beyond : Word.modulus ≤ base.word.toNat + reached) :
    StopsCopy key base reached write machine .invalidAddress machine
  | unnamed {address : VirtualAddress} (here : address.word.toNat = base.word.toNat + reached)
      (unnamed : address.word.toNat = 0 ∨ config.userEnd.toNat ≤ address.word.toNat) :
    StopsCopy key base reached write machine .invalidAddress machine
  | forbidden {address : VirtualAddress} {entry : PageTableEntry}
      (here : address.word.toNat = base.word.toNat + reached)
      (named : 0 < address.word.toNat ∧ address.word.toNat < config.userEnd.toNat)
      (mapped : machine.mapped? key (address.page config) = some entry) (writes : write = true)
      (readOnly : entry.flags.writable = false) :
    StopsCopy key base reached write machine .accessViolation machine
  | unresolved {address : VirtualAddress} {error : VmError} {later : Machine config}
      (here : address.word.toNat = base.word.toNat + reached)
      (named : 0 < address.word.toNat ∧ address.word.toNat < config.userEnd.toNat)
      (unmapped : machine.mapped? key (address.page config) = none)
      (refused : KernelAction.handleFault key (.ofKernel address write) machine =
        .failed error later) : StopsCopy key base reached write machine error later

end Machine

namespace KernelAction

open Machine

variable {key : SpaceKey} {base address : VirtualAddress} {machine later : Machine config}
  {write : Bool} {reached : Nat} {error : VmError}

/-- An access fails for one of the reasons. -/
theorem stopsCopy_of_accessFrame (atRest : machine.AtRest)
    (spaceExists : (machine.spaces.get? key).isSome)
    (here : address.word.toNat = base.word.toNat + reached)
    (failed : accessFrame key address write machine = .failed error later) :
    StopsCopy key base reached write machine error later := by
  rcases Action.bind_eq_failed_iff.mp failed with unnamed | ⟨_, _, checked, failed⟩
  · obtain ⟨unnamed, rfl, rfl⟩ := Action.require_eq_failed_iff.mp unnamed
    refine .unnamed here ?_
    by_contra named
    rw [VirtualAddress.isNameable_iff.mpr (by omega)] at unnamed
    cases unnamed
  · obtain ⟨nameable, rfl⟩ := Action.require_eq_done_iff.mp checked
    have named := VirtualAddress.isNameable_iff.mp nameable
    cases mapped : machine.mapped? key (address.page config) with
    | some entry =>
      rw [frameWithin_of_mapped mapped] at failed
      split at failed
      · cases failed
      · next readOnly =>
        cases failed
        rw [Bool.or_eq_true, not_or, Bool.not_eq_true', Bool.not_eq_false, Bool.not_eq_true] at readOnly
        exact .forbidden here named mapped readOnly.1 readOnly.2
    | none =>
      rw [frameWithin_of_unmapped mapped] at failed
      rcases Action.bind_eq_failed_iff.mp failed with refused | ⟨_, middle, resolved, failed⟩
      · exact .unresolved here named mapped refused
      · obtain ⟨entry, mappedNow, -, -, writable⟩ :=
          (settled_of_handleFault atRest spaceExists resolved).mapped
        have there : middle.mapped? key (address.page config) = some entry := mappedNow
        rw [frameWithin_of_mapped there, if_pos] at failed
        · cases failed
        · cases write with
          | false => rfl
          | true => exact writable rfl

/-- The chunks of a copy fail for one of the reasons, too: `transfer` is what is done with a frame. -/
theorem stopsCopy_of_chunk {Value : Type} {transfer : VirtualAddress → FrameNumber →
    KernelAction config Value} (completes : ∀ address frame machine error later,
      transfer address frame machine ≠ .failed error later) {length index : Nat}
    (starts : Chunk.Starts config base length index) (atRest : machine.AtRest)
    (spaceExists : (machine.spaces.get? key).isSome)
    (failed : (do
      let address ← Action.orFail (base.checkedAdd
        (UInt64.ofNat (Chunk.ofIndex config base.word.toNat length index).start)) .invalidAddress
      let frame ← accessFrame key address write
      transfer address frame : KernelAction config Value) machine = .failed error later) :
    StopsCopy key base (Chunk.entry config base.word.toNat length index) write machine error later := by
  rcases Action.bind_eq_failed_iff.mp failed with beyond | ⟨address, _, within, failed⟩
  · cases sum : base.checkedAdd
      (UInt64.ofNat (Chunk.ofIndex config base.word.toNat length index).start) with
    | some address =>
      rw [sum] at beyond
      cases beyond
    | none =>
      rw [sum] at beyond
      cases beyond
      refine .wraps (Nat.le_of_not_lt fun fits => ?_)
      have exact : (UInt64.ofNat (Chunk.ofIndex config base.word.toNat length index).start).toNat =
        Chunk.entry config base.word.toNat length index := Word.toNat_ofNat_of_lt starts.small
      rw [VirtualAddress.checkedAdd, Word.checkedAdd, exact, if_pos fits] at sum
      cases sum
  · cases sum : base.checkedAdd
      (UInt64.ofNat (Chunk.ofIndex config base.word.toNat length index).start) with
    | none =>
      rw [sum] at within
      cases within
    | some place =>
      rw [sum] at within
      cases within
      rcases Action.bind_eq_failed_iff.mp failed with denied | ⟨frame, middle, _, failed⟩
      · exact stopsCopy_of_accessFrame atRest spaceExists (starts.toNat_eq sum) denied
      · exact absurd failed (completes _ _ _ _ _)

end KernelAction

end DemandPaging
