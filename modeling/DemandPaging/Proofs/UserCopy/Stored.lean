import DemandPaging.Proofs.UserCopy.Cut
import DemandPaging.Proofs.Window.Access

/-!
# Copies to pages that may be written to

A copy that begins in a resident page that may be written to needs no fault to get there. It stores as
many of its bytes as there is room for in the page, and then goes on with the pages behind. It never
comes back to the page, so what it stored there stays however it ends.
-/

namespace DemandPaging

variable {config : Config}

/-- How many bytes there are from an address to the end of its page. -/
def VirtualAddress.room (address : VirtualAddress) (config : Config) : Nat :=
  config.pageSize - (address.pageOffset config).toNat

namespace PageBytes

variable (page : PageBytes config) {position : Nat} {piece : Bytes}

/-- Bytes for which there is no room in a page may as well be left away. -/
theorem overwrite_extract :
    page.overwrite position (piece.extract 0 (config.pageSize - position)) =
      page.overwrite position piece := by
  refine Vector.ext fun index inside => ?_
  rw [getElem_overwrite, getElem_overwrite, Bytes.overlay, Bytes.overlay]
  split
  · rw [Array.getD_eq_getD_getElem?, Array.getD_eq_getD_getElem?, Array.getElem?_extract]
    split
    · rw [Nat.zero_add]
    · rw [Array.getElem?_eq_none (by omega)]
  · rfl

/-- The bytes that are laid over a page are in it. -/
theorem getElem_overwritten {index : Nat} (inside : index < piece.size)
    (fits : position + index < config.pageSize) :
    (page.overwrite position piece)[position + index] = piece[index] := by
  rw [getElem_overwrite, Bytes.overlay, if_pos (Nat.le_add_right _ _), Nat.add_sub_cancel_left]
  rw [Array.getD_eq_getD_getElem?, Array.getElem?_eq_getElem inside, Option.getD_some]

end PageBytes

namespace Machine

open KernelAction

/-- An address is in a resident page that may be written to. -/
structure Grants (machine : Machine config) (key : SpaceKey) (address : VirtualAddress)
    (page : Page config) (frame : FrameNumber) : Prop where
  nameable : address.isNameable config = true
  found : machine.page? key (address.page config) = some page
  writable : page.writable = true
  resident : page.frame = some frame

/-- The machine in which bytes are stored in a page that holds a frame. -/
def written (machine : Machine config) (key : SpaceKey) (number : PageNumber) (frame : FrameNumber)
    (position : Nat) (piece : Bytes) : Machine config :=
  (machine.setFrameBytes frame ((machine.frameBytes frame).overwrite position piece)).updateSpace key
    (·.markDirty number)

/-- A copy to user memory first stores bytes in the resident page in which it begins: those for which
there is room. -/
structure StoresFirst (key : SpaceKey) (address : VirtualAddress) (bytes : Bytes) (page : Page config)
    (frame : FrameNumber) (machine stored : Machine config) : Prop where
  copied : copyToUser key address (bytes.extract 0 (address.room config)) machine = .done () stored
  /-- The copy goes on with the chunks that lie in the pages behind, if there are any. -/
  continues : ∃ rest, (bytes.size ≤ address.room config → rest = []) ∧
    copyToUser key address bytes machine =
      Action.forEach (writeChunk key address bytes) rest stored
  /-- Nothing else is changed in the frame of the page. -/
  filled : stored.frameBytes frame =
    (machine.frameBytes frame).overwrite (address.pageOffset config).toNat bytes
  shows : ∀ index (inside : index < bytes.size)
    (fits : (address.pageOffset config).toNat + index < config.pageSize),
      (stored.frameBytes frame)[(address.pageOffset config).toNat + index] = bytes[index]
  /-- The frame is still that of the page. -/
  pages : stored.page? = machine.page?
  dirty : (stored.space key).isDirty (address.page config) = true
  /-- However the copy ends, an anonymous page still shows the bytes. -/
  kept : ∀ slot later, page.kind = .anonymous slot →
    (copyToUser key address bytes machine = .done () later ∨
      ∃ error, copyToUser key address bytes machine = .failed error later) →
    later.content? key (address.page config) = some (stored.frameBytes frame)

variable {key : SpaceKey} {number : PageNumber} {machine : Machine config} {page : Page config}
  {frame : FrameNumber} {position : Nat} {piece : Bytes}

/-- The frame that was written to has the bytes in their place. -/
theorem frameBytes_written :
    (machine.written key number frame position piece).frameBytes frame =
      (machine.frameBytes frame).overwrite position piece :=
  (frameBytes_setFrameBytes ..).trans (if_pos rfl)

/-- A store does not touch the page map. -/
theorem page?_written : (machine.written key number frame position piece).page? = machine.page? :=
  page?_markDirty

/-- Storing in a page that grants it is one transition. -/
theorem Grants.leads {address : VirtualAddress} (grants : machine.Grants key address page frame)
    (fits : machine.Fits) :
    (Transition.store key (address.page config) position piece).Leads machine
      (machine.written key (address.page config) frame position piece) := by
  have same := fits.number_eq grants.found
  rw [← same]
  exact .store (same ▸ grants.found) grants.resident grants.writable

/-- A page that was stored to counts as written to. -/
theorem Grants.isDirty_written {address : VirtualAddress}
    (grants : machine.Grants key address page frame) (fits : machine.Fits) :
    ((machine.written key (address.page config) frame position piece).space key).isDirty
      (address.page config) = true := by
  obtain ⟨_, _, mapped⟩ := fits.entry_of_resident grants.found grants.resident
  exact isDirty_markDirty (isSome_of_page? grants.found) mapped

end Machine

namespace KernelAction

open Machine Chunk

variable {key : SpaceKey} {base address : VirtualAddress} {bytes : Bytes} {machine : Machine config}
  {page : Page config} {frame : FrameNumber}

theorem space_eq_done : space key machine = .done (machine.space key) machine := rfl

theorem orFail_eq_done {Value : Type} {found : Option Value} {value : Value} {error : VmError}
    (known : found = some value) :
    (Action.orFail found error : KernelAction config Value) machine = .done value machine := by
  rw [known]
  rfl

/-- The kernel finds the frame of a resident page that may be written to. -/
theorem accessFrame_granted (grants : machine.Grants key address page frame) (fits : machine.Fits) :
    accessFrame key address true machine = .done frame machine := by
  obtain ⟨_, dirty, mapped⟩ := fits.entry_of_resident grants.found grants.resident
  have present : (machine.space key).pageTable.get? (address.page config) =
      some ⟨frame, EntryFlags.mapped page.writable dirty⟩ := mapped
  unfold accessFrame
  rw [Action.bind_of_done (Action.require_eq_done_iff.mpr ⟨grants.nameable, rfl⟩)]
  unfold frameWithin
  rw [Action.bind_of_done space_eq_done]
  simp only [present, grants.writable]
  rfl

/-- A chunk that lies in such a page is stored there. -/
theorem writeChunk_granted {chunk : Chunk} (grants : machine.Grants key address page frame)
    (fits : machine.Fits) (within : base.checkedAdd (UInt64.ofNat chunk.start) = some address) :
    writeChunk key base bytes chunk machine = .done () (machine.written key (address.page config)
      frame (address.pageOffset config).toNat (bytes.slice chunk.start chunk.length)) := by
  unfold writeChunk
  rw [Action.bind_of_done (orFail_eq_done within)]
  rw [Action.bind_of_done (accessFrame_granted grants fits)]
  rfl

/-! ## The first chunk of a copy -/

/-- A copy begins at its address. -/
theorem checkedAdd_first (address : VirtualAddress) (length : Nat) :
    address.checkedAdd (UInt64.ofNat (ofIndex config address.word.toNat length 0).start) =
      some address := by
  apply VirtualAddress.checkedAdd_of_toNat_eq
  show _ = _ + entry _ _ _ 0
  rw [entry_zero, Nat.add_zero]

/-- The first chunk of a copy ends with its page, if the copy does not end before. -/
theorem extract_first :
    bytes.extract 0 (entry config address.word.toNat bytes.size 1) =
      bytes.extract 0 (address.room config) := by
  have room : entry config address.word.toNat bytes.size 1 =
      min bytes.size (address.room config) := by
    rw [VirtualAddress.room, VirtualAddress.toNat_pageOffset, entry, cut, Nat.one_mul]
  rw [room]
  rcases Nat.le_total bytes.size (address.room config) with short | long
  · rw [Nat.min_eq_left short, Array.extract_eq_self_of_le (Nat.le_refl _),
      Array.extract_eq_self_of_le short]
  · rw [Nat.min_eq_right long]

/-- The first chunk of a copy takes as many bytes as there is room for in the page. -/
theorem slice_first :
    bytes.slice (ofIndex config address.word.toNat bytes.size 0).start
      (ofIndex config address.word.toNat bytes.size 0).length =
      bytes.extract 0 (address.room config) := by
  rw [length_ofIndex, ← extract_first]
  show Array.extract bytes (entry _ _ _ 0) (entry _ _ _ 0 + _) = _
  rw [entry_zero, Nat.zero_add, Nat.sub_zero]

/-- A copy for which there is room in its first page touches no other page. -/
theorem pageCount_le_one (enough : bytes.size ≤ address.room config) :
    pageCount config address.word.toNat bytes.size ≤ 1 := by
  by_contra others
  obtain ⟨exact, short⟩ := entry_eq (Nat.lt_of_not_le others)
  rw [VirtualAddress.room, VirtualAddress.toNat_pageOffset] at enough
  omega

/-- What a copy stores in its first page stays there however the copy ends. -/
theorem content?_of_rest {stored later : Machine config} {slot : Option SwapSlot} {more : Nat}
    (grants : stored.Grants key address page frame) (atRest : stored.AtRest)
    (kind : page.kind = .anonymous slot) (nonempty : 0 < bytes.size)
    (counted : 1 + more = pageCount config address.word.toNat bytes.size)
    (ended : ∃ result, WritesChunks key address bytes
      (ofCopyFrom config address.word.toNat bytes.size 1 more) stored result later) :
    later.content? key (address.page config) = some (stored.frameBytes frame) := by
  obtain ⟨result, writes⟩ := ended
  have inside : 0 < pageCount config address.word.toNat bytes.size := pageCount_pos nonempty
  have starts : Starts config address bytes.size 0 := .zero address bytes.size
  have within : address.checkedAdd
      (UInt64.ofNat (ofIndex config address.word.toNat bytes.size 0).start) = some address :=
    checkedAdd_first address bytes.size
  obtain ⟨reached, _, within', _, visits⟩ :=
    writes.stores counted (starts.next inside within grants.nameable) atRest
  have apart := PageNumber.not_isTouched inside (starts.toNat_page inside within) within'
  rw [content?_eq_some_iff, visits.others key _ fun _ => apart, flat_page?_of_found grants.found,
    flatPage_of_resident kind grants.resident]

/-- A copy to a resident page that may be written to stores its bytes there. -/
theorem copyToUser_granted (grants : machine.Grants key address page frame)
    (atRest : machine.AtRest) (nonempty : 0 < bytes.size) :
    ∃ stored, StoresFirst key address bytes page frame machine stored := by
  have fits := atRest.consistent.fits
  let number := address.page config
  let position := (address.pageOffset config).toNat
  let stored := machine.written key number frame position (bytes.extract 0 (address.room config))
  have first : writeChunk key address bytes (ofIndex config address.word.toNat bytes.size 0) machine =
      .done () stored := by
    rw [writeChunk_granted grants fits (checkedAdd_first address bytes.size), slice_first]
  have storedRest : stored.AtRest := (grants.leads fits).atRest atRest
  have still : stored.Grants key address page frame :=
    { grants with found := page?_written.symm ▸ grants.found }
  have filled : stored.frameBytes frame = (machine.frameBytes frame).overwrite position bytes :=
    frameBytes_written.trans (PageBytes.overwrite_extract _)
  obtain ⟨more, counted, whole⟩ :=
    copyToUser_of_extract (pageCount_pos nonempty) copyToUser_extract_zero
  have goesOn := whole.trans (Action.bind_of_done first)
  refine ⟨stored, ?copied, ⟨_, ?last, goesOn⟩, filled, ?shows, page?_written,
    grants.isDirty_written fits, ?kept⟩
  case copied =>
    rw [← extract_first, copyToUser_extract (pageCount_pos nonempty)]
    exact Action.forEach_cons_eq_done.mpr ⟨stored, first, rfl⟩
  case last =>
    intro enough
    have few := pageCount_le_one enough
    have none : more = 0 := by omega
    rw [none]
    rfl
  case shows =>
    intro index inside fits
    rw [filled]
    exact PageBytes.getElem_overwritten _ inside fits
  case kept =>
    intro slot later kind ended
    -- what is left of the copy lies in the pages behind, and those accesses move this page at most
    refine content?_of_rest still storedRest kind nonempty counted ?_
    rw [goesOn] at ended
    have spaceExists := isSome_of_page? still.found
    rcases ended with done | ⟨error, failed⟩
    · exact ⟨_, (writeChunks_ends bytes _ storedRest spaceExists).of_done done⟩
    · exact ⟨_, (writeChunks_ends bytes _ storedRest spaceExists).of_failed failed⟩

end KernelAction

end DemandPaging
