import DemandPaging.Proofs.Run

/-!
# The tables agree between operations

Three tables say where a page is: the frame table of its subsystem, the page map of its space, and
the page table that the hardware follows. Inside an operation a frame may have no owner or be pinned;
between operations the three tables say the same.
-/

namespace DemandPaging

variable {config : Config}

/-- A mapping is the one that a resident page is to have: it leads to the frame of the page, for user
accesses, and for writes if the page permits them. Only whether the page was written to is open. -/
structure PageTableEntry.Shows (entry : PageTableEntry) (page : Page config) : Prop where
  frame : page.frame = some entry.frame
  valid : entry.flags.valid = true
  user : entry.flags.user = true
  writable : entry.flags.writable = page.writable
  accessed : entry.flags.accessed = false

/-- What a page map may say about a page on its own. -/
structure Page.IsOrderly (page : Page config) (number : PageNumber) : Prop where
  /-- A page is stored under its own number. -/
  numbered : page.number = number
  /-- A page that has never been loaded has no frame. -/
  unloaded : ∀ target initializer, page.kind = .unloaded target initializer → page.frame = none
  /-- A resident anonymous page holds no swap slot. -/
  slotless : ∀ slot, page.kind = .anonymous slot → page.isResident = true → slot = none

namespace Machine

/-- A registered space that still exists has a page that holds a frame. -/
def Holds (machine : Machine config) (key : SpaceKey) (number : PageNumber) (frame : FrameNumber) :
    Prop :=
  ∃ space page, machine.spaces.get? key = some space ∧ space.registered = true ∧
    space.pages.get? number = some page ∧ page.frame = some frame

/-- Frame tables, page maps and page tables agree. -/
structure Agreement (machine : Machine config) : Prop where
  /-- No frame has two entries in a frame table. -/
  distinct : ∀ subsystem, (machine.table subsystem).frames.Nodup
  owned : ∀ subsystem, ∀ entry ∈ (machine.table subsystem).queue, entry.owner.isSome = true
  unpinned : ∀ subsystem, ∀ entry ∈ (machine.table subsystem).queue, entry.pinned = false
  /-- A frame table gives a frame to a page exactly if the page holds the frame. -/
  holders : ∀ subsystem frame owner,
    (∃ entry ∈ (machine.table subsystem).queue,
      entry.frame = frame ∧ entry.owner = some owner) ↔
        machine.Holds ⟨subsystem, owner.space⟩ owner.page frame
  /-- The hardware maps a page exactly if the page is resident. -/
  mapped : ∀ key space, machine.spaces.get? key = some space → ∀ number,
    (space.pageTable.get? number).isSome = true ↔
      ∃ page, space.pages.get? number = some page ∧ page.isResident = true
  /-- What the hardware maps is what the page map says. -/
  shown : ∀ key space, machine.spaces.get? key = some space → ∀ number entry page,
    space.pageTable.get? number = some entry → space.pages.get? number = some page →
      entry.Shows page
  orderly : ∀ key space, machine.spaces.get? key = some space → ∀ number page,
    space.pages.get? number = some page → page.IsOrderly number

variable {machine : Machine config}

/-- The pages of a space that exists are those of its page map. -/
theorem page?_of_get? {key : SpaceKey} {space : Space config}
    (present : machine.spaces.get? key = some space) (number : PageNumber) :
    machine.page? key number = space.pages.get? number := by
  rw [page?, space_eq_of_get? present]

/-- The mappings of a space that exists are those of its page table. -/
theorem mapped?_of_get? {key : SpaceKey} {space : Space config}
    (present : machine.spaces.get? key = some space) (number : PageNumber) :
    machine.mapped? key number = space.pageTable.get? number := by
  rw [mapped?, space_eq_of_get? present]

/-- In a consistent machine it is the registered spaces that hold frames. -/
theorem Consistent.holds_iff (consistent : machine.Consistent) {key : SpaceKey}
    {number : PageNumber} {frame : FrameNumber} :
    machine.Holds key number frame ↔ machine.frame? key number = some frame := by
  constructor
  · rintro ⟨space, page, present, _, found, resident⟩
    exact (frame?_of_found ((page?_of_get? present number).trans found)).trans resident
  · intro holds
    obtain ⟨page, found, resident⟩ := Option.bind_eq_some_iff.mp holds
    have spaceExists := isSome_of_page? found
    obtain ⟨space, present⟩ := Option.isSome_iff_exists.mp spaceExists
    have registered := consistent.registered spaceExists
    rw [space_eq_of_get? present] at registered
    rw [page?_of_get? present] at found
    exact ⟨space, page, present, registered, found, resident⟩

/-- On a consistent machine every page map says what it may say. -/
theorem Consistent.isOrderly (consistent : machine.Consistent) {key : SpaceKey}
    {number : PageNumber} {page : Page config} (found : machine.page? key number = some page) :
    page.IsOrderly number := by
  refine ⟨consistent.fits.number_eq found, ?_, ?_⟩
  · intro target initializer unloaded
    apply consistent.fits.absent_of_not_isLoaded found
    rw [unloaded]
    exact PageKind.not_isLoaded_unloaded
  · intro slot anonymous resident
    obtain ⟨frame, holds⟩ := Option.isSome_iff_exists.mp resident
    have loaded := consistent.fits.isLoaded found holds
    rw [anonymous] at loaded
    cases loaded
    rfl

/-- Page map and page table of a consistent machine agree at every page. -/
theorem Consistent.mapped_iff (consistent : machine.Consistent) (key : SpaceKey)
    (number : PageNumber) :
    (machine.mapped? key number).isSome = true ↔
      ∃ page, machine.page? key number = some page ∧ page.isResident = true := by
  constructor
  · intro isMapped
    obtain ⟨entry, mapped⟩ := Option.isSome_iff_exists.mp isMapped
    obtain ⟨page, found, resident, _⟩ := consistent.fits.page_of_entry mapped
    exact ⟨page, found, Option.isSome_iff_exists.mpr ⟨_, resident⟩⟩
  · rintro ⟨page, found, isResident⟩
    obtain ⟨frame, resident⟩ := Option.isSome_iff_exists.mp isResident
    obtain ⟨_, dirty, mapped⟩ := consistent.fits.entry_of_resident found resident
    exact Option.isSome_iff_exists.mpr ⟨_, mapped⟩

/-- On a consistent machine every mapping is that of its page. -/
theorem Consistent.shows (consistent : machine.Consistent) {key : SpaceKey} {number : PageNumber}
    {entry : PageTableEntry} {page : Page config} (mapped : machine.mapped? key number = some entry)
    (found : machine.page? key number = some page) : entry.Shows page := by
  obtain ⟨other, found', resident, _, dirty, flags⟩ := consistent.fits.page_of_entry mapped
  rw [found] at found'
  cases found'
  constructor
  · exact resident
  all_goals rw [flags]; rfl

/-- A machine at rest is one whose tables agree. -/
theorem AtRest.agreement (atRest : machine.AtRest) : machine.Agreement where
  distinct := nodup_table atRest.consistent.nodup
  owned subsystem entry member := by
    cases owned : entry.owner with
    | none => exact (List.not_mem_nil ((atRest.idle subsystem entry member).1 owned)).elim
    | some owner => rfl
  unpinned subsystem entry member := by
    cases pinned : entry.pinned with
    | true => exact (List.not_mem_nil ((atRest.idle subsystem entry member).2 pinned)).elim
    | false => rfl
  holders subsystem frame owner := by
    rw [atRest.consistent.holds_iff]
    exact atRest.consistent.tables subsystem frame owner
  mapped key space present number := by
    have iff := atRest.consistent.mapped_iff key number
    rwa [mapped?_of_get? present, page?_of_get? present] at iff
  shown key space present number entry page mapped found := by
    rw [← mapped?_of_get? present] at mapped
    rw [← page?_of_get? present] at found
    exact atRest.consistent.shows mapped found
  orderly key space present number page found := by
    rw [← page?_of_get? present] at found
    exact atRest.consistent.isOrderly found

end Machine

/-- Different frames of a pool that fits into physical memory have different addresses. -/
theorem FrameNumber.address_injective {left right : FrameNumber} {frames : Nat}
    (fits : poolBase + frames * config.pageSize ≤ Word.modulus) (leftInside : left.index < frames)
    (rightInside : right.index < frames)
    (same : left.address config = right.address config) : left = right := by
  have small : ∀ frame : FrameNumber, frame.index < frames →
      poolBase + frame.index * config.pageSize < Word.modulus := by
    intro frame inside
    have next : (frame.index + 1) * config.pageSize ≤ frames * config.pageSize :=
      Nat.mul_le_mul_right _ inside
    have positive := config.pageSize_pos
    rw [Nat.succ_mul] at next
    omega
  have words := congrArg (fun address : PhysicalAddress => address.word.toNat) same
  simp only [FrameNumber.address] at words
  rw [Word.toNat_ofNat_of_lt (small left leftInside),
    Word.toNat_ofNat_of_lt (small right rightInside)] at words
  have indices := Nat.eq_of_mul_eq_mul_right config.pageSize_pos (Nat.add_left_cancel words)
  exact Numbered.number_injective indices

/-- Between the operations of a run the tables agree, and different entries of a frame table have
different physical addresses if the frames of the pool have addresses at all. -/
theorem Run.tables_agree {frames slots : Nat} {log : OperationLog config} {machine : Machine config}
    (run : Run (.boot config frames slots) log machine) :
    machine.Agreement ∧
      (poolBase + frames * config.pageSize ≤ Word.modulus → ∀ subsystem,
        ((machine.table subsystem).queue.map fun entry => entry.frame.address config).Nodup) := by
  refine ⟨run.atRest.agreement, fun fits subsystem => ?_⟩
  have distinct := run.atRest.agreement.distinct subsystem
  have addresses : ((machine.table subsystem).queue.map fun entry => entry.frame.address config) =
      (machine.table subsystem).frames.map (FrameNumber.address · config) := by
    rw [FrameTable.frames, List.map_map]
    rfl
  rw [addresses]
  refine List.Nodup.map_on ?_ distinct
  intro left leftIn right rightIn same
  exact FrameNumber.address_injective fits (run.index_lt_of_mem leftIn)
    (run.index_lt_of_mem rightIn) same

/-- The tables agree although pages were evicted, and its frames have addresses of their own. -/
theorem Run.tables_agree_crowded : ∃ log machine,
    performAll crowdedProgram (.boot .small 3 8) = some (log, machine) ∧
      0 < machine.mainTable.evictions ∧ machine.Agreement ∧ ∀ subsystem,
        ((machine.table subsystem).queue.map fun entry => entry.frame.address .small).Nodup := by
  obtain ⟨log, machine, performed, evicted⟩ := crowdedProgram_performed
  have run : Run (.boot .small 3 8) log machine := Run.nil.append performed
  exact ⟨log, machine, performed, evicted, run.tables_agree.1, run.tables_agree.2 (by decide)⟩

end DemandPaging
