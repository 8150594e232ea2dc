import DemandPaging.Machine

/-!
# Views of a machine

Most statements about a machine concern a page of a space: what is registered there, which frame it
holds, which swap slot, and how the hardware maps it. The views give these as functions of the name
of the space and the page number, and the lemmas say how each change of the state changes them. A
space that does not exist has no pages.
-/

namespace DemandPaging

namespace Space

variable {config : Config} (space : Space config)

@[simp] theorem pages_setPage (page : Page config) :
    (space.setPage page).pages = space.pages.insert page.number page := rfl

@[simp] theorem pageTable_setPage (page : Page config) :
    (space.setPage page).pageTable = space.pageTable := rfl

@[simp] theorem registered_setPage (page : Page config) :
    (space.setPage page).registered = space.registered := rfl

@[simp] theorem pages_dropPage (number : PageNumber) :
    (space.dropPage number).pages = space.pages.erase number := rfl

@[simp] theorem pageTable_dropPage (number : PageNumber) :
    (space.dropPage number).pageTable = space.pageTable := rfl

@[simp] theorem registered_dropPage (number : PageNumber) :
    (space.dropPage number).registered = space.registered := rfl

@[simp] theorem pages_mapPage (number : PageNumber) (frame : FrameNumber) (flags : EntryFlags) :
    (space.mapPage number frame flags).pages = space.pages := rfl

@[simp] theorem pageTable_mapPage (number : PageNumber) (frame : FrameNumber)
    (flags : EntryFlags) :
    (space.mapPage number frame flags).pageTable =
      space.pageTable.insert number ⟨frame, { flags with dirty := false }⟩ := rfl

@[simp] theorem registered_mapPage (number : PageNumber) (frame : FrameNumber)
    (flags : EntryFlags) :
    (space.mapPage number frame flags).registered = space.registered := rfl

@[simp] theorem pages_unmapPage (number : PageNumber) :
    (space.unmapPage number).pages = space.pages := rfl

@[simp] theorem pageTable_unmapPage (number : PageNumber) :
    (space.unmapPage number).pageTable = space.pageTable.erase number := rfl

@[simp] theorem registered_unmapPage (number : PageNumber) :
    (space.unmapPage number).registered = space.registered := rfl

@[simp] theorem pages_markDirty (number : PageNumber) :
    (space.markDirty number).pages = space.pages := rfl

@[simp] theorem registered_markDirty (number : PageNumber) :
    (space.markDirty number).registered = space.registered := rfl

/-- Marking a page changes one flag of its mapping, if it has one. -/
theorem pageTable_markDirty (number : PageNumber) :
    (space.markDirty number).pageTable = space.pageTable.modify number fun entry =>
      { entry with flags := { entry.flags with dirty := true } } := rfl

end Space

namespace FrameTable

/-- The frames in the queue, the one acquired first in front. -/
def frames (table : FrameTable) : List FrameNumber := table.queue.map FrameEntry.frame

/-- Whether the queue has an entry that gives a frame to a page. -/
def Assigns (table : FrameTable) (frame : FrameNumber) (owner : FrameOwner) : Prop :=
  ∃ entry ∈ table.queue, entry.frame = frame ∧ entry.owner = some owner

/-- Whether a frame is in the queue and waits for its page. -/
def Awaits (table : FrameTable) (frame : FrameNumber) : Prop :=
  ({ frame := frame } : FrameEntry) ∈ table.queue

/-- A table tracks the frames in its queue. -/
theorem tracks_iff {table : FrameTable} {frame : FrameNumber} :
    table.tracks frame = true ↔ frame ∈ table.frames := by
  simp [tracks, frames]

/-- A frame that waits for its page is in the queue. -/
theorem Awaits.mem_frames {table : FrameTable} {frame : FrameNumber}
    (awaits : table.Awaits frame) : frame ∈ table.frames :=
  List.mem_map.mpr ⟨_, awaits, rfl⟩

/-- A frame that belongs to a page is in the queue. -/
theorem Assigns.mem_frames {table : FrameTable} {frame : FrameNumber} {owner : FrameOwner}
    (assigns : table.Assigns frame owner) : frame ∈ table.frames := by
  obtain ⟨entry, member, rfl, _⟩ := assigns
  exact List.mem_map.mpr ⟨entry, member, rfl⟩

end FrameTable

/-! ## Pages of spaces -/

/-- A view of all pages of all spaces with the value at one page replaced. -/
def amend {Value : Type} (view : SpaceKey → PageNumber → Value) (key : SpaceKey)
    (number : PageNumber) (value : Value) (probe : SpaceKey) (other : PageNumber) : Value :=
  if probe = key ∧ other = number then value else view probe other

section Amend

variable {Value : Type} {view : SpaceKey → PageNumber → Value} {key probe : SpaceKey}
  {number other : PageNumber} {value : Value}

@[simp] theorem amend_self : amend view key number value key number = value :=
  if_pos ⟨rfl, rfl⟩

/-- At every other page the view is as before. -/
theorem amend_of_ne (elsewhere : ¬(probe = key ∧ other = number)) :
    amend view key number value probe other = view probe other :=
  if_neg elsewhere

/-- At the page itself the view has the new value. -/
theorem eq_of_amend {later : SpaceKey → PageNumber → Value}
    (amended : later = amend view key number value) : later key number = value := by
  rw [amended, amend_self]

@[simp] theorem amend_amend (later : Value) :
    amend (amend view key number value) key number later = amend view key number later := by
  funext probe other
  unfold amend
  split <;> rfl

/-- Replacing a value by itself changes nothing. -/
theorem amend_eq (same : view key number = value) : amend view key number value = view := by
  funext probe other
  unfold amend
  split
  · next here => rw [here.1, here.2, same]
  · rfl

end Amend

namespace Machine

variable {config : Config} (machine : Machine config)

/-- What is registered at a page of a space. -/
def page? (key : SpaceKey) (number : PageNumber) : Option (Page config) :=
  (machine.space key).pages.get? number

/-- How the hardware maps a page of a space. -/
def mapped? (key : SpaceKey) (number : PageNumber) : Option PageTableEntry :=
  (machine.space key).pageTable.get? number

/-- The frame that a page of a space holds. -/
def frame? (key : SpaceKey) (number : PageNumber) : Option FrameNumber :=
  (machine.page? key number).bind Page.frame

/-- The swap slot that a page of a space holds. -/
def slot? (key : SpaceKey) (number : PageNumber) : Option SwapSlot :=
  (machine.page? key number).bind fun page => page.kind.slot?

/-- Changes the frame table of a subsystem. -/
def updateTable (subsystem : Subsystem) (update : FrameTable → FrameTable) : Machine config :=
  machine.setTable subsystem (update (machine.table subsystem))

/-! ## What a change leaves alone -/

section Frame

variable (event : Event) (subsystem : Subsystem) (table : FrameTable)
  (update : FrameTable → FrameTable) (frame : FrameNumber) (bytes : PageBytes config)
  (key : SpaceKey) (change : Space config → Space config)

@[simp] theorem spaces_record : (machine.record event).spaces = machine.spaces := rfl

@[simp] theorem pool_record : (machine.record event).pool = machine.pool := rfl

@[simp] theorem memory_record : (machine.record event).memory = machine.memory := rfl

@[simp] theorem table_record : (machine.record event).table = machine.table := rfl

@[simp] theorem environment_record :
    (machine.record event).environment = machine.environment.record event := rfl

@[simp] theorem spaces_setTable : (machine.setTable subsystem table).spaces = machine.spaces := by
  cases subsystem <;> rfl

@[simp] theorem pool_setTable : (machine.setTable subsystem table).pool = machine.pool := by
  cases subsystem <;> rfl

@[simp] theorem memory_setTable : (machine.setTable subsystem table).memory = machine.memory := by
  cases subsystem <;> rfl

@[simp] theorem environment_setTable :
    (machine.setTable subsystem table).environment = machine.environment := by
  cases subsystem <;> rfl

@[simp] theorem spaces_updateTable :
    (machine.updateTable subsystem update).spaces = machine.spaces :=
  spaces_setTable ..

@[simp] theorem pool_updateTable : (machine.updateTable subsystem update).pool = machine.pool :=
  pool_setTable ..

@[simp] theorem memory_updateTable :
    (machine.updateTable subsystem update).memory = machine.memory :=
  memory_setTable ..

@[simp] theorem environment_updateTable :
    (machine.updateTable subsystem update).environment = machine.environment :=
  environment_setTable ..

@[simp] theorem table_updateTable :
    (machine.updateTable subsystem update).table subsystem = update (machine.table subsystem) :=
  table_setTable ..

/-- A change of one subsystem's table leaves the other one as it was. -/
theorem table_updateTable_of_ne {other : Subsystem} (different : subsystem ≠ other) :
    (machine.updateTable subsystem update).table other = machine.table other :=
  table_setTable_of_ne different ..

@[simp] theorem spaces_setFrameBytes :
    (machine.setFrameBytes frame bytes).spaces = machine.spaces := rfl

@[simp] theorem pool_setFrameBytes : (machine.setFrameBytes frame bytes).pool = machine.pool := rfl

@[simp] theorem table_setFrameBytes :
    (machine.setFrameBytes frame bytes).table = machine.table := rfl

@[simp] theorem environment_setFrameBytes :
    (machine.setFrameBytes frame bytes).environment = machine.environment := rfl

@[simp] theorem pool_updateSpace : (machine.updateSpace key change).pool = machine.pool := rfl

@[simp] theorem memory_updateSpace : (machine.updateSpace key change).memory = machine.memory :=
  rfl

@[simp] theorem table_updateSpace : (machine.updateSpace key change).table = machine.table := rfl

@[simp] theorem environment_updateSpace :
    (machine.updateSpace key change).environment = machine.environment := rfl

end Frame

/-! ## Views after a change of a space -/

variable {machine}

/-- A space that exists is the one found under its name. -/
theorem space_eq_of_get? {key : SpaceKey} {space : Space config}
    (found : machine.spaces.get? key = some space) : machine.space key = space := by
  simp [Machine.space, found]

/-- A page is registered only with a space that exists. -/
theorem exists_space_of_page? {key : SpaceKey} {number : PageNumber} {page : Page config}
    (found : machine.page? key number = some page) :
    ∃ space, machine.spaces.get? key = some space ∧ space.pages.get? number = some page := by
  unfold page? Machine.space at found
  cases present : machine.spaces.get? key with
  | none =>
    rw [present] at found
    cases found
  | some space =>
    rw [present] at found
    exact ⟨space, rfl, found⟩

/-- A change of a space that exists is seen under its name only. -/
theorem space_updateSpace {key : SpaceKey} {change : Space config → Space config}
    (found : (machine.spaces.get? key).isSome) (probe : SpaceKey) :
    (machine.updateSpace key change).space probe =
      if probe = key then change (machine.space probe) else machine.space probe := by
  unfold Machine.space updateSpace
  rw [OrderedMap.get?_modify_eq]
  split
  · next same =>
    subst same
    obtain ⟨space, present⟩ := Option.isSome_iff_exists.mp found
    rw [present]
    rfl
  · rfl

/-- A change that is computed from the space beforehand is a change of the space. -/
theorem updateSpace_const (key : SpaceKey) (change : Space config → Space config) :
    machine.updateSpace key (fun _ => change (machine.space key)) =
      machine.updateSpace key change := by
  unfold updateSpace
  rw [OrderedMap.modify_congr fun space present => ?_]
  rw [space_eq_of_get? present]

/-- Only a space that exists has pages. -/
theorem isSome_of_page? {key : SpaceKey} {number : PageNumber} {page : Page config}
    (found : machine.page? key number = some page) : (machine.spaces.get? key).isSome := by
  obtain ⟨space, present, _⟩ := exists_space_of_page? found
  rw [present]
  rfl

/-- Changing a space neither creates nor drops one. -/
theorem isSome_updateSpace {key : SpaceKey} {change : Space config → Space config}
    (probe : SpaceKey) :
    ((machine.updateSpace key change).spaces.get? probe).isSome =
      (machine.spaces.get? probe).isSome := by
  unfold updateSpace
  rw [OrderedMap.get?_modify_eq]
  split
  · exact Option.isSome_map
  · rfl

/-- What a change makes of the page map is seen in the space that is changed. -/
theorem page?_updateSpace {key : SpaceKey} {change : Space config → Space config}
    (found : (machine.spaces.get? key).isSome) (probe : SpaceKey) (other : PageNumber) :
    (machine.updateSpace key change).page? probe other =
      if probe = key then (change (machine.space key)).pages.get? other
      else machine.page? probe other := by
  unfold page?
  rw [space_updateSpace found]
  split
  · next same => rw [same]
  · rfl

/-- What a change makes of the page table is seen in the space that is changed. -/
theorem mapped?_updateSpace {key : SpaceKey} {change : Space config → Space config}
    (found : (machine.spaces.get? key).isSome) (probe : SpaceKey) (other : PageNumber) :
    (machine.updateSpace key change).mapped? probe other =
      if probe = key then (change (machine.space key)).pageTable.get? other
      else machine.mapped? probe other := by
  unfold mapped?
  rw [space_updateSpace found]
  split
  · next same => rw [same]
  · rfl

/-- A change of a space that leaves the page map alone leaves all pages alone. -/
theorem page?_updateSpace_of_same {key : SpaceKey} {change : Space config → Space config}
    (same : ∀ space, (change space).pages = space.pages) :
    (machine.updateSpace key change).page? = machine.page? := by
  funext probe other
  unfold page? Machine.space updateSpace
  rw [OrderedMap.get?_modify_eq]
  split
  · cases machine.spaces.get? probe with
    | none => rfl
    | some space => exact congrArg (·.get? other) (same space)
  · rfl

/-- A change of a space that leaves the page table alone leaves all mappings alone. -/
theorem mapped?_updateSpace_of_same {key : SpaceKey} {change : Space config → Space config}
    (same : ∀ space, (change space).pageTable = space.pageTable) :
    (machine.updateSpace key change).mapped? = machine.mapped? := by
  funext probe other
  unfold mapped? Machine.space updateSpace
  rw [OrderedMap.get?_modify_eq]
  split
  · cases machine.spaces.get? probe with
    | none => rfl
    | some space => exact congrArg (·.get? other) (same space)
  · rfl

section Amend

variable {key : SpaceKey} {number : PageNumber}

/-- Registering a page amends the view of pages by it. -/
theorem page?_setPage (found : (machine.spaces.get? key).isSome) (page : Page config) :
    (machine.updateSpace key (·.setPage page)).page? =
      amend machine.page? key page.number (some page) := by
  funext probe other
  rw [page?_updateSpace found, amend, Space.pages_setPage, OrderedMap.get?_insert_eq]
  by_cases same : probe = key <;> simp [same, page?]

@[simp] theorem mapped?_setPage (page : Page config) :
    (machine.updateSpace key (·.setPage page)).mapped? = machine.mapped? :=
  mapped?_updateSpace_of_same fun _ => rfl

/-- Forgetting a page amends the view of pages. -/
theorem page?_dropPage (found : (machine.spaces.get? key).isSome) :
    (machine.updateSpace key (·.dropPage number)).page? =
      amend machine.page? key number none := by
  funext probe other
  rw [page?_updateSpace found, amend, Space.pages_dropPage, OrderedMap.get?_erase_eq]
  by_cases same : probe = key <;> simp [same, page?]

@[simp] theorem mapped?_dropPage :
    (machine.updateSpace key (·.dropPage number)).mapped? = machine.mapped? :=
  mapped?_updateSpace_of_same fun _ => rfl

@[simp] theorem page?_unmapPage :
    (machine.updateSpace key (·.unmapPage number)).page? = machine.page? :=
  page?_updateSpace_of_same fun _ => rfl

/-- Unmapping a page amends the view of mappings. -/
theorem mapped?_unmapPage (found : (machine.spaces.get? key).isSome) :
    (machine.updateSpace key (·.unmapPage number)).mapped? =
      amend machine.mapped? key number none := by
  funext probe other
  rw [mapped?_updateSpace found, amend, Space.pageTable_unmapPage, OrderedMap.get?_erase_eq]
  by_cases same : probe = key <;> simp [same, mapped?]

@[simp] theorem page?_markDirty :
    (machine.updateSpace key (·.markDirty number)).page? = machine.page? :=
  page?_updateSpace_of_same fun _ => rfl

/-- Marking a page amends the view of mappings by one flag. -/
theorem mapped?_markDirty (found : (machine.spaces.get? key).isSome) :
    (machine.updateSpace key (·.markDirty number)).mapped? =
      amend machine.mapped? key number ((machine.mapped? key number).map fun entry =>
        { entry with flags := { entry.flags with dirty := true } }) := by
  funext probe other
  rw [mapped?_updateSpace found, amend, Space.pageTable_markDirty, OrderedMap.get?_modify_eq]
  by_cases same : probe = key
  · by_cases here : other = number <;> simp [same, here, mapped?]
  · simp [same]

end Amend

/-- A page counts as written to if the hardware maps it so; a page that is not mapped does not. -/
theorem isDirty_eq (key : SpaceKey) (number : PageNumber) :
    (machine.space key).isDirty number =
      match machine.mapped? key number with
      | some entry => entry.flags.dirty
      | none => false := rfl

theorem space_congr {later : Machine config} (same : later.spaces = machine.spaces) :
    later.space = machine.space := by
  funext key
  rw [Machine.space, Machine.space, same]

/-- The pages of all spaces are read from the spaces. -/
theorem page?_congr {later : Machine config} (same : later.spaces = machine.spaces) :
    later.page? = machine.page? := by
  funext key number
  rw [page?, page?, space_congr same]

/-- The mappings of all spaces are read from the spaces. -/
theorem mapped?_congr {later : Machine config} (same : later.spaces = machine.spaces) :
    later.mapped? = machine.mapped? := by
  funext key number
  rw [mapped?, mapped?, space_congr same]

/-- The contents of frames are read from the memory. -/
theorem frameBytes_congr {later : Machine config} (same : later.memory = machine.memory) :
    later.frameBytes = machine.frameBytes := by
  funext frame
  rw [frameBytes, frameBytes, same]

end Machine

end DemandPaging
