import DemandPaging.Machine

/-!
# Looking at a machine

Views of a machine that change nothing: who uses a file handle, what an address space holds, what
a file holds, and the counts of the frame and swap subsystems. A handle is open as long as anybody
uses it, so the number of open handles is a fact about pages, mappings and the file's creator
rather than a count that somebody keeps.
-/

namespace DemandPaging

namespace Space

variable {config : Config}

/-- The file handles that the pages and mappings of a space use, each as often as it is used. -/
def handles (space : Space config) : List FileHandle :=
  (space.pages.values.filterMap fun page => page.kind.backing?.map FileBacking.handle) ++
    space.regions.values.map Region.handle

end Space

/-- What is known of a page, in the words of a report. -/
structure PageReport where
  address : VirtualAddress
  type : PageType
  writable : Bool
  frame : Option PhysicalAddress
  /-- The flags of the mapping, if there is one. -/
  flags : Option EntryFlags
  /-- The content of the page's frame, or else of its swap slot. -/
  content : Option Bytes
  /-- The swap slot of a page that is not resident. -/
  slot : Option SwapSlot
  /-- For a file page its offset, the bytes that come from the file and the zeros behind them, and
  the number of users of its handle. -/
  backing : Option (Word × Nat × Nat × Nat)

/-- What is known of a file mapping. -/
structure RegionReport where
  start : VirtualAddress
  pages : Nat
  offset : Word

/-- What is known of an address space. -/
structure SpaceReport where
  id : SpaceId
  pages : List PageReport
  stackPointer : Option VirtualAddress
  regions : List RegionReport

/-- What is known of a file. -/
structure FileReport where
  data : Bytes
  openHandles : Nat
  reopens : Nat
  reads : Nat
  writes : Nat

/-- The counts of the main frame subsystem, the pool and the swap device. -/
structure Totals where
  resident : Nat
  evictions : Nat
  freeFrames : Nat
  usedSlots : Nat
  swapWrites : Nat
deriving DecidableEq

namespace Region

/-- What is known of the mapping. -/
def report (config : Config) (region : Region) : RegionReport where
  start := region.range.start.firstAddress config
  pages := region.range.length.toNat
  offset := region.offset

end Region

namespace Machine

variable {config : Config}

/-- Whether a handle is the one that the creator of its file still holds. -/
def creatorHolds (machine : Machine config) (handle : FileHandle) : Bool :=
  handle == handle.file.creationHandle && (machine.environment.file handle.file).creatorHolds

/-- All uses of file handles by pages and mappings of any space. -/
def handleUses (machine : Machine config) : List FileHandle :=
  machine.spaces.values.flatMap Space.handles

/-- The number of users of a handle: pages, mappings, and perhaps the creator of the file. -/
def handleUsers (machine : Machine config) (handle : FileHandle) : Nat :=
  machine.handleUses.count handle + (machine.creatorHolds handle).toNat

/-- The handles of a file that somebody uses, each once. -/
def openHandles (machine : Machine config) (file : FileId) : List FileHandle :=
  let held := if machine.creatorHolds file.creationHandle then [file.creationHandle] else []
  (held ++ machine.handleUses.filter fun handle => handle.file == file).eraseDups

/-- What is known of a page of a space. -/
def pageReport (machine : Machine config) (space : Space config) (page : Page config) :
    PageReport where
  address := page.number.firstAddress config
  type := page.kind.type
  writable := page.writable
  frame := page.frame.map (FrameNumber.address · config)
  flags := (space.pageTable.get? page.number).map PageTableEntry.flags
  content := match page.frame with
    | some frame => some (machine.frameBytes frame).toArray
    | none => page.kind.slot?.map fun slot =>
        match machine.environment.swap.content? slot with
        | some content => content.toArray
        | none => #[]
  slot := if page.isResident then none else page.kind.slot?
  backing := match page.kind with
    | .file backing => some
        (backing.offset, backing.readBytes, backing.zeroBytes, machine.handleUsers backing.handle)
    | _ => none

/-- What is known of an address space. -/
def spaceReport (machine : Machine config) (key : SpaceKey) : SpaceReport where
  id := key.id
  pages := (machine.space key).pages.values.map (machine.pageReport (machine.space key))
  stackPointer := (machine.space key).stackPointer
  regions := (machine.space key).mappings.map (Region.report config)

/-- What is known of a file. -/
def fileReport (machine : Machine config) (id : FileId) : FileReport where
  data := (machine.environment.file id).data
  openHandles := (machine.openHandles id).length
  reopens := (machine.environment.file id).reopens
  reads := (machine.environment.file id).reads
  writes := (machine.environment.file id).writes

/-- What is known of all files. -/
def fileReports (machine : Machine config) : List FileReport :=
  machine.environment.files.keys.map machine.fileReport

/-- The counts of the machine. -/
def totals (machine : Machine config) : Totals where
  resident := machine.mainTable.resident
  evictions := machine.mainTable.evictions
  freeFrames := machine.pool.free.length
  usedSlots := machine.environment.swap.used
  swapWrites := machine.environment.swap.writes

end Machine

end DemandPaging
