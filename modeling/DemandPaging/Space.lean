import DemandPaging.Flags
import DemandPaging.Page.Basic

/-!
# Address spaces

An address space keeps two tables. The page map knows every registered page; the page table knows
the mappings that the hardware follows, one for each resident page. The space also records the
file mappings that were made in it and the user stack pointer that it last saw.
-/

namespace DemandPaging

/-- A mapping that the hardware follows. -/
structure PageTableEntry where
  frame : FrameNumber
  flags : EntryFlags
deriving DecidableEq

/-- A file mapping: its pages, and the handle and the file position they were mapped from. -/
structure Region where
  range : PageRange
  handle : FileHandle
  offset : Word

/-- The state of one address space. -/
structure Space (config : Config) where
  /-- Where the page table lies in physical memory. -/
  root : PhysicalAddress
  pages : OrderedMap PageNumber (Page config) := .empty
  pageTable : OrderedMap PageNumber PageTableEntry := .empty
  /-- The stack pointer at the last entry from user mode. -/
  stackPointer : Option VirtualAddress := none
  /-- The file mappings under their first pages. -/
  regions : OrderedMap PageNumber Region := .empty
  /-- Whether the frame subsystem knows the space, and so may take its frames. -/
  registered : Bool := true

namespace Region

variable {config : Config}

/-- Whether a page was made by this mapping and still belongs to it. -/
def owns (region : Region) (page : Page config) : Bool :=
  region.range.contains page.number && page.uses region.handle

/-- How messages describe the mapping. -/
def text (region : Region) : String :=
  "MmapRegion \x7b range: " ++ region.range.text ++ ", file: \"<dyn MmFile>\", offset: " ++
    toString region.offset.toNat ++ " \x7d"

end Region

namespace Space

variable {config : Config}

/-- A space without pages. -/
def fresh (root : PhysicalAddress) : Space config where
  root := root

/-- The registered page that holds an address. -/
def pageAt? (space : Space config) (address : VirtualAddress) : Option (Page config) :=
  space.pages.get? (address.page config)

/-- Registers a page, unless there is one already. -/
def insertPage (space : Space config) (page : Page config) : Except VmError (Space config) :=
  if space.pages.contains page.number then .error .alreadyMapped
  else .ok { space with pages := space.pages.insert page.number page }

/-- Replaces what is known about a page. -/
def setPage (space : Space config) (page : Page config) : Space config :=
  { space with pages := space.pages.insert page.number page }

/-- Forgets a page, whatever it holds. -/
def dropPage (space : Space config) (number : PageNumber) : Space config :=
  { space with pages := space.pages.erase number }

/-- Forgets a number of consecutive pages, whatever they hold. -/
def dropPages (space : Space config) (start : PageNumber) : Nat → Space config
  | 0 => space
  | count + 1 => (space.dropPages start count).dropPage (start.advance count)

/-- Maps a page to a frame. A fresh mapping has not been written through. -/
def mapPage (space : Space config) (number : PageNumber) (frame : FrameNumber)
    (flags : EntryFlags) : Space config :=
  { space with
    pageTable := space.pageTable.insert number
      { frame := frame, flags := { flags with dirty := false } } }

/-- Removes the mapping of a page. -/
def unmapPage (space : Space config) (number : PageNumber) : Space config :=
  { space with pageTable := space.pageTable.erase number }

/-- Notes that a mapped page was written to. -/
def markDirty (space : Space config) (number : PageNumber) : Space config :=
  { space with
    pageTable := space.pageTable.modify number fun entry =>
      { entry with flags := { entry.flags with dirty := true } } }

/-- Whether a page is mapped and was written to. -/
def isDirty (space : Space config) (number : PageNumber) : Bool :=
  match space.pageTable.get? number with
  | some entry => entry.flags.dirty
  | none => false

/-- The physical address behind a virtual one, if its page is mapped. -/
def translate (space : Space config) (address : VirtualAddress) : Option PhysicalAddress :=
  (space.pageTable.get? (address.page config)).map fun entry =>
    ⟨(entry.frame.address config).word + address.pageOffset config⟩

/-- The flags with which the page of an address is mapped. -/
def entryFlags? (space : Space config) (address : VirtualAddress) : Option EntryFlags :=
  (space.pageTable.get? (address.page config)).map PageTableEntry.flags

/-- Checks a pointer that a user program passed in: not null, in user memory, and to a page that is
registered or mapped. -/
def checkAddress (space : Space config) (address : VirtualAddress) : Except VmError Unit :=
  if address.isNameable config &&
      (space.pages.contains (address.page config) ||
        space.pageTable.contains (address.page config)) then
    .ok ()
  else .error .invalidAddress

/-- The pages that hold a frame, in ascending order. -/
def residentPages (space : Space config) : List (Page config) :=
  space.pages.values.filter Page.isResident

/-- The file mappings in ascending order of their addresses. -/
def mappings (space : Space config) : List Region := space.regions.values

end Space

end DemandPaging
