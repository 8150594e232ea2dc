import DemandPaging.Residency

/-!
# File mappings

A file is mapped by registering its pages to be loaded at their first use. The mapping opens a
handle of its own, shared by its pages and its record, so it outlives the handle it was made from.
A mapping that meets a registered page is undone completely.
-/

namespace DemandPaging

/-- A mapping that is being made. -/
structure MappingPlan where
  start : PageNumber
  writable : Bool
  handle : FileHandle
  offset : Word
  fileLength : Nat

/-- The page at an index of a mapping: it will be loaded from its part of the file, and holds
zeros where the file has ended. -/
def MappingPlan.page (config : Config) (plan : MappingPlan) (index : Nat) :
    Except Overflow (Page config) := do
  let distance ← Word.times (UInt64.ofNat index) config.pageSizeWord
  let offset ← Word.plus plan.offset distance
  let backing := FileBacking.ofFileLength config plan.handle offset plan.fileLength
  return Page.awaiting (plan.start.advance index) plan.writable (.file backing) none

namespace KernelAction

variable {config : Config}

/-- Registers the pages of a mapping from `index` on. If one of them cannot be registered, those
before it are forgotten again. -/
def registerPages (key : SpaceKey) (address : VirtualAddress) (plan : MappingPlan) :
    (index remaining : Nat) → KernelAction config Unit
  | _, 0 => return ()
  | index, remaining + 1 => do
    let page ← Action.exactly (plan.page config index)
    match ← (insertPage key page).attempt with
    | .ok () => registerPages key address plan (index + 1) remaining
    | .error error =>
      record (.mapFailed address page.number error)
      updateSpace key (·.dropPages plan.start index)
      .fail error

/-- Maps `length` bytes of a file from `offset` on at `address`, page by page. -/
def mapFile (key : SpaceKey) (address : VirtualAddress) (length : Word) (writable : Bool)
    (file : FileHandle) (offset : Word) : KernelAction config VirtualAddress := do
  Action.require (!address.isNull && address.isPageAligned config) .invalidAddress
  Action.require (length != 0 && config.offsetInPage offset == 0) .invalidArgument
  let stop ← Action.orFail (address.checkedAdd length) .invalidAddress
  Action.require (stop.word ≤ config.userEnd) .invalidAddress
  let count := Word.ceilingDiv length config.pageSizeWord
  let span ← Action.exactly (Word.times (count - 1) config.pageSizeWord)
  let _ ← Action.orFail (Word.checkedAdd offset span) .invalidArgument
  let handle ← onEnvironment (EnvironmentAction.reopen file)
  let fileLength ← onEnvironment (EnvironmentAction.fileLength handle)
  let start := address.page config
  let range ← Action.exactly (PageRange.ofCount start count)
  registerPages key address { start, writable, handle, offset, fileLength } 0 count.toNat
  updateSpace key fun space =>
    { space with
      regions := space.regions.insert start { range := range, handle := handle, offset := offset } }
  return address

/-- Removes those pages of a list that belong to a mapping, and returns the last error. -/
def removeOwned (key : SpaceKey) (region : Region) :
    List PageNumber → Except VmError Unit → KernelAction config (Except VmError Unit)
  | [], result => return result
  | number :: rest, result => do
    match (← space key).pages.get? number with
    | none => removeOwned key region rest result
    | some page =>
      if region.owns page then
        match ← (removePage key number).attempt with
        | .ok () => removeOwned key region rest result
        | .error error =>
          record (.unmapFailed number error)
          removeOwned key region rest (.error error)
      else
        removeOwned key region rest result

/-- Removes the mapping that starts at an address, with the pages that still belong to it. -/
def unmapFile (key : SpaceKey) (address : VirtualAddress) : KernelAction config Unit := do
  Action.require (address.isPageAligned config) .notMapped
  let start := address.page config
  let region ← Action.orFail ((← space key).regions.get? start) .notMapped
  updateSpace key fun space => { space with regions := space.regions.erase start }
  let result ← removeOwned key region region.range.pages (.ok ())
  Action.ofExcept result

end KernelAction

end DemandPaging
