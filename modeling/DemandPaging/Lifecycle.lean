import DemandPaging.Mapping

/-!
# The life of an address space

A space is created empty, may be copied from another one, and is torn down before it goes. A copy
takes the pages of its model in ascending order: pages that were never loaded stay so, the content
of a resident page is copied to a frame of its own, and the content of a swapped-out page is read
from its slot. The frame that is being copied is pinned, so that making room for the copy cannot
evict it.
-/

namespace DemandPaging

/-- Where the content of a page can be copied from. -/
inductive CopySource where
  | frame (frame : FrameNumber)
  | slot (slot : SwapSlot)
deriving DecidableEq

/-- Where the content of a page can be copied from, if it has to be copied at all: pages that were
never loaded, zero pages and file pages that are not resident have nothing to copy. -/
def Page.copySource? {config : Config} (page : Page config) : Option CopySource :=
  match page.kind, page.frame with
  | .unloaded _ _, _ => none
  | _, some frame => some (.frame frame)
  | .anonymous slot, none => slot.map .slot
  | .file _, none => none

namespace KernelAction

variable {config : Config}

/-- Creates an empty address space and registers it. -/
def createSpace (subsystem : Subsystem) : KernelAction config SpaceKey := do
  let machine ← Action.current
  let table := machine.table subsystem
  let key : SpaceKey := { subsystem := subsystem, id := ⟨table.nextSpace⟩ }
  let root : PhysicalAddress := ⟨UInt64.ofNat (0x1000 * (machine.pageTables + 1))⟩
  .change fun machine =>
    { machine with
      spaces := machine.spaces.insert key (Space.fresh root)
      pageTables := machine.pageTables + 1 }
  updateTable subsystem fun table => { table with nextSpace := table.nextSpace + 1 }
  return key

/-- Finds a frame and fills it from the source of a copy; the result says whether the copy counts
as written to. -/
def fillCopy (child parent : SpaceKey) (number : PageNumber) :
    CopySource → KernelAction config (FrameNumber × Bool)
  | .frame source => do
    updateTable child.subsystem (·.setPinned source true)
    let frame ← acquireFrame child.subsystem [parent, child]
    updateTable child.subsystem (·.setPinned source false)
    .change fun machine => machine.setFrameBytes frame (machine.frameBytes source)
    return (frame, (← space parent).isDirty number)
  | .slot slot => do
    let frame ← acquireFrame child.subsystem [parent, child]
    match ← (onEnvironment (EnvironmentAction.readSlot slot)).attempt with
    | .ok content =>
      .change (·.setFrameBytes frame content)
      return (frame, false)
    | .error error =>
      releaseFrame child.subsystem frame
      .fail error

/-- Copies one page of a space to another space, content included. -/
def copyPage (child parent : SpaceKey) (number : PageNumber) : KernelAction config Unit := do
  match (← space parent).pages.get? number with
  | none => return ()
  | some page =>
    insertPage child page.forked
    match page.copySource? with
    | none => return ()
    | some source =>
      let (frame, dirty) ← fillCopy child parent number source
      settlePage child page.forked frame
      if dirty then updateSpace child (·.markDirty number) else pure ()

/-- Copies all pages and mappings of one space to another of the same subsystem. If that fails,
the pages copied so far stay. -/
def copySpace (child parent : SpaceKey) : KernelAction config Unit := do
  Action.require (child.id != parent.id && child.subsystem == parent.subsystem) .invalidArgument
  let model ← space parent
  updateSpace child fun space => { space with stackPointer := model.stackPointer }
  Action.forEach (copyPage child parent) model.pages.keys
  let regions := (← space parent).regions.entries
  updateSpace child fun space =>
    { space with
      regions := regions.foldl (fun regions (start, region) => regions.insert start region)
        space.regions }

/-- Removes pages one by one; what cannot be saved is reported in the history and lost. -/
def tearDownPages (key : SpaceKey) : List PageNumber → KernelAction config Unit :=
  Action.forEach fun number => do
    match (← space key).pages.get? number with
    | none => return ()
    | some _ =>
      match ← (removePage key number).attempt with
      | .ok () => return ()
      | .error error => record (.teardownFailed number error)

/-- Removes all pages and mappings of a space. The space can be used again. -/
def tearDown (key : SpaceKey) : KernelAction config Unit := do
  tearDownPages key (← space key).pages.keys
  updateSpace key fun space => { space with regions := .empty }

/-- Tears a space down and forgets it. -/
def dropSpace (key : SpaceKey) : KernelAction config Unit := do
  tearDown key
  .change fun machine => { machine with spaces := machine.spaces.erase key }

/-- Creates a copy of a space. If the copy cannot be completed it is dropped, also when the kernel
panics over it. -/
def forkSpace (parent : SpaceKey) : KernelAction config SpaceKey := do
  let child ← createSpace parent.subsystem
  match ← ((copySpace child parent).unwinding (dropSpace child)).attempt with
  | .ok () => return child
  | .error error =>
    dropSpace child
    .fail error

end KernelAction

end DemandPaging
