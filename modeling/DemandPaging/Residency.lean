import DemandPaging.Machine

/-!
# Residency

Pages become resident when a frame is found for them and stop being resident when their frame is
taken for another page or given back. Frames come from the pool while it has any; after that every
request evicts one page, the one that has been resident the longest.

`acquireFrame` is the only way to a frame, `claimPage` the only way to load a page, and
`discardPage` the only way to end one.
-/

namespace DemandPaging

namespace KernelAction

variable {config : Config}

/-- Takes a free frame from the pool and clears it. -/
def takeFree : KernelAction config (Option FrameNumber) := do
  match (← Action.current).pool.take with
  | none => return none
  | some (frame, pool) =>
    .change fun machine => { machine with pool := pool }.setFrameBytes frame PageBytes.zero
    return some frame

/-- Gives a frame back to the pool. -/
def giveBack (frame : FrameNumber) : KernelAction config Unit := do
  let pool := (← Action.current).pool
  Action.assert (!pool.isFree frame) (.frameFreedTwice (frame.address config))
  .change fun machine => { machine with pool := machine.pool.giveBack frame }

/-- Puts a frame at the end of the queue of a subsystem. -/
def enqueue (subsystem : Subsystem) (frame : FrameNumber) : KernelAction config Unit := do
  let table := (← Action.current).table subsystem
  Action.assert (!table.tracks frame) .frameQueuedTwice
  updateTable subsystem (·.push frame)

/-- Records which page occupies a frame. -/
def assignFrame (frame : FrameNumber) (key : SpaceKey) (number : PageNumber) :
    KernelAction config Unit := do
  if ((← Action.current).table key.subsystem).tracks frame then
    updateTable key.subsystem (·.assign frame { space := key.id, page := number })
    record (.becameResident key number frame)
  else
    record (.assigningUntracked frame)

/-- Takes a frame out of the queue of a subsystem and gives it back to the pool. -/
def releaseFrame (subsystem : Subsystem) (frame : FrameNumber) : KernelAction config Unit := do
  if ((← Action.current).table subsystem).tracks frame then
    updateTable subsystem (·.remove frame)
  else
    record (.releasingUntracked frame)
  giveBack frame

/-- Saves the content of a page and takes its frame and its mapping away. -/
def evictPage (key : SpaceKey) (number : PageNumber) (frame : FrameNumber) :
    KernelAction config Unit := do
  let dirty := (← space key).isDirty number
  updateSpace key (·.unmapPage number)
  match (← space key).pages.get? number with
  | none => record (.evictedPageMissing frame number)
  | some page =>
    Action.assert (page.frame == some frame)
      (.frameMismatch (page.frame.map (FrameNumber.address · config)) (frame.address config))
    let bytes ← Action.view (·.frameBytes frame)
    let kind ← onEnvironment (page.kind.store page.number bytes dirty)
    updateSpace key (·.setPage { page with kind := kind, frame := none })

/-- Empties the frame of a queue entry. Its owner is found among the spaces that the caller works
on, `held`, and among the registered ones. -/
def evict (subsystem : Subsystem) (held : List SpaceKey) (entry : FrameEntry) :
    KernelAction config Unit := do
  match entry.owner with
  | none => return ()
  | some owner =>
    let key : SpaceKey := { subsystem := subsystem, id := owner.space }
    record (.evicting key owner.page)
    if held.contains key || (← space key).registered then
      evictPage key owner.page entry.frame
    else
      record (.ownerVanished entry.frame owner.space)

/-- Finds a frame, fills it with zeros and puts it at the end of the queue, without an owner. -/
def acquireFrame (subsystem : Subsystem) (held : List SpaceKey) :
    KernelAction config FrameNumber := do
  record (.frameRequested subsystem (← Action.current).pool.free.isEmpty)
  match ← takeFree with
  | some frame =>
    enqueue subsystem frame
    return frame
  | none =>
    match ((← Action.current).table subsystem).pickVictim with
    | none => .halt .outOfFrames
    | some (victim, remaining) =>
      updateTable subsystem fun _ => remaining
      evict subsystem held victim
      updateTable subsystem (·.countEviction)
      .change (·.setFrameBytes victim.frame PageBytes.zero)
      enqueue subsystem victim.frame
      return victim.frame

/-- Gives a loaded page its frame: the page holds it, the hardware maps it, and the queue knows
its owner. -/
def settlePage (key : SpaceKey) (page : Page config) (frame : FrameNumber) :
    KernelAction config Unit := do
  Action.assert page.frame.isNone (.alreadyResident page.number)
  updateSpace key fun space =>
    (space.setPage { page with frame := some frame }).mapPage page.number frame
      (EntryFlags.userPage page.writable)
  assignFrame frame key page.number

/-- Loads a registered page into a frame. If that fails the frame is given back and the page is as
it was. -/
def claimPage (key : SpaceKey) (number : PageNumber) : KernelAction config Unit := do
  let frame ← acquireFrame key.subsystem [key]
  match (← space key).pages.get? number with
  | none =>
    releaseFrame key.subsystem frame
    .fail .notMapped
  | some page =>
    record (.loading key number)
    match ← (onFrame frame (page.kind.load page.number)).attempt with
    | .error error =>
      record (.loadFailed page.number error)
      releaseFrame key.subsystem frame
      .fail error
    | .ok kind =>
      let loaded := { page with kind := kind }
      updateSpace key (·.setPage loaded)
      settlePage key loaded frame

/-- Ends a page that was taken out of its address space. Its frame is given back even if the
content cannot be saved. -/
def discardPage (key : SpaceKey) (page : Page config) : KernelAction config Unit := do
  match page.frame with
  | none => onEnvironment (page.kind.discard none)
  | some frame =>
    let dirty := (← space key).isDirty page.number
    updateSpace key (·.unmapPage page.number)
    let bytes ← Action.view (·.frameBytes frame)
    let result ← (onEnvironment (page.kind.discard (some (bytes, dirty)))).attempt
    releaseFrame key.subsystem frame
    Action.ofExcept result

/-- Takes a page out of an address space and ends it. -/
def removePage (key : SpaceKey) (number : PageNumber) : KernelAction config Unit := do
  let page ← takePage key number
  discardPage key page

/-- Loads the registered page that holds an address, unless it is resident. -/
def claimAddress (key : SpaceKey) (address : VirtualAddress) : KernelAction config Unit := do
  let page ← Action.orFail ((← space key).pageAt? address) .notMapped
  if page.isResident then return ()
  else claimPage key (address.page config)

/-- Removes the registered page that holds an address. -/
def removeAddress (key : SpaceKey) (address : VirtualAddress) : KernelAction config Unit :=
  removePage key (address.page config)

/-- Registers a page that will be loaded at its first use. -/
def allocatePage (key : SpaceKey) (target : PageTarget config) (address : VirtualAddress)
    (writable : Bool) (initializer : Option (Initializer config)) :
    KernelAction config Unit := do
  Action.require (address.isNameable config) .invalidAddress
  insertPage key (Page.awaiting (address.page config) writable target initializer)

/-- Shuts a frame subsystem down: all its frames go back to the pool and it forgets its spaces.
This is meant for the time when no space is left. -/
def shutdown (subsystem : Subsystem) : KernelAction config Unit := do
  let alive := ((← Action.current).registeredSpaces subsystem).length
  if alive = 0 then pure () else record (.shutdownWithSpaces alive)
  let queue := ((← Action.current).table subsystem).queue
  Action.forEach (fun entry => do
    updateTable subsystem (·.remove entry.frame)
    giveBack entry.frame) queue
  .change fun machine =>
    { machine with
      spaces := machine.spaces.mapValues fun key space =>
        if key.subsystem = subsystem then { space with registered := false } else space }

end KernelAction

end DemandPaging
