import DemandPaging.Action
import DemandPaging.Device.File
import DemandPaging.Device.Swap
import DemandPaging.Event
import DemandPaging.Page.Basic

/-!
# The kernel's environment

The environment is what the kernel talks to without owning it: the swap device, the files, the
initializers that programs supplied, and the record of everything that happened. Operations on it
report a device's failure as a `VmError` of the caller's choice of kind.
-/

namespace DemandPaging

/-- Devices, initializers and history. -/
structure Environment (config : Config) where
  swap : SwapDevice config
  files : OrderedMap FileId File := .empty
  /-- How often each initializer has been run. -/
  runs : OrderedMap InitializerId Nat := .empty
  /-- How many requests were made so far. The failures of devices go by it. -/
  moment : Nat := 0
  /-- What happened so far, the latest event last. -/
  history : Array Event := #[]

namespace Environment

variable {config : Config}

/-- The file of the given name; an empty one where there is none. -/
def file (environment : Environment config) (id : FileId) : File :=
  (environment.files.get? id).getD {}

/-- Replaces a file. -/
def setFile (environment : Environment config) (id : FileId) (file : File) :
    Environment config :=
  { environment with files := environment.files.modify id fun _ => file }

/-- How often an initializer has been run. -/
def runsOf (environment : Environment config) (id : InitializerId) : Nat :=
  (environment.runs.get? id).getD 0

/-- Adds an event to the history. With a request a new moment begins. -/
def record (environment : Environment config) (event : Event) : Environment config :=
  { environment with
    moment := if event.isRequest then environment.moment + 1 else environment.moment
    history := environment.history.push event }

/-- The failures that a file is subject to now. -/
def fileSwitches (environment : Environment config) (id : FileId) : FileSwitches :=
  (environment.file id).faults.inForce environment.moment

/-- The failures that the swap device is subject to now. -/
def swapSwitches (environment : Environment config) : SwapSwitches :=
  environment.swap.faults.inForce environment.moment

end Environment

/-- A computation on the environment. -/
abbrev EnvironmentAction (config : Config) := Action (Environment config)

namespace EnvironmentAction

variable {config : Config}

/-- Adds an event to the history. -/
def record (event : Event) : EnvironmentAction config Unit :=
  .change (·.record event)

/-- Counts one more run of an initializer and returns its number. -/
def countRun (id : InitializerId) : EnvironmentAction config Nat := do
  let run := (← Action.view (·.runsOf id)) + 1
  .change fun environment =>
    { environment with runs := environment.runs.modify id fun _ => run }
  return run

/-- Reads the page that a swap slot holds. -/
def readSlot (slot : SwapSlot) : EnvironmentAction config (PageBytes config) := do
  let environment ← Action.current
  match environment.swap.read environment.swapSwitches slot with
  | .ok content => return content
  | .error code => .fail (.io code)

/-- Returns a swap slot to the device. -/
def freeSlot (slot : SwapSlot) : EnvironmentAction config Unit := do
  let swap := (← Action.current).swap
  Action.assert (swap.slots.contains slot) (.slotFreedTwice slot)
  .change fun environment => { environment with swap := environment.swap.release slot }

/-- Writes a page to a fresh swap slot. The slot stays allocated if the write fails. -/
def swapOut (content : PageBytes config) : EnvironmentAction config SwapSlot := do
  match (← Action.current).swap.lowestFree with
  | none => .halt .swapFull
  | some slot =>
    .change fun environment => { environment with swap := environment.swap.allocate slot }
    let environment ← Action.current
    match environment.swap.write environment.swapSwitches slot content with
    | .error code => .halt (.swapWriteFailed slot code)
    | .ok swap =>
      .change fun environment => { environment with swap := swap }
      return slot

/-- Makes sure that the contents of a file can be reached through a handle. -/
def checkHandle (handle : FileHandle) : EnvironmentAction config Unit := do
  match ((← Action.current).fileSwitches handle.file).inode with
  | some code => .fail (.badFile code)
  | none => return ()

/-- Opens another handle of the file that a handle belongs to. -/
def reopen (handle : FileHandle) : EnvironmentAction config FileHandle := do
  let environment ← Action.current
  match (environment.fileSwitches handle.file).reopen with
  | some code => .fail (.badFile code)
  | none =>
    let file := environment.file handle.file
    let serial := file.reopens + 1
    .change (·.setFile handle.file { file with reopens := serial })
    return { file := handle.file, serial := serial }

/-- The length of the file that a handle belongs to. -/
def fileLength (handle : FileHandle) : EnvironmentAction config Nat := do
  checkHandle handle
  return ((← Action.current).file handle.file).data.size

/-- Reads bytes of a file; there may be fewer than were asked for. -/
def readFile (handle : FileHandle) (offset : Word) (length : Nat) :
    EnvironmentAction config Bytes := do
  record (.readingFile handle offset length)
  checkHandle handle
  let environment ← Action.current
  match (environment.file handle.file).read (environment.fileSwitches handle.file) offset.toNat
      length with
  | .error code => .fail (.io code)
  | .ok (bytes, file) =>
    .change (·.setFile handle.file file)
    return bytes

/-- Writes bytes to a file and returns how many of them it took. -/
def writeFile (handle : FileHandle) (offset : Word) (bytes : Bytes) :
    EnvironmentAction config Nat := do
  record (.writingBack handle offset bytes)
  checkHandle handle
  let environment ← Action.current
  match (environment.file handle.file).write (environment.fileSwitches handle.file) offset.toNat
      bytes with
  | .error code => .fail (.io code)
  | .ok (count, file) =>
    .change (·.setFile handle.file file)
    return count

end EnvironmentAction

end DemandPaging
