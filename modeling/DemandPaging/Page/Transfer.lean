import DemandPaging.Environment

/-!
# Moving pages in and out of frames

Loading fills a frame with the content of a page, storing saves the content of a frame that is
needed for another page, and discarding ends a page for good. Loading works on a `FrameWindow`,
the frame and the environment together, because a load that fails leaves in the frame what it had
got so far.
-/

namespace DemandPaging

/-- A frame that is being loaded, and the environment it is loaded from. -/
structure FrameWindow (config : Config) where
  environment : Environment config
  bytes : PageBytes config

/-- A computation on a frame that is being loaded. -/
abbrev FrameAction (config : Config) := Action (FrameWindow config)

namespace FrameAction

variable {config : Config}

/-- Runs a computation on the environment. -/
def onEnvironment {Value : Type} (action : EnvironmentAction config Value) :
    FrameAction config Value :=
  action.zoom FrameWindow.environment fun window environment =>
    { window with environment := environment }

/-- Changes the bytes of the frame. -/
def changeBytes (update : PageBytes config → PageBytes config) : FrameAction config Unit :=
  .change fun window => { window with bytes := update window.bytes }

/-- Runs an initializer on the frame, for the page that is being loaded. -/
def runInitializer (initializer : Initializer config) (number : PageNumber) :
    FrameAction config Unit := do
  onEnvironment (EnvironmentAction.record (.initializing initializer.id number))
  let run ← onEnvironment (EnvironmentAction.countRun initializer.id)
  let (bytes, failure) := initializer.run run number (← Action.current).bytes
  changeBytes fun _ => bytes
  match failure with
  | some error => .fail error
  | none => return ()

end FrameAction

namespace FileBacking

variable {config : Config}

/-- Fills a frame from the file; the rest of the frame becomes zero. A read that yields too few
bytes is an error. -/
def load (backing : FileBacking config) : FrameAction config Unit := do
  FrameAction.changeBytes (·.clearFrom backing.readBytes)
  if backing.readBytes = 0 then
    return ()
  else
    let data ← FrameAction.onEnvironment
      (EnvironmentAction.readFile backing.handle backing.offset backing.readBytes)
    FrameAction.changeBytes (·.overwrite 0 data)
    if data.size = backing.readBytes then
      return ()
    else
      FrameAction.onEnvironment
        (EnvironmentAction.record (.shortRead backing.offset backing.readBytes data.size))
      .fail (.io inputOutputError)

/-- Writes the part of a frame that came from the file back to it. The zeros behind it never
reach the file, and a write that takes too few bytes is an error. -/
def writeBack (backing : FileBacking config) (bytes : PageBytes config) :
    EnvironmentAction config Unit := do
  if backing.readBytes = 0 then
    return ()
  else
    let count ← EnvironmentAction.writeFile backing.handle backing.offset
      (bytes.slice 0 backing.readBytes)
    if count = backing.readBytes then
      return ()
    else
      EnvironmentAction.record (.shortWrite backing.offset backing.readBytes count)
      .fail (.io inputOutputError)

end FileBacking

/-- Fills a frame with the first content of a page, before any initializer: zeros, or the bytes of
its file. -/
def PageTarget.load {config : Config} : PageTarget config → FrameAction config (PageKind config)
  | .anonymous => do
    FrameAction.changeBytes fun _ => PageBytes.zero
    return .anonymous none
  | .file backing => do
    backing.load
    return .file backing

namespace PageKind

variable {config : Config}

/-- Fills a frame with the content of a page and returns what the page is from now on. A page
changes its kind only by a load that succeeds; until then it can be loaded again. -/
def load (number : PageNumber) : PageKind config → FrameAction config (PageKind config)
  | .unloaded target initializer => do
    let kind ← target.load
    match initializer with
    | some initializer => FrameAction.runInitializer initializer number
    | none => pure ()
    return kind
  | .anonymous (some slot) => do
    let content ← FrameAction.onEnvironment (EnvironmentAction.readSlot slot)
    FrameAction.changeBytes fun _ => content
    FrameAction.onEnvironment (EnvironmentAction.freeSlot slot)
    return .anonymous none
  | .anonymous none => do
    FrameAction.changeBytes fun _ => PageBytes.zero
    return .anonymous none
  | .file backing => do
    backing.load
    return .file backing

/-- Saves the content of a page whose frame is needed and returns what the page is afterwards. An
anonymous page goes to swap unless it is all zeros; a file page goes to its file if it was written
to. The kernel cannot go on if that fails. -/
def store (number : PageNumber) (bytes : PageBytes config) (dirty : Bool) :
    PageKind config → EnvironmentAction config (PageKind config)
  | .anonymous slot => do
    Action.assert slot.isNone .slotStillHeld
    if bytes.isZero then
      return .anonymous slot
    else
      let fresh ← EnvironmentAction.swapOut bytes
      return .anonymous (some fresh)
  | .file backing => do
    if dirty then
      match ← (backing.writeBack bytes).attempt with
      | .ok () => return .file backing
      | .error error => .halt (.writeBackFailed number error)
    else
      return .file backing
  | .unloaded _ _ => .halt (.unloadedResident number)

/-- Ends a page. A resident file page that was written to goes to its file, and a swap slot is
returned; `resident` is the content of the page's frame, if it has one, and whether it was
written to. -/
def discard (resident : Option (PageBytes config × Bool)) :
    PageKind config → EnvironmentAction config Unit
  | .file backing =>
    match resident with
    | some (bytes, true) => backing.writeBack bytes
    | _ => return ()
  | .anonymous (some slot) => EnvironmentAction.freeSlot slot
  | .anonymous none => return ()
  | .unloaded _ _ => return ()

end PageKind

end DemandPaging
