import DemandPaging.Lifecycle
import DemandPaging.UserCopy

/-!
# Operations

An `Operation` is one thing that can happen to a machine: a program, or the kernel on its behalf,
asks something of an address space, or something changes in the environment. `Operation.perform`
says what it does. Operations on spaces, files and handles that do not exist are refused. A refused
operation changes nothing, except that an initializer is listed as soon as a registration brings
it, even if the target that the page was to have is then refused.
-/

namespace DemandPaging

/-- Why an operation is refused. -/
inductive Refusal where
  | noSuchSpace
  | noSuchFile
  /-- The creator of the file has closed its handle. -/
  | handleClosed
  /-- The operation could not be understood, for the given reason. -/
  | malformed (reason : String)
deriving DecidableEq

/-- The description of a refusal for people. -/
def Refusal.message : Refusal → String
  | .noSuchSpace => "no such space"
  | .noSuchFile => "no such file"
  | .handleClosed => "file handle is closed"
  | .malformed reason => reason

/-- What a page that is to be registered shall become. -/
inductive TargetRequest where
  | anonymous
  /-- A file page, through the handle that the creator of the file holds. -/
  | file (file : FileId) (offset readBytes zeroBytes : Word)
  /-- The target could not be understood, for the given reason. -/
  | malformed (reason : String)
deriving DecidableEq

/-- What an initializer does to a page: the number of the run, the page and its bytes give the new
bytes, and the error if the run fails. -/
abbrev InitializerBody (config : Config) :=
  Nat → PageNumber → PageBytes config → PageBytes config × Option VmError

/-- What can be asked of one address space. -/
inductive SpaceRequest (config : Config) where
  | allocate (target : TargetRequest) (address : VirtualAddress) (writable : Bool)
      (initializer : Option (InitializerBody config))
  | claim (address : VirtualAddress)
  | remove (address : VirtualAddress)
  | fault (access : PageFault)
  | userFault (access : PageFault)
  | recordStackPointer (pointer : VirtualAddress)
  | read (address : VirtualAddress) (buffer : Bytes)
  | write (address : VirtualAddress) (bytes : Bytes)
  | map (address : VirtualAddress) (length : Word) (writable : Bool) (file : FileId)
      (offset : Word)
  | unmap (address : VirtualAddress)
  | tearDown

/-- One thing that can happen. -/
inductive Operation (config : Config) where
  | create (subsystem : Subsystem)
  | drop (space : SpaceKey)
  | fork (parent : SpaceKey)
  | copy (child parent : SpaceKey)
  | request (space : SpaceKey) (asked : SpaceRequest config)
  | shutdown (subsystem : Subsystem)
  /-- An outsider takes a frame from the pool. -/
  | takeFrame
  /-- An outsider gives back the lowest frame it holds. -/
  | returnFrame
  | createFile (data : Bytes)
  /-- The creator of a file closes its handle. -/
  | closeFile (file : FileId)
  /-- An outsider writes to a file. -/
  | writeFile (file : FileId) (offset : Nat) (bytes : Bytes)
  /-- Changes the failures that a file is subject to. -/
  | setFileFaults (file : FileId) (change : FileFaults → FileFaults)
  /-- Switches the failures of the swap device that last, where this is asked for, and says what is in
  force at single moments. -/
  | setSwapFaults (read write : Option (Option ErrorCode))
      (lapses : List (Nat × SwapSwitches) := [])

/-- It can be decided whether two copies ended alike. -/
local instance : DecidableEq (Except VmError Unit)
  | .ok (), .ok () => isTrue rfl
  | .error left, .error right =>
    decidable_of_iff (left = right) ⟨congrArg Except.error, Except.error.inj⟩
  | .ok _, .error _ => isFalse nofun
  | .error _, .ok _ => isFalse nofun

/-- What an operation answers. -/
inductive Answer where
  | done
  | refused (refusal : Refusal)
  | space (key : SpaceKey) (root : PhysicalAddress)
  | mappedAt (address : VirtualAddress)
  | verdict (verdict : FaultVerdict)
  /-- A buffer as far as it was filled, and how the copy ended. -/
  | filled (buffer : Bytes) (result : Except VmError Unit)
  | frame (frame : Option FrameNumber)
  | file (file : FileId)
  | wasOpen (isOpen : Bool)
  | written (count : Nat)
deriving DecidableEq

namespace KernelAction

variable {config : Config}

/-- Gives an initializer its name; it has not been run yet. -/
def registerInitializer (body : InitializerBody config) :
    KernelAction config (Initializer config) := do
  let id : InitializerId := ⟨(← Action.current).environment.runs.size⟩
  .change fun machine =>
    { machine with
      environment := { machine.environment with runs := machine.environment.runs.insert id 0 } }
  return { id := id, run := body }

/-- Whether the creator of a file can still use its handle. -/
def checkCreationHandle (file : FileId) : KernelAction config (Option Refusal) := do
  match (← Action.current).environment.files.get? file with
  | none => return some .noSuchFile
  | some file => return if file.creatorHolds then none else some .handleClosed

/-- The target that is asked for, or why it is refused. -/
def target : TargetRequest → KernelAction config (Except Refusal (PageTarget config))
  | .anonymous => return .ok .anonymous
  | .malformed reason => return .error (.malformed reason)
  | .file file offset readBytes zeroBytes => do
    match ← checkCreationHandle file with
    | some refusal => return .error refusal
    | none =>
      let backing ← Action.ofExcept
        (FileBacking.ofSplit config file.creationHandle offset readBytes zeroBytes)
      return .ok (.file backing)

/-- Performs an action unless there is a reason to refuse it. -/
def unlessRefused (reason : KernelAction config (Option Refusal))
    (action : KernelAction config Answer) : KernelAction config Answer := do
  match ← reason with
  | some refusal => return .refused refusal
  | none => action

/-- Performs an action on a file that exists. -/
def withFile (file : FileId) (action : File → KernelAction config Answer) :
    KernelAction config Answer := do
  match (← Action.current).environment.files.get? file with
  | none => return .refused .noSuchFile
  | some contents => action contents

/-- Performs an action on a space that exists. -/
def withSpace (key : SpaceKey) (action : KernelAction config Answer) :
    KernelAction config Answer := do
  if (← Action.current).spaces.contains key then action
  else return .refused .noSuchSpace

/-- The answer that names a space. -/
def describeSpace (key : SpaceKey) : KernelAction config Answer := do
  return .space key (← space key).root

end KernelAction

open KernelAction

namespace SpaceRequest

variable {config : Config}

/-- What a request does to its address space. -/
def perform (key : SpaceKey) : SpaceRequest config → KernelAction config Answer
  | .allocate request address writable initializer => do
    let registered ← match initializer with
      | some body => some <$> registerInitializer body
      | none => pure none
    match ← target request with
    | .error refusal => return .refused refusal
    | .ok target =>
      allocatePage key target address writable registered
      return .done
  | .claim address => do
    claimAddress key address
    return .done
  | .remove address => do
    removeAddress key address
    return .done
  | .fault access => do
    handleFault key access
    return .done
  | .userFault access => .verdict <$> handleUserFault key access
  | .recordStackPointer pointer => do
    KernelAction.recordStackPointer key pointer
    return .done
  | .read address buffer => do
    let (filled, result) ← copyFromUser key address buffer
    return .filled filled result
  | .write address bytes => do
    copyToUser key address bytes
    return .done
  | .map address length writable file offset =>
    unlessRefused (checkCreationHandle file)
      (.mappedAt <$> mapFile key address length writable file.creationHandle offset)
  | .unmap address => do
    unmapFile key address
    return .done
  | .tearDown => do
    KernelAction.tearDown key
    return .done

end SpaceRequest

namespace Operation

variable {config : Config}

/-- What an operation does to the machine. -/
def perform : Operation config → KernelAction config Answer
  | .create subsystem => do
    describeSpace (← createSpace subsystem)
  | .drop key => withSpace key do
    dropSpace key
    return .done
  | .fork parent => withSpace parent do
    describeSpace (← forkSpace parent)
  | .copy child parent => withSpace child <| withSpace parent do
    copySpace child parent
    return .done
  | .request key asked => withSpace key (asked.perform key)
  | .shutdown subsystem => do
    KernelAction.shutdown subsystem
    return .done
  | .takeFrame => do
    match ← takeFree with
    | none => return .frame none
    | some frame =>
      .change fun machine => { machine with pool := machine.pool.lend frame }
      return .frame (some frame)
  | .returnFrame => do
    match (← Action.current).pool.lowestLent with
    | none => return .frame none
    | some frame =>
      .change fun machine => { machine with pool := machine.pool.takeBack frame }
      giveBack frame
      return .frame (some frame)
  | .createFile data => do
    let id : FileId := ⟨(← Action.current).environment.files.size⟩
    .change fun machine =>
      { machine with
        environment :=
          { machine.environment with
            files := machine.environment.files.insert id { data := data } } }
    return .file id
  | .closeFile id => withFile id fun file => do
    onEnvironment (.change (·.setFile id { file with creatorHolds := false }))
    return .wasOpen file.creatorHolds
  | .writeFile id offset bytes => withFile id fun file => do
    onEnvironment (.change (·.setFile id (file.store offset bytes)))
    return .written bytes.size
  | .setFileFaults id change => withFile id fun file => do
    onEnvironment (.change (·.setFile id { file with faults := change file.faults }))
    return .done
  | .setSwapFaults read write lapses => do
    .change fun machine =>
      let swap := machine.environment.swap
      { machine with
        environment :=
          { machine.environment with
            swap :=
              { swap with
                faults :=
                  { read := read.getD swap.faults.read
                    write := write.getD swap.faults.write
                    lapses := lapses } } } }
    return .done

end Operation

end DemandPaging
