import DemandPaging.Residency

/-!
# Page faults

A fault is resolved, after which the access can be repeated, or it is refused. Faults on null and
kernel addresses and on mapped pages are refused. A fault on a page that is not registered is
resolved if it looks like a push on the stack, by a fresh page of zeros; a fault on a registered
page loads that page, unless it is a write to a read-only page.
-/

namespace DemandPaging

/-- An access that the hardware could not carry out. -/
structure PageFault where
  address : VirtualAddress
  cause : FaultCause
  /-- The stack pointer at the time; a kernel address if the kernel was running. -/
  stackPointer : VirtualAddress
deriving DecidableEq

namespace PageFault

/-- The fault of the kernel itself, accessing user memory on behalf of a program. Its stack
pointer is a kernel address, so that stack growth is judged by the recorded one. -/
def ofKernel (address : VirtualAddress) (write : Bool) : PageFault where
  address := address
  cause := { write := write, notPresent := true }
  stackPointer := ⟨UInt64.ofNat (Word.modulus - 1)⟩

/-- The user stack pointer by which stack growth is judged. -/
def userStackPointer (fault : PageFault) (config : Config) (recorded : Option VirtualAddress) :
    Option VirtualAddress :=
  if fault.stackPointer.isUser config then some fault.stackPointer else recorded

end PageFault

/-- Whether an access looks like growth of the stack: at most one word below the stack pointer,
below the top of the stack, and not too far below it. -/
def isStackGrowth (config : Config) (address : VirtualAddress)
    (stackPointer : Option VirtualAddress) : Bool :=
  match stackPointer with
  | none => false
  | some pointer =>
    Word.saturatingSub pointer.word wordSize ≤ address.word &&
      Word.saturatingSub config.stackTop config.stackCeiling ≤ address.word &&
      address.word < config.stackTop

/-- How a fault of a user program ends: the access is repeated, or the task exits. -/
inductive FaultVerdict where
  | retry
  | exit (status : Int)
deriving DecidableEq

namespace KernelAction

variable {config : Config}

/-- Registers and loads a page of the stack. If it cannot be loaded it is forgotten again. -/
def growStack (key : SpaceKey) (number : PageNumber) : KernelAction config Unit := do
  record (.growingStack number)
  insertPage key (Page.awaiting number true .anonymous none)
  match ← (claimPage key number).attempt with
  | .ok () => return ()
  | .error error =>
    updateSpace key (·.dropPage number)
    .fail error

/-- Resolves a fault. -/
def handleFault (key : SpaceKey) (fault : PageFault) : KernelAction config Unit := do
  Action.require (fault.address.isNameable config) .invalidAddress
  Action.require fault.cause.notPresent .accessViolation
  let faulting ← space key
  let number := fault.address.page config
  match faulting.pages.get? number with
  | none =>
    let stackPointer := fault.userStackPointer config faulting.stackPointer
    if isStackGrowth config fault.address stackPointer then
      growStack key number
    else
      record (.unmappedAccess fault.address stackPointer)
      .fail .accessViolation
  | some page =>
    Action.require (!fault.cause.write || page.writable) .accessViolation
    if page.isResident then return ()
    else claimPage key number

/-- Resolves the fault of a user program, or ends its task. -/
def handleUserFault (key : SpaceKey) (fault : PageFault) : KernelAction config FaultVerdict := do
  match ← (handleFault key fault).attempt with
  | .ok () => return .retry
  | .error error =>
    record (.unresolvedFault fault.address fault.cause error)
    return .exit faultExitStatus

/-- Records the stack pointer of a program that enters the kernel. -/
def recordStackPointer (key : SpaceKey) (pointer : VirtualAddress) : KernelAction config Unit :=
  updateSpace key fun space => { space with stackPointer := some pointer }

end KernelAction

end DemandPaging
