import DemandPaging.Identity
import DemandPaging.Failure
import DemandPaging.Flags
import DemandPaging.Bytes

/-!
# The history of a machine

Everything of note that the kernel does is recorded as an `Event`. Some events are log messages,
each with a level and a text; the others record what the kernel asked of the devices around it and
when pages became resident.
-/

namespace DemandPaging

/-- How urgent a log message is. -/
inductive LogLevel where
  | trace
  | debug
  | warn
  | error
deriving DecidableEq

namespace LogLevel

/-- The position of a level, the most urgent highest. -/
def rank : LogLevel → Nat
  | .trace => 0
  | .debug => 1
  | .warn => 2
  | .error => 3

/-- The name with which a line of that level begins. -/
def name : LogLevel → String
  | .trace => "TRACE"
  | .debug => "DEBUG"
  | .warn => "WARN"
  | .error => "ERROR"

end LogLevel

/-- One thing that happened. -/
inductive Event where
  /-- A page loses its frame to another page. -/
  | evicting (space : SpaceKey) (page : PageNumber)
  /-- The space that owned an evicted frame is no longer registered. -/
  | ownerVanished (frame : FrameNumber) (space : SpaceId)
  /-- The owner of an evicted frame knows no such page. -/
  | evictedPageMissing (frame : FrameNumber) (page : PageNumber)
  /-- A frame that is not in the queue gets an owner. -/
  | assigningUntracked (frame : FrameNumber)
  /-- A frame that is not in the queue is released. -/
  | releasingUntracked (frame : FrameNumber)
  /-- A page could not be loaded. -/
  | loadFailed (page : PageNumber) (error : VmError)
  /-- A file yielded fewer bytes than it should. -/
  | shortRead (offset : Word) (expected got : Nat)
  /-- A file accepted fewer bytes than it should. -/
  | shortWrite (offset : Word) (expected got : Nat)
  /-- An access to a page that is not registered and is no stack growth. -/
  | unmappedAccess (address : VirtualAddress) (stackPointer : Option VirtualAddress)
  /-- The stack grows by a page. -/
  | growingStack (page : PageNumber)
  /-- A user fault ends its task. -/
  | unresolvedFault (address : VirtualAddress) (cause : FaultCause) (error : VmError)
  /-- A mapping could not be established. -/
  | mapFailed (address : VirtualAddress) (page : PageNumber) (error : VmError)
  /-- A page of a mapping could not be written back when the mapping was removed. -/
  | unmapFailed (page : PageNumber) (error : VmError)
  /-- A page could not be written back when its address space was torn down. -/
  | teardownFailed (page : PageNumber) (error : VmError)
  /-- A frame subsystem is shut down while address spaces are registered with it. -/
  | shutdownWithSpaces (count : Nat)
  /-- A frame is requested; the pool may be empty. -/
  | frameRequested (subsystem : Subsystem) (poolEmpty : Bool)
  /-- A page is about to be loaded. -/
  | loading (space : SpaceKey) (page : PageNumber)
  /-- A page became resident. -/
  | becameResident (space : SpaceKey) (page : PageNumber) (frame : FrameNumber)
  /-- An initializer is run for a page. -/
  | initializing (initializer : InitializerId) (page : PageNumber)
  /-- Bytes of a file are asked for. -/
  | readingFile (handle : FileHandle) (offset : Word) (length : Nat)
  /-- Bytes are to be written back to a file. -/
  | writingBack (handle : FileHandle) (offset : Word) (bytes : Bytes)
deriving DecidableEq

namespace Event

/-- Whether the kernel asks something of the world around it: a frame, bytes of a file, or that bytes
be written to one. Every read and every write of a device follows a request, and no two reads and no two
writes follow the same one. -/
def isRequest : Event → Bool
  | .frameRequested .. | .readingFile .. | .writingBack .. => true
  | _ => false

/-- A transfer that ended early, as messages describe it. -/
def transferText (what : String) (offset : Word) (expected got : Nat) : String :=
  "vm: " ++ what ++ " at offset " ++ toString offset.toNat ++ ": expected " ++
    toString expected ++ ", got " ++ toString got

/-- A stack pointer that may be unknown, as messages describe it. -/
def stackPointerText : Option VirtualAddress → String
  | some address => "Some(" ++ address.text ++ ")"
  | none => "None"

/-- The log message that announces an event, if there is one. -/
def message? (config : Config) : Event → Option (LogLevel × String)
  | .evicting space page =>
    some (.debug, "vm: evicting " ++ page.text ++ " of space " ++ space.id.text)
  | .ownerVanished frame space =>
    some (.warn, "vm: frame " ++ (frame.address config).text ++ " owned by vanished space " ++
      space.text)
  | .evictedPageMissing frame page =>
    some (.error, "vm: evicted frame " ++ (frame.address config).text ++ " has no page at " ++
      page.text)
  | .assigningUntracked frame =>
    some (.error, "vm: attach to untracked frame " ++ (frame.address config).text)
  | .releasingUntracked frame =>
    some (.warn, "vm: releasing untracked frame " ++ (frame.address config).text)
  | .loadFailed page error =>
    some (.warn, "vm: failed to load " ++ page.text ++ ": " ++ error.message)
  | .shortRead offset expected got =>
    some (.warn, transferText "short read" offset expected got)
  | .shortWrite offset expected got =>
    some (.error, transferText "partial write" offset expected got)
  | .unmappedAccess address stackPointer =>
    some (.debug, "vm: unmapped access at " ++ address.text ++ " (sp " ++
      stackPointerText stackPointer ++ ")")
  | .growingStack page => some (.trace, "vm: growing stack to " ++ page.text)
  | .unresolvedFault address cause error =>
    some (.warn, "vm: unresolved fault at " ++ address.text ++ " (" ++ cause.text ++ "): " ++
      error.message)
  | .mapFailed address page error =>
    some (.debug, "vm: mmap at " ++ address.text ++ " failed at " ++ page.text ++ ": " ++
      error.message)
  | .unmapFailed page error =>
    some (.error, "vm: munmap write-back of " ++ page.text ++ " failed: " ++ error.message)
  | .teardownFailed page error =>
    some (.error, "vm: teardown of " ++ page.text ++ " failed: " ++ error.message)
  | .shutdownWithSpaces count =>
    some (.warn, "vm: shutdown with " ++ toString count ++ " live address spaces")
  | _ => none

/-- The log line of an event for a log that keeps messages of a level and above. -/
def logLine? (config : Config) (threshold : LogLevel) (event : Event) : Option String :=
  match event.message? config with
  | some (level, text) =>
    if threshold.rank ≤ level.rank then some (level.name ++ " " ++ text) else none
  | none => none

end Event

end DemandPaging
