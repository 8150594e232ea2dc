import DemandPaging.Identity

/-!
# Errors and panics

An operation on user memory ends in one of two bad ways. A `VmError` is reported to the caller,
who goes on; a `Panic` stops the kernel, because a frame could not be freed or the kernel's own
tables contradict each other.
-/

namespace DemandPaging

/-- The code with which a device reports that it failed. -/
abbrev ErrorCode := Int

/-- The code of a transfer that ended early. -/
def inputOutputError : ErrorCode := -5

/-- Why an operation on user memory is refused. -/
inductive VmError where
  /-- The address is null, belongs to the kernel, or leaves user memory. -/
  | invalidAddress
  /-- A length, offset or alignment makes no sense. -/
  | invalidArgument
  /-- The page is registered already. -/
  | alreadyMapped
  /-- No page or mapping is registered there. -/
  | notMapped
  /-- The access is not permitted. -/
  | accessViolation
  /-- The backing store failed with this code. -/
  | io (code : ErrorCode)
  /-- The file handle cannot be used; the code says why. -/
  | badFile (code : ErrorCode)
deriving DecidableEq

namespace VmError

/-- The error number that a system call returns. A device's own code is passed on when it is a
valid error number, that is, negative. -/
def errno : VmError → Int
  | .invalidAddress => -14
  | .accessViolation => -14
  | .invalidArgument => -22
  | .notMapped => -22
  | .alreadyMapped => -17
  | .io code => if code < 0 then code else inputOutputError
  | .badFile _ => -9

/-- The description of the error for people. -/
def message : VmError → String
  | .invalidAddress => "invalid user address"
  | .invalidArgument => "invalid argument"
  | .alreadyMapped => "page already mapped"
  | .notMapped => "page not mapped"
  | .accessViolation => "access violation"
  | .io code => "backing store I/O error (" ++ toString code ++ ")"
  | .badFile code => "bad file (" ++ toString code ++ ")"

/-- The name of the error, with its code if it carries one. -/
def name : VmError → String
  | .invalidAddress => "InvalidAddress"
  | .invalidArgument => "InvalidArgument"
  | .alreadyMapped => "AlreadyMapped"
  | .notMapped => "NotMapped"
  | .accessViolation => "AccessViolation"
  | .io code => "Io(" ++ toString code ++ ")"
  | .badFile code => "BadFile(" ++ toString code ++ ")"

/-- The error of a given kind; the code counts only where the error carries one. -/
def ofKind? (kind : String) (code : ErrorCode) : Option VmError :=
  match kind with
  | "InvalidAddress" => some .invalidAddress
  | "InvalidArgument" => some .invalidArgument
  | "AlreadyMapped" => some .alreadyMapped
  | "NotMapped" => some .notMapped
  | "AccessViolation" => some .accessViolation
  | "Io" => some (.io code)
  | "BadFile" => some (.badFile code)
  | _ => none

end VmError

/-- Why the kernel stops. -/
inductive Panic where
  /-- No frame is free and no resident page may be evicted. -/
  | outOfFrames
  /-- An anonymous page has to go to swap, and every slot is taken. -/
  | swapFull
  /-- An anonymous page has to go to swap, and the device fails. -/
  | swapWriteFailed (slot : SwapSlot) (code : ErrorCode)
  /-- A modified file page has to go to its file, and the file fails. -/
  | writeBackFailed (page : PageNumber) (error : VmError)
  /-- A page that was never loaded holds a frame. -/
  | unloadedResident (page : PageNumber)
  /-- A page gets a frame while it holds one. -/
  | alreadyResident (page : PageNumber)
  /-- The frame to be emptied is not the one its page holds. -/
  | frameMismatch (held : Option PhysicalAddress) (evicted : PhysicalAddress)
  /-- A frame enters the queue of resident frames twice. -/
  | frameQueuedTwice
  /-- A resident anonymous page already holds a swap slot. -/
  | slotStillHeld
  /-- A frame is returned that is free. -/
  | frameFreedTwice (frame : PhysicalAddress)
  /-- A swap slot is returned that is free. -/
  | slotFreedTwice (slot : SwapSlot)
  /-- An address or page number does not fit a machine word. -/
  | overflow (operation : Overflow)
  /-- A page is still not mapped although its fault was resolved. -/
  | faultRecurs (address : VirtualAddress)
deriving DecidableEq

namespace Panic

/-- The frame that a page holds, as messages show it. -/
def frameText : Option PhysicalAddress → String
  | none => "None"
  | some frame => "Some(" ++ frame.text ++ ")"

/-- The last words of the kernel. -/
def message : Panic → String
  | .outOfFrames => "vm: out of physical frames and no frame can be evicted"
  | .swapFull => "vm: swap device full, cannot evict anonymous page"
  | .swapWriteFailed slot code =>
    "vm: swap write to slot " ++ toString slot.index ++ " failed (" ++ toString code ++ ")"
  | .writeBackFailed page error =>
    "vm: write-back of " ++ page.text ++ " failed: " ++ error.message
  | .unloadedResident page => "vm: uninitialized page " ++ page.text ++ " holds a frame"
  | .alreadyResident page => "page " ++ page.text ++ " already resident"
  | .frameMismatch held evicted =>
    "assertion `left == right` failed\n  left: " ++ frameText held ++ "\n right: " ++
      frameText (some evicted)
  | .frameQueuedTwice => "assertion failed: self.position(paddr).is_none()"
  | .slotStillHeld => "assertion failed: self.slot.is_none()"
  | .frameFreedTwice frame => "MockFramePool: double free " ++ Word.hex frame.word
  | .slotFreedTwice slot => "MockSwap: double free of slot " ++ toString slot.index
  | .overflow operation => operation.message
  | .faultRecurs address => "vm: resolved fault at " ++ address.text ++ " recurs"

end Panic

end DemandPaging
