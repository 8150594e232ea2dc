import DemandPaging.Fault

/-!
# Copies between the kernel and user memory

A copy is cut at page boundaries into chunks, and each chunk is transferred through the mapping of
its page, after a fault if there is none. The first chunk that cannot be transferred ends the copy;
what came before it stays transferred.
-/

namespace DemandPaging

/-- The part of a copy that lies in one page: from `start` up to, and without, `stop`, counted
from the first byte of the copy. -/
structure Chunk where
  start : Nat
  stop : Nat
deriving DecidableEq

namespace Chunk

/-- The number of bytes in the chunk. -/
def length (chunk : Chunk) : Nat := chunk.stop - chunk.start

/-- Where the copy crosses page boundaries: `cut 0` is its start, and `cut i` the end of its
`i`th page, or of the copy. The copy begins `offset` bytes into a page. -/
def cut (config : Config) (offset length index : Nat) : Nat :=
  min length (index * config.pageSize - offset)

/-- How many pages a copy of a number of bytes touches. -/
def pagesTouched (config : Config) (offset length : Nat) : Nat :=
  if length = 0 then 0 else (offset + length - 1) / config.pageSize + 1

/-- The chunks of a copy that begins `offset` bytes into a page. -/
def ofCopy (config : Config) (offset length : Nat) : List Chunk :=
  (List.range (pagesTouched config offset length)).map fun index =>
    { start := cut config offset length index, stop := cut config offset length (index + 1) }

end Chunk

namespace KernelAction

variable {config : Config}

/-- The frame behind an address that the kernel accesses, after a fault if the page is not mapped.
The look-up is repeated after every resolved fault, at most the given number of times. -/
def frameWithin (key : SpaceKey) (address : VirtualAddress) (write : Bool) :
    Nat → KernelAction config FrameNumber
  | 0 => .halt (.faultRecurs address)
  | lookups + 1 => do
    match (← space key).pageTable.get? (address.page config) with
    | some entry =>
      Action.require (!write || entry.flags.writable) .accessViolation
      return entry.frame
    | none =>
      handleFault key (PageFault.ofKernel address write)
      frameWithin key address write lookups

/-- The frame behind a user address. Two look-ups are enough, because a page is mapped once its
fault has been resolved. -/
def accessFrame (key : SpaceKey) (address : VirtualAddress) (write : Bool) :
    KernelAction config FrameNumber := do
  Action.require (address.isNameable config) .invalidAddress
  frameWithin key address write 2

/-- Reads one chunk of user memory. -/
def readChunk (key : SpaceKey) (base : VirtualAddress) (chunk : Chunk) :
    KernelAction config Bytes := do
  let address ← Action.orFail (base.checkedAdd (UInt64.ofNat chunk.start)) .invalidAddress
  let frame ← accessFrame key address false
  let page ← Action.view (·.frameBytes frame)
  return page.slice (address.pageOffset config).toNat chunk.length

/-- Writes one chunk of user memory and marks its page as written to. -/
def writeChunk (key : SpaceKey) (base : VirtualAddress) (bytes : Bytes) (chunk : Chunk) :
    KernelAction config Unit := do
  let address ← Action.orFail (base.checkedAdd (UInt64.ofNat chunk.start)) .invalidAddress
  let frame ← accessFrame key address true
  let piece := bytes.slice chunk.start chunk.length
  .change fun machine => machine.setFrameBytes frame
    ((machine.frameBytes frame).overwrite (address.pageOffset config).toNat piece)
  updateSpace key (·.markDirty (address.page config))

/-- Reads chunks of user memory into a buffer, up to the first that cannot be read. -/
def readChunks (key : SpaceKey) (base : VirtualAddress) (buffer : Bytes) :
    List Chunk → KernelAction config (Bytes × Except VmError Unit)
  | [] => return (buffer, .ok ())
  | chunk :: rest => do
    match ← (readChunk key base chunk).attempt with
    | .ok piece => readChunks key base (buffer.overwrite chunk.start piece) rest
    | .error error => return (buffer, .error error)

/-- Fills a buffer from user memory. The buffer comes back as far as it was filled, with the
error that ended the copy if it did not get to the end. -/
def copyFromUser (key : SpaceKey) (base : VirtualAddress) (buffer : Bytes) :
    KernelAction config (Bytes × Except VmError Unit) :=
  readChunks key base buffer
    (Chunk.ofCopy config (base.pageOffset config).toNat buffer.size)

/-- Stores bytes in user memory, up to the first page that cannot be written. -/
def copyToUser (key : SpaceKey) (base : VirtualAddress) (bytes : Bytes) :
    KernelAction config Unit :=
  Action.forEach (writeChunk key base bytes)
    (Chunk.ofCopy config (base.pageOffset config).toNat bytes.size)

end KernelAction

end DemandPaging
