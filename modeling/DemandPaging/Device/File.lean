import DemandPaging.Bytes
import DemandPaging.Device.Moment
import DemandPaging.Failure

/-!
# Files

A file is a growable sequence of bytes behind any number of handles. Reads stop at the end of
the file; writes extend it and fill a gap with zeros. The failures that a file is subject to
apply to all its handles alike.
-/

namespace DemandPaging

/-- The failures that a file is subject to at one moment. -/
structure FileSwitches where
  /-- Reads from `failFrom` on fail with this code. -/
  read : Option ErrorCode := none
  /-- Writes from `failFrom` on fail with this code. -/
  write : Option ErrorCode := none
  /-- The contents cannot be reached at all, for this reason. -/
  inode : Option ErrorCode := none
  /-- No further handle can be opened, for this reason. -/
  reopen : Option ErrorCode := none
  /-- Where failing reads and writes begin. -/
  failFrom : Nat := 0
  /-- The most bytes that one read transfers. -/
  readLimit : Option Nat := none
  /-- The most bytes that one write transfers. -/
  writeLimit : Option Nat := none
deriving DecidableEq

/-- The failures that a file is subject to: those that last, and others in their place at single
moments. -/
structure FileFaults extends FileSwitches where
  lapses : List (Nat × FileSwitches) := []

/-- The failures that are in force at a moment. -/
def FileFaults.inForce (faults : FileFaults) (moment : Nat) : FileSwitches :=
  DemandPaging.inForce faults.toFileSwitches faults.lapses moment

/-- The contents of a file and the counts of what was done to it. -/
structure File where
  data : Bytes := #[]
  /-- Whether the handle that came into being with the file is still held by its creator. -/
  creatorHolds : Bool := true
  reopens : Nat := 0
  reads : Nat := 0
  writes : Nat := 0
  faults : FileFaults := {}

namespace File

/-- A length cut down to a limit, if there is one. -/
def atMost (limit : Option Nat) (length : Nat) : Nat :=
  match limit with
  | some most => min most length
  | none => length

/-- Reads up to `length` bytes at `offset` while some failures are in force: the bytes there are, and
the file with one more read to its count. -/
def read (file : File) (switches : FileSwitches) (offset length : Nat) :
    Except ErrorCode (Bytes × File) :=
  let transfer :=
    (file.data.slice offset (atMost switches.readLimit length),
      { file with reads := file.reads + 1 })
  match switches.read with
  | some code => if switches.failFrom ≤ offset then .error code else .ok transfer
  | none => .ok transfer

/-- The file with bytes stored at `offset`, extended where they reach beyond its end. -/
def store (file : File) (offset : Nat) (bytes : Bytes) : File :=
  { file with
    data := file.data.splice (max file.data.size (offset + bytes.size)) offset bytes
    writes := file.writes + 1 }

/-- Writes bytes at `offset` while some failures are in force: how many were transferred, and the file
that holds them. -/
def write (file : File) (switches : FileSwitches) (offset : Nat) (bytes : Bytes) :
    Except ErrorCode (Nat × File) :=
  let accepted := bytes.slice 0 (atMost switches.writeLimit bytes.size)
  match switches.write with
  | some code =>
    if switches.failFrom ≤ offset then .error code
    else .ok (accepted.size, file.store offset accepted)
  | none => .ok (accepted.size, file.store offset accepted)

end File

end DemandPaging
