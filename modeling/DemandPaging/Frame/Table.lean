import DemandPaging.Identity

/-!
# The frame table

Each frame subsystem keeps its frames in a queue, in the order in which they were acquired. A
frame whose page is still being loaded has no owner, and a frame that is being copied is pinned;
the victim of an eviction is the first frame that has an owner and is not pinned.
-/

namespace DemandPaging

/-- The page that occupies a frame. -/
structure FrameOwner where
  space : SpaceId
  page : PageNumber
deriving DecidableEq

/-- A frame in the queue. -/
structure FrameEntry where
  frame : FrameNumber
  owner : Option FrameOwner := none
  pinned : Bool := false
deriving DecidableEq

/-- Whether the frame of an entry may be taken from its page. -/
def FrameEntry.isEvictable (entry : FrameEntry) : Bool := entry.owner.isSome && !entry.pinned

/-- The state of one frame subsystem. -/
structure FrameTable where
  /-- The frames in use, the one acquired first in front. -/
  queue : List FrameEntry := []
  /-- How many pages have been evicted so far. -/
  evictions : Nat := 0
  /-- The id that the next address space gets. -/
  nextSpace : Nat := 1

namespace FrameTable

/-- Whether a frame is in the queue. -/
def tracks (table : FrameTable) (frame : FrameNumber) : Bool :=
  table.queue.any fun entry => entry.frame == frame

/-- Puts a frame without owner at the end of the queue. -/
def push (table : FrameTable) (frame : FrameNumber) : FrameTable :=
  { table with queue := table.queue ++ [{ frame := frame }] }

/-- Takes a frame out of the queue. -/
def remove (table : FrameTable) (frame : FrameNumber) : FrameTable :=
  { table with queue := table.queue.eraseP fun entry => entry.frame == frame }

/-- Changes the entry of a frame. -/
def update (table : FrameTable) (frame : FrameNumber) (change : FrameEntry → FrameEntry) :
    FrameTable :=
  { table with queue := table.queue.map fun entry =>
      if entry.frame = frame then change entry else entry }

/-- Records which page occupies a frame. -/
def assign (table : FrameTable) (frame : FrameNumber) (owner : FrameOwner) : FrameTable :=
  table.update frame fun entry => { entry with owner := some owner }

/-- Exempts a frame from eviction, or ends the exemption. -/
def setPinned (table : FrameTable) (frame : FrameNumber) (pinned : Bool) : FrameTable :=
  table.update frame fun entry => { entry with pinned := pinned }

/-- The next victim, and the table without it. -/
def pickVictim (table : FrameTable) : Option (FrameEntry × FrameTable) :=
  (table.queue.find? FrameEntry.isEvictable).map fun victim =>
    (victim, { table with queue := table.queue.eraseP FrameEntry.isEvictable })

/-- Counts one more eviction. -/
def countEviction (table : FrameTable) : FrameTable :=
  { table with evictions := table.evictions + 1 }

/-- The number of frames in use. -/
def resident (table : FrameTable) : Nat := table.queue.length

end FrameTable

end DemandPaging
