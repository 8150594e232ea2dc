import DemandPaging.Identity

/-!
# The physical page pool

The pool hands out its frames first-in first-out: the frame that has been free the longest is
taken next. Frames taken by others than the frame subsystems are remembered, so that the pool
always knows where each of its frames went.
-/

namespace DemandPaging

/-- The frames that are free, and those that somebody outside the frame subsystems holds. -/
structure FramePool where
  /-- The free frames, the next one to be taken first. -/
  free : List FrameNumber
  /-- The frames in the hands of outsiders. -/
  outside : OrderedMap FrameNumber Unit

namespace FramePool

/-- A pool of a number of frames, all of them free. -/
def ofSize (frames : Nat) : FramePool where
  free := (List.range frames).map FrameNumber.mk
  outside := .empty

/-- Takes the first free frame. -/
def take (pool : FramePool) : Option (FrameNumber × FramePool) :=
  match pool.free with
  | [] => none
  | frame :: rest => some (frame, { pool with free := rest })

/-- Whether a frame is free. -/
def isFree (pool : FramePool) (frame : FrameNumber) : Bool := pool.free.contains frame

/-- Returns a frame; it will be taken last. -/
def giveBack (pool : FramePool) (frame : FrameNumber) : FramePool :=
  { pool with free := pool.free ++ [frame] }

/-- Notes that an outsider holds a frame. -/
def lend (pool : FramePool) (frame : FrameNumber) : FramePool :=
  { pool with outside := pool.outside.insert frame () }

/-- The lowest frame that an outsider holds. -/
def lowestLent (pool : FramePool) : Option FrameNumber := pool.outside.keys.head?

/-- Notes that an outsider no longer holds a frame. -/
def takeBack (pool : FramePool) (frame : FrameNumber) : FramePool :=
  { pool with outside := pool.outside.erase frame }

end FramePool

end DemandPaging
