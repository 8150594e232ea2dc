import DemandPaging.Word

/-!
# Spin locks that keep interrupts off

A lock is taken with interrupts disabled and remembers whether they were enabled before; giving it
up restores what it remembers. Locks that are released in the reverse order of their acquisition
thus keep interrupts off until the outermost one is released.
-/

namespace DemandPaging

/-- A lock without the data it protects. -/
structure SpinLock where
  held : Bool := false
  /-- Whether interrupts were enabled when the lock was last taken. -/
  savedInterrupts : Bool := false
deriving DecidableEq

/-- One processor with its interrupt flag, and the locks it uses. -/
structure Processor where
  interrupts : Bool := true
  locks : Array SpinLock
deriving DecidableEq

namespace Processor

/-- A processor with interrupts enabled and a number of free locks. -/
def withLocks (count : Nat) : Processor where
  locks := Array.replicate count {}

/-- Whether a lock is held. -/
def isHeld (processor : Processor) (lock : Nat) : Bool :=
  match processor.locks[lock]? with
  | some state => state.held
  | none => false

/-- Enables or disables interrupts. -/
def setInterrupts (processor : Processor) (enabled : Bool) : Processor :=
  { processor with interrupts := enabled }

/-- Disables interrupts, and says whether they were enabled before. -/
def maskInterrupts (processor : Processor) : Bool × Processor :=
  (processor.interrupts, processor.setInterrupts false)

/-- Marks a lock as held by a taker that had found the interrupt flag as given. -/
def seize (processor : Processor) (lock : Nat) (found : Bool) : Processor :=
  { processor with
    locks := processor.locks.modify lock fun _ => { held := true, savedInterrupts := found } }

/-- Takes a lock, waiting with interrupts disabled until it is free. On a held lock the wait never
ends, because nobody else runs; then there is no result. -/
def lock (processor : Processor) (lock : Nat) : Option Processor :=
  let (found, masked) := processor.maskInterrupts
  if masked.isHeld lock then none else some (masked.seize lock found)

/-- Takes a lock if it is free, and says whether it did. Interrupts are disabled while it looks; if
the lock is held, it restores them. -/
def tryLock (processor : Processor) (lock : Nat) : Bool × Processor :=
  let (found, masked) := processor.maskInterrupts
  if masked.isHeld lock then (false, masked.setInterrupts found)
  else (true, masked.seize lock found)

/-- Marks a lock as free; it keeps what it saved. -/
def free (processor : Processor) (lock : Nat) : Processor :=
  { processor with locks := processor.locks.modify lock fun state => { state with held := false } }

/-- Gives up a lock and restores the interrupt flag that it saved. -/
def unlock (processor : Processor) (lock : Nat) : Processor :=
  match processor.locks[lock]? with
  | some state => (processor.free lock).setInterrupts state.savedInterrupts
  | none => processor

end Processor

/-- What can be done to a processor and the numbers that its locks protect. -/
inductive LockStep where
  | setInterrupts (enabled : Bool)
  | lock (lock : Nat)
  | tryLock (lock : Nat)
  /-- Gives up a lock if it is held. -/
  | unlock (lock : Nat)
  /-- Adds to the number behind a lock, which has to be held. -/
  | add (lock : Nat) (amount : Int64)
deriving DecidableEq

/-- What a step on locks answers. -/
inductive LockAnswer where
  | done
  | verdict (isTrue : Bool)
  | sum (value : Int64)
  /-- The lock is held, so waiting for it would never end. -/
  | deadlock
  /-- The lock is not held, so the number behind it may not be touched. -/
  | notHeld
deriving DecidableEq

/-- A processor and the number that each of its locks protects. -/
structure LockBench where
  processor : Processor
  values : Array Int64
deriving DecidableEq

namespace LockBench

/-- A bench with a number of free locks; lock `i` protects the number `i`. -/
def ofCount (count : Nat) : LockBench where
  processor := .withLocks count
  values := Array.ofFn fun index : Fin count => Int64.ofNat index

/-- Carries out a step. -/
def perform (bench : LockBench) : LockStep → LockAnswer × LockBench
  | .setInterrupts enabled =>
    (.done, { bench with processor := bench.processor.setInterrupts enabled })
  | .lock lock =>
    match bench.processor.lock lock with
    | some processor => (.done, { bench with processor := processor })
    | none => (.deadlock, bench)
  | .tryLock lock =>
    let (taken, processor) := bench.processor.tryLock lock
    (.verdict taken, { bench with processor := processor })
  | .unlock lock =>
    if bench.processor.isHeld lock then
      (.verdict true, { bench with processor := bench.processor.unlock lock })
    else (.verdict false, bench)
  | .add lock amount =>
    if bench.processor.isHeld lock then
      let sum := bench.values.getD lock 0 + amount
      (.sum sum, { bench with values := bench.values.modify lock fun _ => sum })
    else (.notHeld, bench)

end LockBench

end DemandPaging
