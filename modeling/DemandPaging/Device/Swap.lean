import DemandPaging.Bytes
import DemandPaging.Device.Moment
import DemandPaging.Failure

/-!
# The swap device

A swap device has a fixed number of slots of one page each. Slots are allocated lowest first. A
slot that was allocated but never written holds nothing, and neither it nor a free slot can be
read.
-/

namespace DemandPaging

/-- The code with which the device rejects a slot that holds nothing. -/
def unknownSlot : ErrorCode := -22

/-- The failures that a swap device is subject to at one moment. -/
structure SwapSwitches where
  /-- The code with which a read fails. -/
  read : Option ErrorCode := none
  /-- The code with which a write fails. -/
  write : Option ErrorCode := none
deriving DecidableEq

/-- The failures that a swap device is subject to: those that last, and others in their place at
single moments. -/
structure SwapFaults extends SwapSwitches where
  lapses : List (Nat × SwapSwitches) := []

/-- The failures that are in force at a moment. -/
def SwapFaults.inForce (faults : SwapFaults) (moment : Nat) : SwapSwitches :=
  DemandPaging.inForce faults.toSwapSwitches faults.lapses moment

/-- The state of a swap device, and the failures it is subject to. -/
structure SwapDevice (config : Config) where
  capacity : Nat
  /-- The allocated slots with what was written to them. -/
  slots : OrderedMap SwapSlot (Option (PageBytes config)) := .empty
  /-- How many pages have been written. -/
  writes : Nat := 0
  faults : SwapFaults := {}

namespace SwapDevice

variable {config : Config}

/-- The lowest slot that is free. -/
def lowestFree (device : SwapDevice config) : Option SwapSlot :=
  ((List.range device.capacity).map SwapSlot.mk).find? fun slot => !device.slots.contains slot

/-- Marks a slot as allocated, holding nothing yet. -/
def allocate (device : SwapDevice config) (slot : SwapSlot) : SwapDevice config :=
  { device with slots := device.slots.insert slot none }

/-- Writes a page to an allocated slot while some failures are in force. -/
def write (device : SwapDevice config) (switches : SwapSwitches) (slot : SwapSlot)
    (page : PageBytes config) : Except ErrorCode (SwapDevice config) :=
  match switches.write with
  | some code => .error code
  | none =>
    if device.slots.contains slot then
      .ok { device with
        slots := device.slots.insert slot (some page)
        writes := device.writes + 1 }
    else .error unknownSlot

/-- The page that a slot holds. -/
def content? (device : SwapDevice config) (slot : SwapSlot) : Option (PageBytes config) :=
  (device.slots.get? slot).join

/-- Reads the page that a slot holds while some failures are in force. -/
def read (device : SwapDevice config) (switches : SwapSwitches) (slot : SwapSlot) :
    Except ErrorCode (PageBytes config) :=
  match switches.read with
  | some code => .error code
  | none =>
    match device.content? slot with
    | some page => .ok page
    | none => .error unknownSlot

/-- Returns a slot to the device. -/
def release (device : SwapDevice config) (slot : SwapSlot) : SwapDevice config :=
  { device with slots := device.slots.erase slot }

/-- The number of slots in use. -/
def used (device : SwapDevice config) : Nat := device.slots.size

end SwapDevice

end DemandPaging
