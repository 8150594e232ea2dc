import DemandPaging.Address

/-!
# Names of things

The kernel's tables refer to frames, swap slots, address spaces and file handles by name only.
Each kind of name is a type of its own.
-/

namespace DemandPaging

/-- A frame of physical memory, counted from the start of the pool. -/
structure FrameNumber where
  index : Nat
deriving DecidableEq

instance : Numbered FrameNumber where
  number := FrameNumber.index
  number_injective {left right} same := by
    cases left
    cases right
    exact congrArg FrameNumber.mk same

/-- Where the frames of the pool begin in physical memory. -/
def poolBase : Nat := 0x80000000

/-- The physical address at which a frame begins. -/
def FrameNumber.address (frame : FrameNumber) (config : Config) : PhysicalAddress :=
  ⟨UInt64.ofNat (poolBase + frame.index * config.pageSize)⟩

/-- A slot of the swap device; each holds one page. -/
structure SwapSlot where
  index : Nat
deriving DecidableEq

instance : Numbered SwapSlot where
  number := SwapSlot.index
  number_injective {left right} same := by
    cases left
    cases right
    exact congrArg SwapSlot.mk same

/-- The two frame subsystems, which keep separate queues of resident frames over one pool. -/
inductive Subsystem where
  | main
  | alternate
deriving DecidableEq

/-- The number under which an address space is registered with its subsystem. -/
structure SpaceId where
  index : Nat
deriving DecidableEq

/-- How messages name a space. -/
def SpaceId.text (space : SpaceId) : String := "SpaceId(" ++ toString space.index ++ ")"

/-- The full name of an address space. Spaces of different subsystems may share an id. -/
structure SpaceKey where
  subsystem : Subsystem
  id : SpaceId
deriving DecidableEq

/-- The subsystem as a number. -/
def Subsystem.index : Subsystem → Nat
  | .main => 0
  | .alternate => 1

instance : Numbered SpaceKey where
  number key := 2 * key.id.index + key.subsystem.index
  number_injective {left right} same := by
    obtain ⟨leftSystem, ⟨leftIndex⟩⟩ := left
    obtain ⟨rightSystem, ⟨rightIndex⟩⟩ := right
    match leftSystem, rightSystem with
    | .main, .main =>
      have equal : leftIndex = rightIndex := by
        simp only [Subsystem.index] at same
        omega
      rw [equal]
    | .alternate, .alternate =>
      have equal : leftIndex = rightIndex := by
        simp only [Subsystem.index] at same
        omega
      rw [equal]
    | .main, .alternate =>
      simp only [Subsystem.index] at same
      omega
    | .alternate, .main =>
      simp only [Subsystem.index] at same
      omega

/-- A file, counted in order of creation. -/
structure FileId where
  index : Nat
deriving DecidableEq

instance : Numbered FileId where
  number := FileId.index
  number_injective {left right} same := by
    cases left
    cases right
    exact congrArg FileId.mk same

/-- An open handle of a file. Serial zero is the handle that came into being with the file;
every reopening makes a handle with a new serial. -/
structure FileHandle where
  file : FileId
  serial : Nat
deriving DecidableEq

/-- The handle that is opened when a file is created. -/
def FileId.creationHandle (file : FileId) : FileHandle := ⟨file, 0⟩

/-- A deferred page initializer, counted in order of creation. -/
structure InitializerId where
  index : Nat
deriving DecidableEq

instance : Numbered InitializerId where
  number := InitializerId.index
  number_injective {left right} same := by
    cases left
    cases right
    exact congrArg InitializerId.mk same

end DemandPaging
