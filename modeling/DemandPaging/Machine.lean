import DemandPaging.Frame.Pool
import DemandPaging.Frame.Table
import DemandPaging.Page.Transfer
import DemandPaging.Space

/-!
# The machine

A `Machine` is everything that operations on user memory can see or change: physical memory, the
page pool, two frame tables, all address spaces, and the environment. `KernelAction` is a
computation on it.
-/

namespace DemandPaging

/-- The whole state. -/
structure Machine (config : Config) where
  /-- The contents of the frames; a frame that was never written is zero. -/
  memory : OrderedMap FrameNumber (PageBytes config)
  pool : FramePool
  mainTable : FrameTable
  alternateTable : FrameTable
  /-- All address spaces that exist, also those that nobody can name any more. -/
  spaces : OrderedMap SpaceKey (Space config)
  /-- How many page tables have been made. -/
  pageTables : Nat
  environment : Environment config

namespace Machine

variable {config : Config}

/-- A machine with a number of free frames and swap slots, and nothing else. -/
def boot (config : Config) (frames slots : Nat) : Machine config where
  memory := .empty
  pool := .ofSize frames
  mainTable := {}
  alternateTable := {}
  spaces := .empty
  pageTables := 0
  environment := { swap := { capacity := slots } }

/-- The content of a frame. -/
def frameBytes (machine : Machine config) (frame : FrameNumber) : PageBytes config :=
  (machine.memory.get? frame).getD PageBytes.zero

/-- Replaces the content of a frame. -/
def setFrameBytes (machine : Machine config) (frame : FrameNumber) (bytes : PageBytes config) :
    Machine config :=
  { machine with memory := machine.memory.insert frame bytes }

/-- The frame table of a subsystem. -/
def table (machine : Machine config) : Subsystem → FrameTable
  | .main => machine.mainTable
  | .alternate => machine.alternateTable

/-- Replaces the frame table of a subsystem. -/
def setTable (machine : Machine config) (subsystem : Subsystem) (table : FrameTable) :
    Machine config :=
  match subsystem with
  | .main => { machine with mainTable := table }
  | .alternate => { machine with alternateTable := table }

/-- The address space of the given name; one without pages where there is none. -/
def space (machine : Machine config) (key : SpaceKey) : Space config :=
  (machine.spaces.get? key).getD { Space.fresh default with registered := false }

/-- Changes an address space. -/
def updateSpace (machine : Machine config) (key : SpaceKey)
    (update : Space config → Space config) : Machine config :=
  { machine with spaces := machine.spaces.modify key update }

/-- Adds an event to the history. -/
def record (machine : Machine config) (event : Event) : Machine config :=
  { machine with environment := machine.environment.record event }

/-- The address spaces that are registered with a subsystem. -/
def registeredSpaces (machine : Machine config) (subsystem : Subsystem) : List SpaceKey :=
  (machine.spaces.entries.filter fun (key, space) =>
    key.subsystem == subsystem && space.registered).map Prod.fst

@[simp] theorem table_setTable (machine : Machine config) (subsystem : Subsystem)
    (table : FrameTable) : (machine.setTable subsystem table).table subsystem = table := by
  cases subsystem <;> rfl

/-- The two subsystems keep separate frame tables. -/
theorem table_setTable_of_ne {changed other : Subsystem} (different : changed ≠ other)
    (machine : Machine config) (table : FrameTable) :
    (machine.setTable changed table).table other = machine.table other := by
  match changed, other with
  | .main, .main => exact absurd rfl different
  | .main, .alternate => rfl
  | .alternate, .main => rfl
  | .alternate, .alternate => exact absurd rfl different

/-- Writing one frame leaves the bytes of every other frame as they were. -/
theorem frameBytes_setFrameBytes (machine : Machine config) (frame probe : FrameNumber)
    (bytes : PageBytes config) : (machine.setFrameBytes frame bytes).frameBytes probe =
      if frame = probe then bytes else machine.frameBytes probe := by
  unfold frameBytes setFrameBytes
  rw [OrderedMap.get?_insert]
  by_cases same : frame = probe
  · rw [if_pos (congrArg Numbered.number same), if_pos same]
    rfl
  · rw [if_neg (fun equal => same (Numbered.number_injective equal)), if_neg same]

end Machine

/-- A computation on the machine. -/
abbrev KernelAction (config : Config) := Action (Machine config)

namespace KernelAction

variable {config : Config}

/-- Adds an event to the history. -/
def record (event : Event) : KernelAction config Unit := .change (·.record event)

/-- Runs a computation on the environment. -/
def onEnvironment {Value : Type} (action : EnvironmentAction config Value) :
    KernelAction config Value :=
  action.zoom Machine.environment fun machine environment =>
    { machine with environment := environment }

/-- Runs a computation on a frame and the environment. -/
def onFrame {Value : Type} (frame : FrameNumber) (action : FrameAction config Value) :
    KernelAction config Value :=
  action.zoom
    (fun machine =>
      { environment := machine.environment, bytes := machine.frameBytes frame })
    fun machine window =>
      { machine.setFrameBytes frame window.bytes with environment := window.environment }

/-- An address space. -/
def space (key : SpaceKey) : KernelAction config (Space config) := .view (·.space key)

/-- Changes an address space. -/
def updateSpace (key : SpaceKey) (update : Space config → Space config) :
    KernelAction config Unit :=
  .change (·.updateSpace key update)

/-- Changes the frame table of a subsystem. -/
def updateTable (subsystem : Subsystem) (update : FrameTable → FrameTable) :
    KernelAction config Unit :=
  .change fun machine => machine.setTable subsystem (update (machine.table subsystem))

/-- Registers a page with an address space, unless there is one already. -/
def insertPage (key : SpaceKey) (page : Page config) : KernelAction config Unit := do
  match (← space key).insertPage page with
  | .ok grown => updateSpace key fun _ => grown
  | .error error => .fail error

/-- Takes a registered page out of an address space, with all it holds. -/
def takePage (key : SpaceKey) (number : PageNumber) : KernelAction config (Page config) := do
  let page ← Action.orFail ((← space key).pages.get? number) .notMapped
  updateSpace key (·.dropPage number)
  return page

end KernelAction

end DemandPaging
