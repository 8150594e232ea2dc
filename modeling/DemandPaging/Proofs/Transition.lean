import DemandPaging.Operation
import DemandPaging.Proofs.Views

/-!
# Transitions

A `Transition` is one indivisible change of a machine: between two of them the kernel's tables are in
order, and in the middle of one they need not be. `Transition.Leads` gives for each transition the
states in which it can happen and the state it leads to. It is authoritative for what an operation
can do at all: every operation is a `Path` of transitions, so what every transition preserves holds
throughout every run.
-/

namespace DemandPaging

/-- The events that only report something and change nothing that a later step depends on. -/
def Event.isNote : Event → Bool
  | .growingStack _ | .unmappedAccess .. | .unresolvedFault .. | .mapFailed ..
  | .unmapFailed .. | .teardownFailed .. | .shutdownWithSpaces _ => true
  | _ => false

/-- A change of a space that concerns nothing but its mappings' records and its stack pointer. -/
def Space.IsSetting {config : Config} (change : Space config → Space config) : Prop :=
  ∀ space, change space =
    { space with regions := (change space).regions, stackPointer := (change space).stackPointer }

/-- The initializer that a page waits for. -/
def PageKind.initializer? {config : Config} : PageKind config → Option (Initializer config)
  | .unloaded _ initializer => initializer
  | _ => none

/-- One indivisible change. -/
inductive Transition (config : Config) where
  /-- A report is added to the history. -/
  | note (event : Event)
  /-- A free frame enters the queue of a subsystem. -/
  | take (subsystem : Subsystem) (frame : FrameNumber)
  /-- A page loses its frame, which goes to the end of the queue. -/
  | evict (space : SpaceKey) (number : PageNumber) (frame : FrameNumber)
  /-- A page is loaded into a waiting frame. -/
  | load (space : SpaceKey) (number : PageNumber) (frame : FrameNumber)
  /-- A page cannot be loaded; the waiting frame holds what there was. -/
  | spoil (space : SpaceKey) (number : PageNumber) (frame : FrameNumber) (error : VmError)
  /-- A waiting frame goes back to the pool. -/
  | release (subsystem : Subsystem) (frame : FrameNumber)
  /-- A frame is exempted from eviction, or the exemption ends. -/
  | pin (subsystem : Subsystem) (frame : FrameNumber) (pinned : Bool)
  /-- A registered copy of a page gets the content of its model. -/
  | copy (child parent : SpaceKey) (number : PageNumber) (frame : FrameNumber)
  /-- A page without content is registered. -/
  | register (space : SpaceKey) (page : Page config)
  /-- A page that was never loaded is forgotten. -/
  | unregister (space : SpaceKey) (number : PageNumber)
  /-- A page is taken out of its space and ended. -/
  | discard (space : SpaceKey) (number : PageNumber)
  /-- Bytes are stored in a resident page. -/
  | store (space : SpaceKey) (number : PageNumber) (position : Nat) (piece : Bytes)
  /-- The mappings' records or the stack pointer of a space change. -/
  | set (space : SpaceKey)
  | create (space : SpaceKey)
  /-- A space without pages ceases to exist. -/
  | forget (space : SpaceKey)
  /-- Another state of a file, its data, its counts or its failures. -/
  | setFile (file : FileId) (contents : File)
  | createFile (file : FileId) (data : Bytes)
  | listInitializer (initializer : InitializerId)
  /-- The injected failures of the swap device change. -/
  | setSwapFaults
  /-- An outsider takes a free frame. -/
  | lend (frame : FrameNumber)
  /-- An outsider gives a frame back. -/
  | reclaim (frame : FrameNumber)

namespace Machine

variable {config : Config} (machine : Machine config)

/-- A frame and the environment it can be loaded from. -/
def window (frame : FrameNumber) : FrameWindow config where
  environment := machine.environment
  bytes := machine.frameBytes frame

/-- The machine with a frame and the environment as loading left them. -/
def putWindow (frame : FrameNumber) (window : FrameWindow config) : Machine config :=
  { machine.setFrameBytes frame window.bytes with environment := window.environment }

/-- The machine with a frame back in the pool. -/
def giveBack (frame : FrameNumber) : Machine config :=
  { machine with pool := machine.pool.giveBack frame }

/-- The machine with a frame out of its queue and back in the pool. -/
def release (subsystem : Subsystem) (frame : FrameNumber) : Machine config :=
  (machine.updateTable subsystem (·.remove frame)).giveBack frame

/-- The machine in which the first free frame waits at the end of a queue. -/
def take (subsystem : Subsystem) (frame : FrameNumber) (rest : List FrameNumber) :
    Machine config :=
  ({ machine.record (.frameRequested subsystem false) with
      pool := { machine.pool with free := rest } }.setFrameBytes frame PageBytes.zero).updateTable
    subsystem (·.push frame)

/-- The machine on the point of saving the content of a victim: `remaining` is the queue without
it. -/
def beforeStore (key : SpaceKey) (number : PageNumber) (remaining : FrameTable) : Machine config :=
  (((machine.record (.frameRequested key.subsystem true)).updateTable key.subsystem
    fun _ => remaining).record (.evicting key number)).updateSpace key (·.unmapPage number)

/-- The machine in which a page has lost its frame: the page is `stored`, its content is in the
environment, and the frame waits at the end of the queue. -/
def vacate (key : SpaceKey) (stored : Page config) (environment : Environment config)
    (frame : FrameNumber) : Machine config :=
  ((({ machine with environment := environment }.updateSpace key (·.setPage stored)).updateTable
    key.subsystem (·.countEviction)).setFrameBytes frame PageBytes.zero).updateTable
    key.subsystem (·.push frame)

/-- The machine in which a page holds a frame: the hardware maps it, and the queue knows it. -/
def settle (key : SpaceKey) (page : Page config) (frame : FrameNumber) : Machine config :=
  ((machine.updateSpace key fun space =>
    (space.setPage { page with frame := some frame }).mapPage page.number frame
      (EntryFlags.userPage page.writable)).updateTable key.subsystem
    (·.assign frame { space := key.id, page := page.number })).record
      (.becameResident key page.number frame)

/-- The machine in which a page that was loaded holds its frame: `kind` and `window` are what the
load made of the page, the frame and the environment. -/
def settleLoaded (key : SpaceKey) (page : Page config) (frame : FrameNumber)
    (kind : PageKind config) (window : FrameWindow config) : Machine config :=
  (((machine.record (.loading key page.number)).putWindow frame window).updateSpace key
    (·.setPage { page with kind := kind })).settle key { page with kind := kind } frame

/-- The machine in which a page holds a frame with the given content. -/
def settleCopy (key : SpaceKey) (page : Page config) (frame : FrameNumber)
    (bytes : PageBytes config) (dirty : Bool) : Machine config :=
  if dirty then
    ((machine.setFrameBytes frame bytes).settle key page frame).updateSpace key
      (·.markDirty page.number)
  else (machine.setFrameBytes frame bytes).settle key page frame

/-- The machine without a page that held no frame. -/
def endAbsent (key : SpaceKey) (number : PageNumber) (environment : Environment config) :
    Machine config :=
  { machine.updateSpace key (·.dropPage number) with environment := environment }

/-- The machine without a page, whose frame is back in the pool. -/
def endResident (key : SpaceKey) (number : PageNumber) (frame : FrameNumber)
    (environment : Environment config) : Machine config :=
  { (machine.updateSpace key (·.dropPage number)).updateSpace key (·.unmapPage number) with
    environment := environment }.release key.subsystem frame

/-- The name that the next address space of a subsystem gets. -/
def nextKey (subsystem : Subsystem) : SpaceKey where
  subsystem := subsystem
  id := ⟨(machine.table subsystem).nextSpace⟩

/-- The machine with one more space, which has no pages. -/
def addSpace (subsystem : Subsystem) (root : PhysicalAddress) : Machine config :=
  { machine with
      spaces := machine.spaces.insert (machine.nextKey subsystem) (Space.fresh root)
      pageTables := machine.pageTables + 1 }.updateTable subsystem fun table =>
    { table with nextSpace := table.nextSpace + 1 }

/-- What a page of a space can be copied from: the content, and whether the copy counts as written
to. -/
inductive Provides (key : SpaceKey) (page : Page config) : PageBytes config → Bool → Prop where
  | frame {source : FrameNumber} (isLoaded : ∀ target init, page.kind ≠ .unloaded target init)
      (resident : page.frame = some source) :
      Provides key page (machine.frameBytes source) ((machine.space key).isDirty page.number)
  | slot {slot : SwapSlot} {content : PageBytes config}
      (kept : page.kind = .anonymous (some slot)) (absent : page.frame = none)
      (read : machine.environment.swap.read machine.environment.swapSwitches slot = .ok content) :
      Provides key page content false

end Machine

namespace Transition

variable {config : Config}

open Machine

/-- The states between which a transition can happen. -/
inductive Leads : Transition config → Machine config → Machine config → Prop where
  | note {machine : Machine config} {event : Event} (isNote : event.isNote = true) :
    Leads (.note event) machine (machine.record event)
  | take {machine : Machine config} {subsystem : Subsystem} {frame : FrameNumber}
      {rest : List FrameNumber} (free : machine.pool.free = frame :: rest) :
    Leads (.take subsystem frame) machine (machine.take subsystem frame rest)
  | evict {machine : Machine config} {key : SpaceKey} {page : Page config} {frame : FrameNumber}
      {remaining : FrameTable} {kind : PageKind config} {environment : Environment config}
      (exhausted : machine.pool.free = [])
      (picked : (machine.table key.subsystem).pickVictim =
        some ({ frame := frame, owner := some ⟨key.id, page.number⟩ }, remaining))
      (found : machine.page? key page.number = some page) (resident : page.frame = some frame)
      (stored : page.kind.store page.number (machine.frameBytes frame)
        ((machine.space key).isDirty page.number)
        (machine.beforeStore key page.number remaining).environment = .done kind environment) :
    Leads (.evict key page.number frame) machine
      ((machine.beforeStore key page.number remaining).vacate key
        { page with kind := kind, frame := none } environment frame)
  | load {machine : Machine config} {key : SpaceKey} {page : Page config} {frame : FrameNumber}
      {kind : PageKind config} {window : FrameWindow config}
      (found : machine.page? key page.number = some page) (absent : page.frame = none)
      (awaits : (machine.table key.subsystem).Awaits frame)
      (loaded : page.kind.load page.number ((machine.record (.loading key page.number)).window
        frame) = .done kind window) :
    Leads (.load key page.number frame) machine (machine.settleLoaded key page frame kind window)
  | spoil {machine : Machine config} {key : SpaceKey} {page : Page config} {frame : FrameNumber}
      {error : VmError} {window : FrameWindow config}
      (found : machine.page? key page.number = some page) (absent : page.frame = none)
      (awaits : (machine.table key.subsystem).Awaits frame)
      (failed : page.kind.load page.number ((machine.record (.loading key page.number)).window
        frame) = .failed error window) :
    Leads (.spoil key page.number frame error) machine
      (((machine.record (.loading key page.number)).putWindow frame window).record
        (.loadFailed page.number error))
  | release {machine : Machine config} {subsystem : Subsystem} {frame : FrameNumber}
      (awaits : (machine.table subsystem).Awaits frame) :
    Leads (.release subsystem frame) machine (machine.release subsystem frame)
  | pin {machine : Machine config} {subsystem : Subsystem} {frame : FrameNumber} {pinned : Bool}
      (tracked : frame ∈ (machine.table subsystem).frames) :
    Leads (.pin subsystem frame pinned) machine
      (machine.updateTable subsystem (·.setPinned frame pinned))
  | copy {machine : Machine config} {child parent : SpaceKey} {page : Page config}
      {frame : FrameNumber} {bytes : PageBytes config} {dirty : Bool}
      (model : machine.page? parent page.number = some page)
      (found : machine.page? child page.number = some page.forked)
      (awaits : (machine.table child.subsystem).Awaits frame)
      (provides : machine.Provides parent page bytes dirty) :
    Leads (.copy child parent page.number frame) machine
      (machine.settleCopy child page.forked frame bytes dirty)
  | register {machine : Machine config} {key : SpaceKey} {page : Page config}
      (vacant : machine.page? key page.number = none) (absent : page.frame = none)
      (slotless : page.kind.slot? = none) (spaceExists : machine.spaces.contains key = true)
      (named : ∀ initializer, page.kind.initializer? = some initializer →
        (machine.environment.runs.get? initializer.id).isSome) :
    Leads (.register key page) machine (machine.updateSpace key (·.setPage page))
  | unregister {machine : Machine config} {key : SpaceKey} {page : Page config}
      {target : PageTarget config} {initializer : Option (Initializer config)}
      (found : machine.page? key page.number = some page)
      (unloaded : page.kind = .unloaded target initializer) :
    Leads (.unregister key page.number) machine (machine.updateSpace key (·.dropPage page.number))
  | discard {machine : Machine config} {key : SpaceKey} {page : Page config}
      {environment : Environment config}
      (found : machine.page? key page.number = some page) (absent : page.frame = none)
      (ended : page.kind.discard none machine.environment = .done () environment) :
    Leads (.discard key page.number) machine (machine.endAbsent key page.number environment)
  | discardResident {machine : Machine config} {key : SpaceKey} {page : Page config}
      {frame : FrameNumber} {result : Except VmError Unit} {environment : Environment config}
      (found : machine.page? key page.number = some page) (resident : page.frame = some frame)
      (ended : (page.kind.discard (some (machine.frameBytes frame,
        (machine.space key).isDirty page.number))).attempt machine.environment =
          .done result environment) :
    Leads (.discard key page.number) machine
      (machine.endResident key page.number frame environment)
  | store {machine : Machine config} {key : SpaceKey} {page : Page config} {frame : FrameNumber}
      {position : Nat} {piece : Bytes}
      (found : machine.page? key page.number = some page) (resident : page.frame = some frame)
      (writable : page.writable = true) :
    Leads (.store key page.number position piece) machine
      ((machine.setFrameBytes frame ((machine.frameBytes frame).overwrite position
        piece)).updateSpace key (·.markDirty page.number))
  | set {machine : Machine config} {key : SpaceKey} {change : Space config → Space config}
      (isSetting : Space.IsSetting change) :
    Leads (.set key) machine (machine.updateSpace key change)
  | create {machine : Machine config} {subsystem : Subsystem} {root : PhysicalAddress} :
    Leads (.create (machine.nextKey subsystem)) machine (machine.addSpace subsystem root)
  | forget {machine : Machine config} {key : SpaceKey}
      (empty : ∀ number, machine.page? key number = none) :
    Leads (.forget key) machine { machine with spaces := machine.spaces.erase key }
  | setFile {machine : Machine config} {file : FileId} {contents : File} :
    Leads (.setFile file contents) machine
      { machine with environment := machine.environment.setFile file contents }
  | createFile {machine : Machine config} {data : Bytes} :
    Leads (.createFile ⟨machine.environment.files.size⟩ data) machine
      { machine with
        environment :=
          { machine.environment with
            files := machine.environment.files.insert ⟨machine.environment.files.size⟩
              { data := data } } }
  | listInitializer {machine : Machine config} :
    Leads (.listInitializer ⟨machine.environment.runs.size⟩) machine
      { machine with
        environment :=
          { machine.environment with
            runs := machine.environment.runs.insert ⟨machine.environment.runs.size⟩ 0 } }
  | setSwapFaults {machine : Machine config} {faults : SwapFaults} :
    Leads .setSwapFaults machine
      { machine with
        environment :=
          { machine.environment with
            swap := { machine.environment.swap with faults := faults } } }
  | lend {machine : Machine config} {frame : FrameNumber} {rest : List FrameNumber}
      (free : machine.pool.free = frame :: rest) :
    Leads (.lend frame) machine
      { machine.setFrameBytes frame PageBytes.zero with
        pool := { machine.pool with free := rest }.lend frame }
  | reclaim {machine : Machine config} {frame : FrameNumber}
      (lent : frame ∈ machine.pool.outside.keys) :
    Leads (.reclaim frame) machine
      ({ machine with pool := machine.pool.takeBack frame }.giveBack frame)

end Transition

/-- Zero or more transitions, each of a permitted kind in the state in which it happens. -/
inductive Path {config : Config} (permits : Machine config → Transition config → Prop) :
    Machine config → Machine config → Prop where
  | refl {machine : Machine config} : Path permits machine machine
  | step {start machine next : Machine config} {transition : Transition config}
      (prior : Path permits start machine) (leads : transition.Leads machine next)
      (permitted : permits machine transition) : Path permits start next

namespace Path

variable {config : Config} {permits permits' : Machine config → Transition config → Prop}
  {start middle last : Machine config}

/-- Two ways, one after the other, are a way. -/
theorem trans (first : Path permits start middle) (second : Path permits middle last) :
    Path permits start last := by
  induction second with
  | refl => exact first
  | step _ leads permitted inductionHypothesis =>
    exact .step inductionHypothesis leads permitted

/-- One permitted transition is a way. -/
theorem single {transition : Transition config} (leads : transition.Leads start last)
    (permitted : permits start transition) : Path permits start last :=
  .step .refl leads permitted

/-- A path of permitted transitions is one of those that are permitted more freely. -/
theorem mono (path : Path permits start last)
    (weaker : ∀ machine transition, permits machine transition → permits' machine transition) :
    Path permits' start last := by
  induction path with
  | refl => exact .refl
  | step _ leads permitted inductionHypothesis =>
    exact .step inductionHypothesis leads (weaker _ _ permitted)

/-- What every permitted transition preserves holds at the end of a path. -/
theorem preserves {holds : Machine config → Prop} (path : Path permits start last)
    (initially : holds start)
    (preserved : ∀ machine transition next, holds machine → permits machine transition →
      transition.Leads machine next → holds next) : holds last := by
  induction path with
  | refl => exact initially
  | step _ leads permitted inductionHypothesis =>
    exact preserved _ _ _ inductionHypothesis permitted leads

end Path

end DemandPaging
