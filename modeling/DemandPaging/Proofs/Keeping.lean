import DemandPaging.Lifecycle
import DemandPaging.Proofs.Views

/-!
# What actions leave alone

`Action.Keeps` says that a view of the state is the same however an action ends. It needs no
invariant, so it carries over from the parts of an action to the whole. `Machine.Outline` is the view
that copying pages leaves alone: which files are mapped where, the stack pointers, and which
initializers have been run.
-/

namespace DemandPaging

namespace Action

variable {State Value Next Whole Element View WholeView : Type}

/-- A view of the state is the same after an action as before, however the action ends. -/
structure Keeps (look : State → View) (action : Action State Value) : Prop where
  same : ∀ state, look (action state).state = look state

namespace Keeps

variable {look : State → View}

theorem of_done {action : Action State Value} {state later : State} {value : Value}
    (keeps : action.Keeps look) (done : action state = .done value later) :
    look later = look state := by
  have same := keeps.same state
  rwa [done] at same

theorem of_failed {action : Action State Value} {state later : State} {error : VmError}
    (keeps : action.Keeps look) (failed : action state = .failed error later) :
    look later = look state := by
  have same := keeps.same state
  rwa [failed] at same

theorem of_panicked {action : Action State Value} {state last : State} {panic : Panic}
    (keeps : action.Keeps look) (panicked : action state = .panicked panic last) :
    look last = look state := by
  have same := keeps.same state
  rwa [panicked] at same

/-- A sequence keeps what both of its parts keep. -/
theorem bind {first : Action State Value} {next : Value → Action State Next}
    (before : first.Keeps look) (after : ∀ value, (next value).Keeps look) :
    (first >>= next).Keeps look := by
  constructor
  intro state
  have same := before.same state
  rw [bind_apply]
  cases outcome : first state with
  | done value middle =>
    rw [outcome] at same
    exact ((after value).same middle).trans same
  | failed error middle =>
    rw [outcome] at same
    exact same
  | panicked panic middle =>
    rw [outcome] at same
    exact same

theorem pure (result : Value) : (Pure.pure result : Action State Value).Keeps look := ⟨fun _ => rfl⟩

theorem current : (Action.current : Action State State).Keeps look := ⟨fun _ => rfl⟩

theorem view (seen : State → Value) : (Action.view seen).Keeps look := ⟨fun _ => rfl⟩

theorem fail (error : VmError) : (Action.fail error : Action State Value).Keeps look :=
  ⟨fun _ => rfl⟩

theorem halt (panic : Panic) : (Action.halt panic : Action State Value).Keeps look := ⟨fun _ => rfl⟩

/-- A change of the state keeps what it does not change. -/
theorem change {update : State → State} (same : ∀ state, look (update state) = look state) :
    (Action.change update).Keeps look := ⟨same⟩

/-- An assertion keeps everything, whether it holds or not. -/
theorem assert (condition : Bool) (panic : Panic) :
    (Action.assert condition panic : Action State Unit).Keeps look := by
  cases condition <;> exact ⟨fun _ => rfl⟩

/-- Choosing a value or an error keeps everything. -/
theorem orFail (option : Option Value) (error : VmError) :
    (Action.orFail option error : Action State Value).Keeps look := by
  cases option <;> exact ⟨fun _ => rfl⟩

/-- Passing on a result keeps everything. -/
theorem ofExcept (result : Except VmError Value) :
    (Action.ofExcept result : Action State Value).Keeps look := by
  cases result <;> exact ⟨fun _ => rfl⟩

/-- Catching the error of a computation does not change what it keeps. -/
theorem attempt {action : Action State Value} (keeps : action.Keeps look) :
    action.attempt.Keeps look := by
  constructor
  intro state
  have same := keeps.same state
  unfold Action.attempt
  cases outcome : action state <;> rw [outcome] at same <;> exact same

/-- What an action keeps on a part of the state is kept on the whole, for every view that only sees
this part. -/
theorem zoom {part : Whole → State} {restore : Whole → State → Whole} {seen : Whole → WholeView}
    {action : Action State Value} (keeps : action.Keeps look)
    (same : ∀ whole state, look state = look (part whole) → seen (restore whole state) = seen whole) :
    (action.zoom part restore).Keeps seen := by
  constructor
  intro whole
  have kept := keeps.same (part whole)
  unfold Action.zoom
  cases outcome : action (part whole) <;> rw [outcome] at kept <;> exact same _ _ kept

/-- A loop keeps what each of its rounds keeps. -/
theorem forEach {step : Element → Action State Unit} (keeps : ∀ element, (step element).Keeps look) :
    ∀ elements, (Action.forEach step elements).Keeps look
  | [] => ⟨fun _ => rfl⟩
  | element :: rest => bind (keeps element) fun _ => forEach keeps rest

end Keeps

end Action

/-! ## Initializers -/

/-- Whether an event is the run of an initializer. -/
def Event.isInitialization : Event → Bool
  | .initializing .. => true
  | _ => false

namespace Environment

variable {config : Config}

/-- The runs of initializers, in the order in which they happened. -/
def initializations (environment : Environment config) : List Event :=
  environment.history.toList.filter Event.isInitialization

/-- How often each initializer has been run, and each of the runs. -/
def initialized (environment : Environment config) :
    OrderedMap InitializerId Nat × List Event :=
  (environment.runs, environment.initializations)

/-- Only runs of initializers enter into the record of initializer runs. -/
theorem initialized_record (environment : Environment config) {event : Event}
    (other : event.isInitialization = false) :
    (environment.record event).initialized = environment.initialized := by
  simp [initialized, initializations, record, other]

variable {View : Type}

/-- A view of the environment that saving and ending pages leaves alone. -/
structure IgnoresSaving (look : Environment config → View) : Prop where
  swap : ∀ environment device, look { environment with swap := device } = look environment
  files : ∀ environment files, look { environment with files := files } = look environment
  writing : ∀ environment handle offset bytes,
    look (environment.record (.writingBack handle offset bytes)) = look environment
  shortWrite : ∀ environment offset expected got,
    look (environment.record (.shortWrite offset expected got)) = look environment

/-- A view of the environment that reading the content of a page leaves alone. -/
structure IgnoresReading (look : Environment config → View) : Prop where
  swap : ∀ environment device, look { environment with swap := device } = look environment
  files : ∀ environment files, look { environment with files := files } = look environment
  reading : ∀ environment handle offset length,
    look (environment.record (.readingFile handle offset length)) = look environment
  shortRead : ∀ environment offset expected got,
    look (environment.record (.shortRead offset expected got)) = look environment

/-- A view of the environment that loading pages leaves alone. -/
structure IgnoresLoading (look : Environment config → View) : Prop extends
    IgnoresReading look where
  runs : ∀ environment runs, look { environment with runs := runs } = look environment
  initializing : ∀ environment initializer number,
    look (environment.record (.initializing initializer number)) = look environment

theorem ignoresSaving_initialized : IgnoresSaving (@initialized config) where
  swap _ _ := rfl
  files _ _ := rfl
  writing environment _ _ _ := environment.initialized_record rfl
  shortWrite environment _ _ _ := environment.initialized_record rfl

end Environment

namespace EnvironmentAction

variable {config : Config} {View : Type} {look : Environment config → View}

/-- Asking whether a handle is open changes nothing. -/
theorem keeps_checkHandle (handle : FileHandle) :
    (checkHandle handle : EnvironmentAction config Unit).Keeps look := by
  unfold checkHandle
  refine .bind .current fun environment => ?_
  split
  · exact .fail _
  · exact .pure _

/-- A read from swap changes nothing, not even when it fails. -/
theorem keeps_readSlot (slot : SwapSlot) :
    (readSlot slot : EnvironmentAction config (PageBytes config)).Keeps look := by
  unfold readSlot
  refine .bind .current fun environment => ?_
  split
  · exact .pure _
  · exact .fail _

/-- A page saved on swap is visible in the swap device only. -/
theorem keeps_swapOut (content : PageBytes config)
    (blind : ∀ environment device, look { environment with swap := device } = look environment) :
    (swapOut content).Keeps look := by
  unfold swapOut
  refine .bind .current fun environment => ?_
  split
  · exact .halt _
  · refine .bind (.change fun _ => blind _ _) fun _ => .bind .current fun later => ?_
    split
    · exact .halt _
    · exact .bind (.change fun _ => blind _ _) fun _ => .pure _

/-- A slot given back is visible in the swap device only. -/
theorem keeps_freeSlot (slot : SwapSlot)
    (blind : ∀ environment device, look { environment with swap := device } = look environment) :
    (freeSlot slot : EnvironmentAction config Unit).Keeps look :=
  .bind .current fun _ => .bind (.assert _ _) fun _ => .change fun _ => blind _ _

variable (look) in
/-- Writing to a file is recorded first; after that only the file changes. -/
theorem writeFile_eq (handle : FileHandle) (offset : Word) (bytes : Bytes) :
    ∃ rest : EnvironmentAction config Nat,
      writeFile handle offset bytes =
        (record (.writingBack handle offset bytes) >>= fun _ => rest) ∧
      ((∀ environment files, look { environment with files := files } = look environment) →
        rest.Keeps look) := by
  refine ⟨_, rfl, fun blind => .bind (keeps_checkHandle handle) fun _ =>
    .bind .current fun environment => ?_⟩
  split
  · exact .fail _
  · exact .bind (.change fun _ => blind _ _) fun _ => .pure _

end EnvironmentAction

/-! ## Saving, ending and loading pages -/

section Saving

variable {config : Config} {View : Type} {look : Environment config → View}

/-- A write-back is invisible to every view that ignores saving. -/
theorem FileBacking.keeps_writeBack (ignores : Environment.IgnoresSaving look)
    (backing : FileBacking config) (bytes : PageBytes config) :
    (backing.writeBack bytes).Keeps look := by
  unfold writeBack
  split
  · exact .pure _
  obtain ⟨rest, same, keeps⟩ := EnvironmentAction.writeFile_eq look backing.handle
    backing.offset (bytes.slice 0 backing.readBytes)
  rw [same]
  refine .bind (.bind (.change fun _ => ignores.writing _ _ _ _) fun _ => keeps ignores.files)
    fun count => ?_
  split
  · exact .pure _
  · exact .bind (.change fun _ => ignores.shortWrite _ _ _ _) fun _ => .fail _

namespace PageKind

/-- Saving a page leaves a view alone. -/
theorem keeps_store (ignores : Environment.IgnoresSaving look) (number : PageNumber)
    (bytes : PageBytes config) (dirty : Bool) (kind : PageKind config) :
    (kind.store number bytes dirty).Keeps look := by
  cases kind with
  | anonymous slot =>
    apply Action.Keeps.bind (.assert _ _) fun _ => ?_
    split
    · exact .pure _
    · exact .bind (EnvironmentAction.keeps_swapOut bytes ignores.swap) fun _ => .pure _
  | file backing =>
    cases dirty with
    | true =>
      refine .bind (backing.keeps_writeBack ignores bytes).attempt fun result => ?_
      split
      · exact .pure _
      · exact .halt _
    | false => exact .pure _
  | unloaded => exact .halt _

/-- Ending a page leaves a view alone. -/
theorem keeps_discard (ignores : Environment.IgnoresSaving look)
    (resident : Option (PageBytes config × Bool)) (kind : PageKind config) :
    (kind.discard resident).Keeps look := by
  cases kind with
  | unloaded => exact .pure _
  | anonymous slot =>
    cases slot with
    | none => exact .pure _
    | some slot => exact EnvironmentAction.keeps_freeSlot slot ignores.swap
  | file backing =>
    match resident with
    | some (bytes, true) => exact backing.keeps_writeBack ignores bytes
    | some (_, false) => exact .pure _
    | none => exact .pure _

end PageKind

end Saving

section Loading

variable {config : Config} {View : Type} {look : Environment config → View}

namespace FrameAction

/-- Actions of the devices that run no initializer leave the outline as it was. -/
theorem keeps_onEnvironment {Value : Type} {action : EnvironmentAction config Value}
    (keeps : action.Keeps look) : (onEnvironment action).Keeps fun window =>
      look window.environment :=
  keeps.zoom fun _ _ same => same

/-- A read of a file is invisible to every view that ignores reading. -/
theorem keeps_readFile (ignores : Environment.IgnoresReading look) (handle : FileHandle)
    (offset : Word) (length : Nat) :
    (EnvironmentAction.readFile handle offset length : EnvironmentAction config Bytes).Keeps
      look := by
  refine .bind (.change fun _ => ignores.reading _ _ _ _) fun _ =>
    .bind (EnvironmentAction.keeps_checkHandle handle) fun _ => .bind .current fun environment => ?_
  split
  · exact .fail _
  · exact .bind (.change fun _ => ignores.files _ _) fun _ => .pure _

/-- A run of an initializer is invisible to every view that ignores loading. -/
theorem keeps_runInitializer (ignores : Environment.IgnoresLoading look)
    (initializer : Initializer config) (number : PageNumber) :
    (runInitializer initializer number).Keeps fun window => look window.environment := by
  refine .bind (keeps_onEnvironment (.change fun _ => ignores.initializing _ _ _))
    fun _ => .bind (keeps_onEnvironment ?_) fun run => .bind .current fun window => ?_
  · exact .bind (.view _) fun _ => .bind (.change fun _ => ignores.runs _ _) fun _ => .pure _
  · refine .bind (.change fun _ => rfl) fun _ => ?_
    split
    · exact .fail _
    · exact .pure _

end FrameAction

open FrameAction in
/-- Loading a file page is invisible to every view that ignores reading. -/
theorem FileBacking.keeps_load (ignores : Environment.IgnoresReading look)
    (backing : FileBacking config) :
    backing.load.Keeps fun window => look window.environment := by
  unfold load
  refine .bind (.change fun _ => rfl) fun _ => ?_
  split
  · exact .pure _
  · refine .bind (keeps_onEnvironment (keeps_readFile ignores ..)) fun data =>
      .bind (.change fun _ => rfl) fun _ => ?_
    split
    · exact .pure _
    · exact .bind (keeps_onEnvironment (.change fun _ => ignores.shortRead _ _ _ _)) fun _ =>
        .fail _

/-- Loading a target is invisible to every view that ignores reading. -/
theorem PageTarget.keeps_load (ignores : Environment.IgnoresReading look)
    (target : PageTarget config) : target.load.Keeps fun window => look window.environment := by
  cases target with
  | anonymous => exact .bind (.change fun _ => rfl) fun _ => .pure _
  | file backing => exact .bind (backing.keeps_load ignores) fun _ => .pure _

namespace PageKind

open FrameAction

/-- Loading a page leaves a view alone if running its initializer does. -/
theorem keeps_load_of_runs (ignores : Environment.IgnoresReading look) (number : PageNumber)
    (kind : PageKind config) (runs : ∀ target initializer,
      kind = .unloaded target (some initializer) →
        (runInitializer initializer number).Keeps fun window => look window.environment) :
    (kind.load number).Keeps fun window => look window.environment := by
  match kind with
  | .anonymous none => exact .bind (.change fun _ => rfl) fun _ => .pure _
  | .anonymous (some slot) =>
    exact .bind (keeps_onEnvironment (EnvironmentAction.keeps_readSlot slot)) fun content =>
      .bind (.change fun _ => rfl) fun _ =>
        .bind (keeps_onEnvironment (EnvironmentAction.keeps_freeSlot slot ignores.swap)) fun _ =>
          .pure _
  | .file backing => exact .bind (backing.keeps_load ignores) fun _ => .pure _
  | .unloaded target none => exact .bind (target.keeps_load ignores) fun kind => .pure _
  | .unloaded target (some initializer) =>
    exact .bind (target.keeps_load ignores) fun kind =>
      .bind (runs target initializer rfl) fun _ => .pure _

/-- Loading a page of any kind is invisible to every view that ignores loading. -/
theorem keeps_load (ignores : Environment.IgnoresLoading look) (number : PageNumber)
    (kind : PageKind config) : (kind.load number).Keeps fun window => look window.environment :=
  keeps_load_of_runs ignores.toIgnoresReading number kind fun _ initializer _ =>
    keeps_runInitializer ignores initializer number

end PageKind

end Loading

/-! ## The outline of a machine -/

/-- What making room, copying pages and removing pages leave alone. -/
structure Outline where
  /-- The records of the mappings of each space. -/
  regions : SpaceKey → OrderedMap PageNumber Region
  stackPointer : SpaceKey → Option VirtualAddress
  /-- How often each initializer has been run. -/
  runs : OrderedMap InitializerId Nat
  /-- The runs of initializers, in the order in which they happened. -/
  initializations : List Event

namespace Machine

variable {config : Config} (machine : Machine config)

/-- The outline of a machine. -/
def outline : Outline where
  regions key := (machine.space key).regions
  stackPointer key := (machine.space key).stackPointer
  runs := machine.environment.runs
  initializations := machine.environment.initializations

variable {machine} {later : Machine config}

/-- The outline of a machine is read from its spaces and its record of initializer runs. -/
theorem outline_congr (spaces : later.spaces = machine.spaces)
    (environment : later.environment.initialized = machine.environment.initialized) :
    later.outline = machine.outline := by
  have runs : later.environment.runs = machine.environment.runs := congrArg Prod.fst environment
  have ran : later.environment.initializations = machine.environment.initializations :=
    congrArg Prod.snd environment
  simp only [outline, space_congr spaces, runs, ran]

/-- A space whose regions and stack pointer stay leaves the outline as it was. -/
theorem outline_updateSpace {key : SpaceKey} {change : Space config → Space config}
    (regions : ∀ space, (change space).regions = space.regions)
    (stackPointer : ∀ space, (change space).stackPointer = space.stackPointer) :
    (machine.updateSpace key change).outline = machine.outline := by
  have same : ∀ probe, ((machine.updateSpace key change).space probe).regions =
      (machine.space probe).regions ∧ ((machine.updateSpace key change).space probe).stackPointer =
        (machine.space probe).stackPointer := by
    intro probe
    unfold Machine.space updateSpace
    rw [OrderedMap.get?_modify_eq]
    split
    · cases machine.spaces.get? probe with
      | none => exact ⟨rfl, rfl⟩
      | some space => exact ⟨regions space, stackPointer space⟩
    · exact ⟨rfl, rfl⟩
  simp only [outline, (same _).1, (same _).2, environment_updateSpace]

end Machine

namespace KernelAction

variable {config : Config}

/-- Only the event of an initializer run could change the outline. -/
theorem keeps_record {event : Event} (other : event.isInitialization = false) :
    (record event : KernelAction config Unit).Keeps Machine.outline :=
  .change fun machine =>
    Machine.outline_congr rfl (machine.environment.initialized_record other)

theorem keeps_space (key : SpaceKey) :
    (space key : KernelAction config (Space config)).Keeps Machine.outline :=
  .view _

theorem keeps_updateTable (subsystem : Subsystem) (update : FrameTable → FrameTable) :
    (updateTable subsystem update : KernelAction config Unit).Keeps Machine.outline :=
  .change fun _ => Machine.outline_congr (Machine.spaces_setTable ..) (by simp)

/-- Changes to pages and mappings alone leave the outline as it was. -/
theorem keeps_updateSpace {key : SpaceKey} {change : Space config → Space config}
    (regions : ∀ space, (change space).regions = space.regions)
    (stackPointer : ∀ space, (change space).stackPointer = space.stackPointer) :
    (updateSpace key change).Keeps Machine.outline :=
  .change fun _ => Machine.outline_updateSpace regions stackPointer

theorem keeps_onEnvironment {Value : Type} {action : EnvironmentAction config Value}
    (keeps : action.Keeps Environment.initialized) :
    (onEnvironment action).Keeps Machine.outline :=
  keeps.zoom fun _ _ same => Machine.outline_congr rfl same

/-- Taking a free frame leaves the outline as it was. -/
theorem keeps_takeFree : (takeFree : KernelAction config (Option FrameNumber)).Keeps
    Machine.outline := by
  refine .bind .current fun machine => ?_
  split
  · exact .pure _
  · exact .bind (.change fun _ => Machine.outline_congr rfl rfl) fun _ => .pure _

theorem keeps_giveBack (frame : FrameNumber) :
    (giveBack frame : KernelAction config Unit).Keeps Machine.outline :=
  .bind .current fun _ => .bind (.assert _ _) fun _ =>
    .change fun _ => Machine.outline_congr rfl rfl

theorem keeps_enqueue (subsystem : Subsystem) (frame : FrameNumber) :
    (enqueue subsystem frame : KernelAction config Unit).Keeps Machine.outline :=
  .bind .current fun _ => .bind (.assert _ _) fun _ => keeps_updateTable ..

/-- A frame given up leaves the outline as it was, also where the release panics. -/
theorem keeps_releaseFrame (subsystem : Subsystem) (frame : FrameNumber) :
    (releaseFrame subsystem frame : KernelAction config Unit).Keeps Machine.outline := by
  refine .bind .current fun machine => ?_
  split
  · exact .bind (keeps_updateTable ..) fun _ => keeps_giveBack frame
  · exact .bind (keeps_record rfl) fun _ => keeps_giveBack frame

/-- Giving a frame to a page leaves the outline as it was, also where it panics. -/
theorem keeps_assignFrame (frame : FrameNumber) (key : SpaceKey) (number : PageNumber) :
    (assignFrame frame key number : KernelAction config Unit).Keeps Machine.outline := by
  refine .bind .current fun machine => ?_
  split
  · exact .bind (keeps_updateTable ..) fun _ => keeps_record rfl
  · exact keeps_record rfl

/-- Saving the victim's content leaves the outline as it was, however the devices answer. -/
theorem keeps_evictPage (key : SpaceKey) (number : PageNumber) (frame : FrameNumber) :
    (evictPage key number frame : KernelAction config Unit).Keeps Machine.outline := by
  refine .bind (keeps_space key) fun owner => .bind
    (keeps_updateSpace (fun _ => rfl) fun _ => rfl) fun _ => .bind (keeps_space key) fun _ => ?_
  split
  · exact keeps_record rfl
  · refine .bind (.assert _ _) fun _ => .bind (.view _) fun bytes => .bind ?_ fun kind => ?_
    · exact keeps_onEnvironment (PageKind.keeps_store Environment.ignoresSaving_initialized ..)
    · exact keeps_updateSpace (fun _ => rfl) fun _ => rfl

/-- An eviction leaves regions, stack pointers and the initializers that ran as they were. -/
theorem keeps_evict (subsystem : Subsystem) (held : List SpaceKey) (entry : FrameEntry) :
    (evict subsystem held entry : KernelAction config Unit).Keeps Machine.outline := by
  unfold evict
  split
  · exact .pure _
  · refine .bind (keeps_record rfl) fun _ => .bind (keeps_space _) fun _ => ?_
    split
    · exact keeps_evictPage ..
    · exact keeps_record rfl

/-- Making room keeps the outline: a page that is evicted runs no initializer. -/
theorem keeps_acquireFrame (subsystem : Subsystem) (held : List SpaceKey) :
    (acquireFrame subsystem held : KernelAction config FrameNumber).Keeps Machine.outline := by
  refine .bind .current fun machine => .bind (keeps_record rfl) fun _ =>
    .bind keeps_takeFree fun taken => ?_
  split
  · exact .bind (keeps_enqueue ..) fun _ => .pure _
  · refine .bind .current fun _ => ?_
    split
    · exact .halt _
    · exact .bind (keeps_updateTable ..) fun _ => .bind (keeps_evict ..) fun _ =>
        .bind (keeps_updateTable ..) fun _ =>
          .bind (.change fun _ => Machine.outline_congr rfl rfl) fun _ =>
            .bind (keeps_enqueue ..) fun _ => .pure _

theorem keeps_settlePage (key : SpaceKey) (page : Page config) (frame : FrameNumber) :
    (settlePage key page frame).Keeps Machine.outline :=
  .bind (.assert _ _) fun _ => .bind (keeps_updateSpace (fun _ => rfl) fun _ => rfl) fun _ =>
    keeps_assignFrame ..

/-- Removing a page keeps the outline. -/
theorem keeps_discardPage (key : SpaceKey) (page : Page config) :
    (discardPage key page).Keeps Machine.outline := by
  unfold discardPage
  split
  · exact keeps_onEnvironment (PageKind.keeps_discard Environment.ignoresSaving_initialized ..)
  · refine .bind (keeps_space key) fun _ => .bind (keeps_updateSpace (fun _ => rfl) fun _ => rfl)
      fun _ => .bind (.view _) fun _ => .bind ?_ fun _ => .bind (keeps_releaseFrame ..) fun _ =>
        .ofExcept _
    exact (keeps_onEnvironment
      (PageKind.keeps_discard Environment.ignoresSaving_initialized ..)).attempt

/-- A removal leaves regions, stack pointers and the initializers that ran as they were. -/
theorem keeps_removePage (key : SpaceKey) (number : PageNumber) :
    (removePage key number : KernelAction config Unit).Keeps Machine.outline :=
  .bind (.bind (keeps_space key) fun _ => .bind (.orFail _ _) fun _ =>
    .bind (keeps_updateSpace (fun _ => rfl) fun _ => rfl) fun _ => .pure _) fun _ =>
      keeps_discardPage ..

/-- Tearing pages down leaves regions, stack pointers and the initializers that ran as they were. -/
theorem keeps_tearDownPages (key : SpaceKey) (numbers : List PageNumber) :
    (tearDownPages key numbers : KernelAction config Unit).Keeps Machine.outline := by
  refine .forEach (fun number => .bind (keeps_space key) fun _ => ?_) numbers
  split
  · exact .pure _
  · refine .bind (keeps_removePage ..).attempt fun _ => ?_
    split
    · exact .pure _
    · exact keeps_record rfl

/-- Copying a content runs no initializer and touches no region. -/
theorem keeps_fillCopy (child parent : SpaceKey) (number : PageNumber) (source : CopySource) :
    (fillCopy child parent number source : KernelAction config _).Keeps Machine.outline := by
  cases source with
  | frame source =>
    exact .bind (keeps_updateTable ..) fun _ => .bind (keeps_acquireFrame ..) fun _ =>
      .bind (keeps_updateTable ..) fun _ =>
        .bind (.change fun _ => Machine.outline_congr rfl rfl) fun _ =>
          .bind (keeps_space parent) fun _ => .pure _
  | slot slot =>
    refine .bind (keeps_acquireFrame ..) fun _ => .bind
      (keeps_onEnvironment (EnvironmentAction.keeps_readSlot slot)).attempt fun _ => ?_
    split
    · exact .bind (.change fun _ => Machine.outline_congr rfl rfl) fun _ => .pure _
    · exact .bind (keeps_releaseFrame ..) fun _ => .fail _

/-- A new page touches no region and no stack pointer. -/
theorem keeps_insertPage (key : SpaceKey) (page : Page config) :
    (insertPage key page).Keeps Machine.outline := by
  constructor
  intro machine
  by_cases taken : (machine.space key).pages.contains page.number
  · have refused : insertPage key page machine = .failed .alreadyMapped machine := by
      simp [insertPage, Action.bind_apply, space, Space.insertPage, taken]
    rw [refused]
    rfl
  · have inserted : insertPage key page machine =
        .done () (machine.updateSpace key fun _ => (machine.space key).setPage page) := by
      simp [insertPage, Action.bind_apply, space, Space.insertPage, taken]
      rfl
    rw [inserted, Machine.updateSpace_const key (·.setPage page)]
    exact Machine.outline_updateSpace (fun _ => rfl) fun _ => rfl

/-- Copying a page keeps the outline: what a page is waiting for is copied, not run. -/
theorem keeps_copyPage (child parent : SpaceKey) (number : PageNumber) :
    (copyPage child parent number : KernelAction config Unit).Keeps Machine.outline := by
  refine .bind (keeps_space parent) fun _ => ?_
  split
  · exact .pure _
  · refine .bind (keeps_insertPage child _) fun _ => ?_
    split
    · exact .pure _
    · refine .bind (keeps_fillCopy ..) fun filled => .bind (keeps_settlePage ..) fun _ => ?_
      split
      · exact keeps_updateSpace (fun _ => rfl) fun _ => rfl
      · exact .pure _

end KernelAction

end DemandPaging
