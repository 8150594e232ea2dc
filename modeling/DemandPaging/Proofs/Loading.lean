import DemandPaging.Proofs.Content
import DemandPaging.Proofs.Course.Basic
import DemandPaging.Proofs.Shape

/-!
# What loading a page comes to

`PageKind.source` is the content with which a page is loaded before any initializer: the bytes of its
slot, or of its file, or zeros. A load that succeeds leaves that content in the frame, or what the
initializer makes of it. A load fails only where a device fails, where the file is too short or where the
initializer refuses; `PageKind.CannotLoad` lists the reasons with their errors.
-/

namespace DemandPaging

variable {config : Config}

/-! ## Reasons -/

/-- What comes of reading the bytes that a page needs of its file. -/
def FileBacking.fetch (backing : FileBacking config) (environment : Environment config) :
    Except ErrorCode (Bytes × File) :=
  (environment.file backing.handle.file).read
    (environment.nextSwitches backing.handle.file)
    backing.offset.toNat backing.readBytes

/-- Why the bytes that a page needs of its file cannot be had, and with which error. -/
inductive FileBacking.Withheld (backing : FileBacking config) (environment : Environment config) :
    VmError → Prop where
  | unreachable {code : ErrorCode} (needed : backing.readBytes ≠ 0)
      (inode : (environment.nextSwitches backing.handle.file).inode = some code) :
    Withheld backing environment (.badFile code)
  | failing {code : ErrorCode} (needed : backing.readBytes ≠ 0)
      (read : backing.fetch environment = .error code) : Withheld backing environment (.io code)
  | short {bytes : Bytes} {later : File} (needed : backing.readBytes ≠ 0)
      (read : backing.fetch environment = .ok (bytes, later))
      (incomplete : bytes.size ≠ backing.readBytes) :
    Withheld backing environment (.io inputOutputError)

namespace PageKind

/-- The content with which a page is loaded, before any initializer. -/
def source (environment : Environment config) : PageKind config → PageBytes config
  | .anonymous (some slot) => (environment.swap.content? slot).getD PageBytes.zero
  | .anonymous none | .unloaded .anonymous _ => PageBytes.zero
  | .file backing | .unloaded (.file backing) _ =>
    backing.image (environment.file backing.handle.file).data

/-- A page that has this content before any initializer is loaded with these bytes. -/
def MadeFrom (environment : Environment config) (number : PageNumber) (kind : PageKind config)
    (content bytes : PageBytes config) : Prop :=
  match kind.initializer? with
  | none => bytes = content
  | some initializer =>
    initializer.run (environment.runsOf initializer.id + 1) number content = (bytes, none)

/-- Why a page cannot be loaded, and with which error. -/
inductive CannotLoad (environment : Environment config) (number : PageNumber) :
    PageKind config → VmError → Prop where
  | slot {slot : SwapSlot} {code : ErrorCode}
      (read : environment.swap.read environment.swapSwitches slot = .error code) :
    CannotLoad environment number (.anonymous (some slot)) (.io code)
  | file {kind : PageKind config} {backing : FileBacking config} {error : VmError}
      (uses : kind.backing? = some backing) (withheld : backing.Withheld environment error) :
    CannotLoad environment number kind error
  /-- The initializer got the content of the page and refused. -/
  | initializer {kind : PageKind config} {initializer : Initializer config} {error : VmError}
      {bytes : PageBytes config} (waits : kind.initializer? = some initializer)
      (refused : initializer.run (environment.runsOf initializer.id + 1) number
        (kind.source environment) = (bytes, some error)) :
    CannotLoad environment number kind error

end PageKind

/-! ## The outcomes of a load -/

/-- Reading a file fails because the inode cannot be had or because the device refuses, and the
error says which. -/
theorem EnvironmentAction.readFile_fails (handle : FileHandle) (offset : Word) (length : Nat)
    (environment : Environment config) :
    (readFile handle offset length).Ends environment
      (fun bytes _ => ∃ later, (environment.file handle.file).read
        (environment.nextSwitches handle.file) offset.toNat length = .ok (bytes, later))
      (fun error _ =>
        (∃ code, error = .badFile code ∧
          (environment.nextSwitches handle.file).inode = some code) ∨
        ∃ code, error = .io code ∧ (environment.file handle.file).read
          (environment.nextSwitches handle.file) offset.toNat length = .error code) := by
  have same : (environment.record (.readingFile handle offset length)).file handle.file =
      environment.file handle.file := rfl
  have inForce : (environment.record (.readingFile handle offset length)).fileSwitches handle.file =
      environment.nextSwitches handle.file := rfl
  unfold readFile checkHandle
  simp only [Action.ends_bind, record, Action.ends_change, Action.ends_current, inForce]
  cases inode : (environment.nextSwitches handle.file).inode with
  | some code => exact .inl ⟨code, rfl, rfl⟩
  | none =>
    simp only [Action.ends_pure, same, inForce]
    cases read : (environment.file handle.file).read
        (environment.nextSwitches handle.file) offset.toNat length with
    | error code => exact .inr ⟨code, rfl, rfl⟩
    | ok transfer => exact ⟨transfer.2, rfl⟩

/-- Loading a file page fails only for one of the reasons that `Withheld` lists. -/
theorem FileBacking.load_fails (backing : FileBacking config) (window : FrameWindow config) :
    backing.load.Ends window (fun _ _ => True)
      (fun error _ => backing.Withheld window.environment error) := by
  unfold load
  simp only [Action.ends_bind, FrameAction.changeBytes, Action.ends_change]
  by_cases empty : backing.readBytes = 0
  · rw [if_pos empty, Action.ends_pure]
    exact trivial
  · rw [if_neg empty]
    simp only [Action.ends_bind, FrameAction.onEnvironment, Action.ends_zoom]
    refine (EnvironmentAction.readFile_fails ..).mono ?_ ?_
    · rintro data later ⟨file, read⟩
      simp only [Action.ends_change]
      split
      · exact trivial
      · next incomplete => exact .short empty read incomplete
    · rintro error later (⟨code, rfl, inode⟩ | ⟨code, rfl, read⟩)
      · exact .unreachable empty inode
      · exact .failing empty read

/-- Of the targets only those on files can fail to be loaded. -/
theorem PageTarget.load_fails (target : PageTarget config) (window : FrameWindow config) :
    target.load.Ends window (fun _ _ => True)
      (fun error _ => ∃ backing, target.backing? = some backing ∧
        backing.Withheld window.environment error) := by
  cases target with
  | anonymous => exact trivial
  | file backing =>
    simp only [PageTarget.load, Action.ends_bind]
    exact (backing.load_fails window).mono (fun _ _ _ => trivial) fun _ _ withheld =>
      ⟨backing, rfl, withheld⟩

/-- An initializer fails with its own error. -/
theorem FrameAction.runInitializer_fails (initializer : Initializer config) (number : PageNumber)
    (window : FrameWindow config) :
    (runInitializer initializer number).Ends window (fun _ _ => True)
      (fun error _ => ∃ bytes,
        initializer.run (window.environment.runsOf initializer.id + 1) number window.bytes =
          (bytes, some error)) := by
  have counted : (window.environment.record (.initializing initializer.id number)).runsOf
      initializer.id = window.environment.runsOf initializer.id := rfl
  unfold runInitializer EnvironmentAction.countRun
  simp only [Action.ends_bind, onEnvironment, Action.ends_zoom, EnvironmentAction.record,
    Action.ends_change, Action.ends_view, Action.ends_pure, Action.ends_current, changeBytes, counted]
  cases ran : initializer.run (window.environment.runsOf initializer.id + 1) number
      window.bytes with
  | mk bytes failure =>
    simp only [ran]
    cases failure with
    | some error => exact ⟨bytes, rfl⟩
    | none => exact trivial

namespace PageKind

variable {kind later : PageKind config} {number : PageNumber} {before after : FrameWindow config}

/-- The first content of a page that waits to be loaded is that of its target. -/
theorem source_of_filled {target : PageTarget config} {initializer : Option (Initializer config)}
    {environment : Environment config} {bytes : PageBytes config}
    (filled : target.Filled environment kind bytes) :
    (PageKind.unloaded target initializer).source environment = bytes := by
  cases filled <;> rfl

/-- A page that was loaded has the bytes that are made from its content. -/
theorem Loaded.madeFrom (loaded : kind.Loaded number before later after) :
    kind.MadeFrom before.environment number (kind.source before.environment) after.bytes := by
  cases loaded with
  | fromSlot read =>
    have held := SwapDevice.get?_of_read read
    simp [MadeFrom, initializer?, source, SwapDevice.content?, held]
  | blank | fromFile => rfl
  | first filled applied =>
    cases applied with
    | none => exact (source_of_filled filled).symm
    | some ran =>
      rw [MadeFrom]
      simp only [initializer?, source_of_filled filled]
      exact ran

/-- A load that fails does so for one of the reasons. -/
theorem load_fails (number : PageNumber) (kind : PageKind config) (window : FrameWindow config) :
    (kind.load number).Ends window (fun _ _ => True)
      (fun error _ => kind.CannotLoad window.environment number error) := by
  match kind with
  | .anonymous (some slot) =>
    simp only [PageKind.load, Action.ends_bind, FrameAction.onEnvironment, Action.ends_zoom,
      EnvironmentAction.readSlot, EnvironmentAction.freeSlot, Action.ends_current]
    cases read : window.environment.swap.read window.environment.swapSwitches slot with
    | error code => exact .slot read
    | ok content =>
      have allocated : window.environment.swap.slots.contains slot = true :=
        OrderedMap.contains_eq_true_iff.mpr ⟨_, SwapDevice.get?_of_read read⟩
      simp only [Action.ends_pure, FrameAction.changeBytes, Action.ends_change,
        Action.ends_assert allocated]
  | .anonymous none => exact trivial
  | .file backing =>
    simp only [PageKind.load, Action.ends_bind]
    exact (backing.load_fails window).mono (fun _ _ _ => trivial) fun _ _ => .file rfl
  | .unloaded target initializer =>
    simp only [PageKind.load, Action.ends_bind]
    refine ((target.load_ends window).and (target.load_fails window)).mono ?_ ?_
    · rintro loaded ⟨environment, bytes⟩ ⟨⟨_, runs, filled⟩, -⟩
      cases initializer with
      | none => exact trivial
      | some initializer =>
        have counts : environment.runsOf initializer.id =
            window.environment.runsOf initializer.id := by
          rw [Environment.runsOf, runs, Environment.runsOf]
        simp only [Action.ends_bind, Action.ends_pure]
        refine (FrameAction.runInitializer_fails initializer number _).mono (fun _ _ _ => trivial) ?_
        rintro error later ⟨final, refused⟩
        refine @PageKind.CannotLoad.initializer _ _ _ _ initializer _ final rfl ?_
        rw [source_of_filled filled, ← counts]
        exact refused
    · rintro error later ⟨-, backing, uses, withheld⟩
      exact .file uses withheld

/-- A device never answers with the error of a check. -/
theorem CannotLoad.waits_of_invalidAddress {environment : Environment config}
    (cannotLoad : kind.CannotLoad environment number .invalidAddress) :
    ∃ initializer, kind.initializer? = some initializer := by
  cases cannotLoad with
  | file _ withheld => cases withheld
  | initializer waits => exact ⟨_, waits⟩

end PageKind

/-! ## Loads that succeed and loads that fail -/

namespace Machine

/-- The same pages are registered, whatever has become of them. -/
def SamePages (machine later : Machine config) : Prop :=
  ∀ probe other, (later.page? probe other).isSome = (machine.page? probe other).isSome

variable {machine middle later : Machine config} {key : SpaceKey} {number : PageNumber}
  {page : Page config} {error : VmError}

theorem SamePages.refl (machine : Machine config) : SamePages machine machine := fun _ _ => rfl

/-- Pages of the same shapes are the same pages. -/
theorem SamePages.of_shape? (same : later.shape? = machine.shape?) : SamePages machine later := by
  intro probe other
  rw [← isSome_shape?, ← isSome_shape?, same]

/-- Nothing is registered or forgotten when room is made. -/
theorem shape?_of_acquires {subsystem : Subsystem} {frame : FrameNumber}
    {acquire : Transition config} (acquires : acquire.Acquires subsystem frame)
    (acquired : acquire.Leads machine later) (consistent : machine.Consistent) :
    later.shape? = machine.shape? := by
  refine acquired.shape?_eq consistent ?_
  cases acquires <;> exact trivial

/-- Loading a page registers and forgets none. -/
theorem LoadsPage.samePages (loads : LoadsPage key page machine later)
    (consistent : machine.Consistent) (found : machine.page? key page.number = some page)
    (absent : page.frame = none) : SamePages machine later := by
  obtain ⟨-, acquires, acquired, loaded⟩ := loads
  have foundNow := acquires.page?_eq acquired found absent
  have same := SamePages.of_shape? (shape?_of_acquires acquires acquired consistent)
  intro probe other
  rw [← same, page?_settleLoaded (isSome_of_page? foundNow)]
  by_cases here : probe = key ∧ other = page.number
  · rw [here.1, here.2, amend_self, foundNow]
    rfl
  · rw [amend_of_ne here]

/-- A page that is loaded is mapped to its frame, with its own permissions. -/
theorem LoadsPage.settled (loads : LoadsPage key page machine later)
    (found : machine.page? key page.number = some page) (absent : page.frame = none) :
    ∃ kind frame,
      later.page? key page.number = some { page with kind := kind, frame := some frame } ∧
      later.mapped? key page.number = some ⟨frame, EntryFlags.userPage page.writable⟩ := by
  obtain @⟨_, frame, _, kind, _, -, acquires, acquired, loaded⟩ := loads
  have spaceExists := isSome_of_page? (acquires.page?_eq acquired found absent)
  refine ⟨kind, frame, ?_, ?_⟩
  · rw [page?_settleLoaded spaceExists, amend_self]
  · rw [mapped?_settleLoaded spaceExists, amend_self]

/-- Giving a load up leaves every page as it was. -/
@[simp] theorem page?_giveUp {frame : FrameNumber} {window : FrameWindow config} :
    (machine.giveUp key number frame error window).page? = machine.page? := by
  rw [giveUp, page?_release]
  rfl

/-- A load that fails leaves all pages what they are. -/
theorem FailsToLoad.shape?_eq (fails : FailsToLoad key page error machine later)
    (consistent : machine.Consistent) : later.shape? = machine.shape? := by
  obtain ⟨-, acquires, acquired, -⟩ := fails
  exact (shape?_congr page?_giveUp).trans (shape?_of_acquires acquires acquired consistent)

/-- A load that fails has a reason. -/
theorem FailsToLoad.cannotLoad (fails : FailsToLoad key page error machine later) :
    ∃ environment, page.kind.CannotLoad environment page.number error := by
  obtain ⟨-, -, -, failed⟩ := fails
  exact ⟨_, (PageKind.load_fails _ _ _).of_failed failed⟩

end Machine

end DemandPaging
