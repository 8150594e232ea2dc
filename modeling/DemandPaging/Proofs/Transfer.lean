import DemandPaging.Page.Transfer
import DemandPaging.Proofs.Ending

/-!
# What loading, storing and discarding do

The three transfers between a frame and the devices, each described by the states it can lead to.
`PageKind.Loaded` says where the bytes of a loaded page come from, `PageKind.Stored` where the bytes
of a page go that loses its frame, and the `_ends` theorems say that nothing else can happen.
-/

namespace DemandPaging

/-- A file apart from the counts of its transfers. -/
def File.uncounted (file : File) : File := { file with reads := 0, writes := 0 }

/-- What is agreed about a file: its failures, and the handles that were opened of it. -/
def File.terms (file : File) : File := { file with data := #[], reads := 0, writes := 0 }

/-- A file apart from the count of its openings. -/
def File.unopened (file : File) : File := { file with reopens := 0 }

namespace Environment

variable {config : Config}

/-- Nothing that a later transfer depends on differs, but for the moment at which it is made: the swap
device is the same, and so are the files but for the counts of their transfers. -/
structure SameStores (before after : Environment config) : Prop where
  swap : after.swap = before.swap
  files : ∀ id, (after.files.get? id).map File.uncounted =
    (before.files.get? id).map File.uncounted

/-- The failures that a file is subject to when something is asked for next. -/
def nextSwitches (environment : Environment config) (id : FileId) : FileSwitches :=
  (environment.file id).faults.inForce (environment.moment + 1)

/-- Only a request begins a new moment. -/
theorem moment_record {event : Event} (unasked : event.isRequest = false)
    (environment : Environment config) : (environment.record event).moment = environment.moment := by
  simp [record, unasked]

/-- Only a request to a device takes the time at which swap operations fail any further. -/
theorem swapSwitches_record {event : Event} (unasked : event.isRequest = false)
    (environment : Environment config) :
    (environment.record event).swapSwitches = environment.swapSwitches :=
  congrArg environment.swap.faults.inForce (environment.moment_record unasked)

/-- Only a request to a device takes the time at which file operations fail any further. -/
theorem nextSwitches_record {event : Event} (unasked : event.isRequest = false)
    (environment : Environment config) (id : FileId) :
    (environment.record event).nextSwitches id = environment.nextSwitches id :=
  congrArg (fun moment => (environment.file id).faults.inForce (moment + 1))
    (environment.moment_record unasked)

theorem SameStores.refl (environment : Environment config) : environment.SameStores environment :=
  ⟨rfl, fun _ => rfl⟩

theorem SameStores.trans {first second third : Environment config}
    (earlier : first.SameStores second) (later : second.SameStores third) :
    first.SameStores third :=
  ⟨later.swap.trans earlier.swap, fun id => (later.files id).trans (earlier.files id)⟩

/-- Environments with the same stores differ in a file by the counts of its transfers at most. -/
theorem SameStores.file {before after : Environment config} (same : before.SameStores after)
    (id : FileId) : (after.file id).uncounted = (before.file id).uncounted := by
  have agree := same.files id
  unfold Environment.file
  cases left : after.files.get? id <;> cases right : before.files.get? id <;>
    simp_all

/-- Environments with the same stores agree on the data of every file. -/
theorem SameStores.data {before after : Environment config} (same : before.SameStores after)
    (id : FileId) : (after.file id).data = (before.file id).data := by
  have agree := congrArg File.data (same.file id)
  exact agree

/-- The files are there on the same terms, whatever data they hold. -/
def SameTerms (before after : Environment config) : Prop :=
  ∀ id, (after.files.get? id).map File.terms = (before.files.get? id).map File.terms

theorem SameTerms.trans {first second third : Environment config}
    (earlier : first.SameTerms second) (later : second.SameTerms third) : first.SameTerms third :=
  fun id => (later id).trans (earlier id)

/-- On the same terms a file has the same failures and the same handles. -/
theorem SameTerms.file {before after : Environment config} (same : before.SameTerms after)
    (id : FileId) : (after.file id).terms = (before.file id).terms := by
  have agree := same id
  unfold Environment.file
  cases left : after.files.get? id <;> cases right : before.files.get? id <;>
    simp_all

/-- The same stores are there on the same terms. -/
theorem SameStores.sameTerms {before after : Environment config} (same : before.SameStores after) :
    before.SameTerms after := by
  intro id
  have agree := congrArg (Option.map File.terms) (same.files id)
  rwa [Option.map_map, Option.map_map] at agree

/-- A replaced file that is alike in one respect does not show in it. -/
theorem map_setFile {View : Type} {view : File → View} {id : FileId} {contents : File}
    (environment : Environment config) (same : view contents = view (environment.file id))
    (probe : FileId) :
    ((environment.setFile id contents).files.get? probe).map view =
      (environment.files.get? probe).map view := by
  unfold setFile
  rw [OrderedMap.get?_modify_eq]
  split
  · next here =>
    subst here
    unfold Environment.file at same
    cases present : environment.files.get? probe with
    | none => rfl
    | some file =>
      rw [present] at same
      exact congrArg some same
  · rfl

/-- Nothing differs but the data of one file, the counts of its transfers, and the history. -/
structure SameBut (id : FileId) (before after : Environment config) : Prop where
  swap : after.swap = before.swap
  runs : after.runs = before.runs
  terms : before.SameTerms after
  others : ∀ probe, probe ≠ id → after.files.get? probe = before.files.get? probe

/-- Nothing differs but the counts of the files' openings, and the history. -/
structure SameButOpenings (before after : Environment config) : Prop where
  swap : after.swap = before.swap
  runs : after.runs = before.runs
  files : ∀ id, (after.files.get? id).map File.unopened =
    (before.files.get? id).map File.unopened

/-- Apart from openings, a file is the same. -/
theorem SameButOpenings.file {before after : Environment config}
    (same : before.SameButOpenings after) (id : FileId) :
    (after.file id).unopened = (before.file id).unopened := by
  have agree := same.files id
  unfold Environment.file
  cases left : after.files.get? id <;> cases right : before.files.get? id <;>
    simp_all

/-- An event belongs to the history, which may differ. -/
theorem sameBut_record (environment : Environment config) (id : FileId) (event : Event) :
    environment.SameBut id (environment.record event) :=
  ⟨rfl, rfl, fun _ => rfl, fun _ _ => rfl⟩

/-- Other data in a file, on the same terms. -/
theorem sameBut_setFile {environment : Environment config} {id : FileId} {contents : File}
    (same : contents.terms = (environment.file id).terms) :
    environment.SameBut id (environment.setFile id contents) where
  swap := rfl
  runs := rfl
  terms := environment.map_setFile same
  others probe elsewhere := by
    unfold setFile
    rw [OrderedMap.get?_modify_eq, if_neg elsewhere]

/-- Changes to the data of one file may follow each other. -/
theorem SameBut.trans {first second third : Environment config} {id : FileId}
    (earlier : first.SameBut id second) (later : second.SameBut id third) :
    first.SameBut id third where
  swap := later.swap.trans earlier.swap
  runs := later.runs.trans earlier.runs
  terms := earlier.terms.trans later.terms
  others probe elsewhere := (later.others probe elsewhere).trans (earlier.others probe elsewhere)

/-- An event changes nothing that a later transfer depends on, but for the moment. -/
theorem sameStores_record (environment : Environment config) (event : Event) :
    environment.SameStores (environment.record event) :=
  ⟨rfl, fun _ => rfl⟩

/-- A file after one was replaced; a file that does not exist cannot be replaced. -/
theorem file_setFile (environment : Environment config) (id probe : FileId) (contents : File) :
    (environment.setFile id contents).file probe =
      if probe = id ∧ (environment.files.get? id).isSome then contents
      else environment.file probe := by
  unfold file setFile
  rw [OrderedMap.get?_modify_eq]
  by_cases same : probe = id
  · subst same
    cases environment.files.get? probe <;> simp
  · simp [same]

/-- A file whose counts change is the same store. -/
theorem sameStores_setFile {environment : Environment config} {id : FileId} {contents : File}
    (same : contents.uncounted = (environment.file id).uncounted) :
    environment.SameStores (environment.setFile id contents) where
  swap := rfl
  files := environment.map_setFile same

end Environment

/-! ## Files -/

namespace FileBacking

variable {config : Config} (backing : FileBacking config)

/-- Whether a file reaches to the end of the part that a page is loaded from. -/
def IsCovered (data : Bytes) : Prop :=
  backing.readBytes = 0 ∨ backing.offset.toNat + backing.readBytes ≤ data.size

/-- The page as it is loaded from the contents of its file. -/
def image (data : Bytes) : PageBytes config :=
  Vector.ofFn fun index =>
    if index < backing.readBytes then data.getD (backing.offset.toNat + index) 0 else 0

/-- A page takes no more bytes from its file than it has. -/
theorem readBytes_le : backing.readBytes ≤ config.pageSize := by
  have covers := backing.coversPage
  omega

/-- A page that was loaded from a file has the bytes of the file first and zeros after them. -/
theorem getElem_image (data : Bytes) {index : Nat} (inside : index < config.pageSize) :
    (backing.image data)[index] =
      if index < backing.readBytes then data.getD (backing.offset.toNat + index) 0 else 0 := by
  simp [image]

/-- Laying the bytes that were read over a page whose tail is clear gives the image of the file. -/
theorem overwrite_clearFrom (bytes : PageBytes config) (data : Bytes) (limit : Option Nat)
    (complete : (data.slice backing.offset.toNat (File.atMost limit backing.readBytes)).size =
      backing.readBytes) :
    (bytes.clearFrom backing.readBytes).overwrite 0
      (data.slice backing.offset.toNat (File.atMost limit backing.readBytes)) =
        backing.image data := by
  refine Vector.ext fun index inside => ?_
  rw [PageBytes.getElem_overwrite _ _ _ inside, PageBytes.getElem_clearFrom _ _ inside,
    getElem_image _ _ inside]
  by_cases covered : index < backing.readBytes
  · have within : index < (data.slice backing.offset.toNat
        (File.atMost limit backing.readBytes)).size := by omega
    have below : backing.offset.toNat + index < data.size := by
      simp only [Bytes.slice, Array.size_extract] at within
      omega
    rw [if_pos covered, Bytes.overlay, if_pos (Nat.zero_le _), Nat.sub_zero,
      Array.getD_eq_getD_getElem?, Array.getD_eq_getD_getElem?, Array.getElem?_eq_getElem within,
      Array.getElem?_eq_getElem below]
    simp [Bytes.slice, covered]
  · have beyond : ¬ index < (data.slice backing.offset.toNat
        (File.atMost limit backing.readBytes)).size := by omega
    rw [if_neg covered, if_neg covered, Bytes.overlay, if_pos (Nat.zero_le _), Nat.sub_zero,
      Array.getD_eq_getD_getElem?, Array.getElem?_eq_none (Nat.le_of_not_lt beyond),
      Option.getD_none]

/-- A complete read shows that the file reaches as far as the page needs it. -/
theorem isCovered_of_read (data : Bytes) (limit : Option Nat)
    (complete : (data.slice backing.offset.toNat (File.atMost limit backing.readBytes)).size =
      backing.readBytes) : backing.IsCovered data := by
  unfold IsCovered
  simp only [Bytes.slice, Array.size_extract] at complete
  omega

end FileBacking

/-- Reading a file yields some of its bytes and counts the read. -/
theorem File.read_eq_ok {file later : File} {switches : FileSwitches} {offset length : Nat}
    {bytes : Bytes} (read : file.read switches offset length = .ok (bytes, later)) :
    bytes = file.data.slice offset (File.atMost switches.readLimit length) ∧
      later.uncounted = file.uncounted := by
  unfold File.read at read
  split at read
  · split at read <;> cases read
    exact ⟨rfl, rfl⟩
  · cases read
    exact ⟨rfl, rfl⟩

namespace EnvironmentAction

variable {config : Config}

/-- However it ends, reading a file changes no stored data, and what it returns is a prefix of what
was asked for. -/
theorem readFile_ends (handle : FileHandle) (offset : Word) (length : Nat)
    (environment : Environment config) :
    (readFile handle offset length).Ends environment
      (fun bytes later => environment.SameStores later ∧ later.runs = environment.runs ∧
        ∃ limit, bytes = (environment.file handle.file).data.slice offset.toNat
          (File.atMost limit length))
      (fun _ later => environment.SameStores later ∧ later.runs = environment.runs) := by
  have recorded := environment.sameStores_record (.readingFile handle offset length)
  unfold readFile checkHandle
  simp only [Action.ends_bind, record, Action.ends_change, Action.ends_current]
  cases ((environment.record (.readingFile handle offset length)).fileSwitches
      handle.file).inode with
  | some code => exact ⟨recorded, rfl⟩
  | none =>
    simp only [Action.ends_pure]
    cases read : ((environment.record (.readingFile handle offset length)).file
        handle.file).read ((environment.record (.readingFile handle offset length)).fileSwitches
          handle.file) offset.toNat length with
    | error code => exact ⟨recorded, rfl⟩
    | ok transfer =>
      obtain ⟨bytes, later⟩ := transfer
      obtain ⟨rfl, same⟩ := File.read_eq_ok read
      exact ⟨recorded.trans (Environment.sameStores_setFile same), rfl, _, rfl⟩

end EnvironmentAction

namespace FileBacking

variable {config : Config}

/-- A file page that could be loaded is the image of its file, and the file reached that far. -/
theorem load_ends (backing : FileBacking config) (window : FrameWindow config) :
    backing.load.Ends window
      (fun _ later => window.environment.SameStores later.environment ∧
        later.environment.runs = window.environment.runs ∧
        backing.IsCovered (window.environment.file backing.handle.file).data ∧
        later.bytes = backing.image (window.environment.file backing.handle.file).data)
      (fun _ later => window.environment.SameStores later.environment ∧
        later.environment.runs = window.environment.runs) := by
  unfold load
  simp only [Action.ends_bind, FrameAction.changeBytes, Action.ends_change]
  by_cases empty : backing.readBytes = 0
  · rw [if_pos empty, Action.ends_pure]
    refine ⟨.refl _, rfl, .inl empty, Vector.ext fun index inside => ?_⟩
    rw [PageBytes.getElem_clearFrom _ _ inside, getElem_image _ _ inside, empty]
    simp
  · rw [if_neg empty]
    simp only [Action.ends_bind, FrameAction.onEnvironment, Action.ends_zoom]
    refine (EnvironmentAction.readFile_ends ..).mono ?_ (fun _ _ same => same)
    rintro data later ⟨same, runs, limit, rfl⟩
    simp only [Action.ends_change]
    split
    · next complete =>
      exact ⟨same, runs, backing.isCovered_of_read _ _ complete,
        backing.overwrite_clearFrom _ _ _ complete⟩
    · exact ⟨same.trans (Environment.sameStores_record ..), runs⟩

end FileBacking

/-! ## Loading -/

/-- What a page becomes at its first load, and with which bytes, before any initializer. -/
inductive PageTarget.Filled {config : Config} (environment : Environment config) :
    PageTarget config → PageKind config → PageBytes config → Prop where
  | anonymous : Filled environment .anonymous (.anonymous none) PageBytes.zero
  | file {backing : FileBacking config}
      (covered : backing.IsCovered (environment.file backing.handle.file).data) :
    Filled environment (.file backing) (.file backing)
      (backing.image (environment.file backing.handle.file).data)

/-- What the initializer of a page, if it has one, makes of its bytes. -/
inductive Initializer.Applied {config : Config} (environment : Environment config)
    (number : PageNumber) (bytes : PageBytes config) :
    Option (Initializer config) → PageBytes config → Prop where
  | none : Applied environment number bytes none bytes
  | some {initializer : Initializer config} {later : PageBytes config}
      (ran : initializer.run (environment.runsOf initializer.id + 1) number bytes =
        (later, none)) : Applied environment number bytes (some initializer) later

/-- The counts of runs once an initializer, if there is one, has been run once more. -/
def Environment.runsAfter {config : Config} (environment : Environment config)
    (initializer : Option (Initializer config)) : OrderedMap InitializerId Nat :=
  match initializer with
  | none => environment.runs
  | some initializer =>
    environment.runs.modify initializer.id fun _ => environment.runsOf initializer.id + 1

/-- What a page becomes when it is loaded, and the frame and the environment after that. -/
inductive PageKind.Loaded {config : Config} (number : PageNumber) (window : FrameWindow config) :
    PageKind config → PageKind config → FrameWindow config → Prop where
  | fromSlot {slot : SwapSlot} {content : PageBytes config}
      (read : window.environment.swap.read window.environment.swapSwitches slot = .ok content) :
    Loaded number window (.anonymous (some slot)) (.anonymous none)
      { environment :=
          { window.environment with swap := window.environment.swap.release slot }
        bytes := content }
  | blank :
    Loaded number window (.anonymous none) (.anonymous none)
      { window with bytes := PageBytes.zero }
  | fromFile {backing : FileBacking config} {environment : Environment config}
      (covered : backing.IsCovered (window.environment.file backing.handle.file).data)
      (same : window.environment.SameStores environment)
      (runs : environment.runs = window.environment.runs) :
    Loaded number window (.file backing) (.file backing)
      { environment
        bytes := backing.image (window.environment.file backing.handle.file).data }
  | first {target : PageTarget config} {initializer : Option (Initializer config)}
      {kind : PageKind config} {bytes later : PageBytes config} {environment : Environment config}
      (filled : target.Filled window.environment kind bytes)
      (applied : Initializer.Applied window.environment number bytes initializer later)
      (same : window.environment.SameStores environment)
      (runs : environment.runs = window.environment.runsAfter initializer) :
    Loaded number window (.unloaded target initializer) kind { environment, bytes := later }

/-- A target that could be loaded fills the frame with its zeros or with its file. -/
theorem PageTarget.load_ends {config : Config} (target : PageTarget config)
    (window : FrameWindow config) :
    target.load.Ends window
      (fun kind later => window.environment.SameStores later.environment ∧
        later.environment.runs = window.environment.runs ∧
        target.Filled window.environment kind later.bytes)
      (fun _ later => window.environment.SameStores later.environment ∧
        later.environment.runs = window.environment.runs) := by
  cases target with
  | anonymous =>
    simp only [PageTarget.load, Action.ends_bind, FrameAction.changeBytes, Action.ends_change,
      Action.ends_pure]
    exact ⟨.refl _, trivial, .anonymous⟩
  | file backing =>
    simp only [PageTarget.load, Action.ends_bind]
    refine (backing.load_ends window).mono ?_ (fun _ _ same => same)
    rintro _ later ⟨same, runs, covered, filled⟩
    rw [Action.ends_pure, filled]
    exact ⟨same, runs, .file covered⟩

/-- An initializer is counted whether it succeeds or not, and fills the frame if it succeeds. -/
theorem FrameAction.runInitializer_ends {config : Config} (initializer : Initializer config)
    (number : PageNumber) (window : FrameWindow config) :
    (runInitializer initializer number).Ends window
      (fun _ later => window.environment.SameStores later.environment ∧
        later.environment.runs = window.environment.runsAfter (some initializer) ∧
        Initializer.Applied window.environment number window.bytes (some initializer) later.bytes)
      (fun _ later => window.environment.SameStores later.environment ∧
        later.environment.runs = window.environment.runsAfter (some initializer)) := by
  unfold runInitializer EnvironmentAction.countRun
  simp only [Action.ends_bind, onEnvironment, Action.ends_zoom, EnvironmentAction.record,
    Action.ends_change, Action.ends_view, Action.ends_pure, Action.ends_current, changeBytes]
  cases ran : initializer.run (window.environment.runsOf initializer.id + 1) number
      window.bytes with
  | mk bytes failure =>
    have counted : (window.environment.record (.initializing initializer.id number)).runsOf
        initializer.id = window.environment.runsOf initializer.id := rfl
    simp only [counted, ran]
    cases failure with
    | some error => exact ⟨⟨rfl, fun _ => rfl⟩, rfl⟩
    | none => exact ⟨⟨rfl, fun _ => rfl⟩, rfl, .some ran⟩

/-- A load that is done follows `Loaded`; one that fails leaves the devices as they were. Loading
never stops the kernel. -/
theorem PageKind.load_ends {config : Config} (number : PageNumber) (kind : PageKind config)
    (window : FrameWindow config) :
    (kind.load number).Ends window
      (fun later after => kind.Loaded number window later after)
      (fun _ after => window.environment.SameStores after.environment ∧
        ∃ initializer, after.environment.runs = window.environment.runsAfter initializer) := by
  match kind with
  | .anonymous (some slot) =>
    simp only [PageKind.load, Action.ends_bind, FrameAction.onEnvironment, Action.ends_zoom,
      EnvironmentAction.readSlot, EnvironmentAction.freeSlot, Action.ends_current]
    cases read : window.environment.swap.read window.environment.swapSwitches slot with
    | error code => exact ⟨.refl _, none, rfl⟩
    | ok content =>
      have allocated : window.environment.swap.slots.contains slot = true := by
        unfold SwapDevice.read SwapDevice.content? at read
        rw [OrderedMap.contains_eq_true_iff]
        split at read
        · cases read
        · cases present : window.environment.swap.slots.get? slot with
          | none => simp [present] at read
          | some stored => exact ⟨stored, rfl⟩
      simp only [Action.ends_pure, FrameAction.changeBytes, Action.ends_change,
        Action.ends_assert allocated]
      exact .fromSlot read
  | .anonymous none =>
    simp only [PageKind.load, Action.ends_bind, FrameAction.changeBytes, Action.ends_change,
      Action.ends_pure]
    exact .blank
  | .file backing =>
    simp only [PageKind.load, Action.ends_bind]
    refine (backing.load_ends window).mono ?_ (fun _ _ same => ⟨same.1, none, same.2⟩)
    rintro _ ⟨environment, bytes⟩ ⟨same, runs, covered, rfl⟩
    exact .fromFile covered same runs
  | .unloaded target initializer =>
    simp only [PageKind.load, Action.ends_bind]
    refine (target.load_ends window).mono ?_ (fun _ _ same => ⟨same.1, none, same.2⟩)
    rintro loaded ⟨environment, bytes⟩ ⟨same, runs, filled⟩
    cases initializer with
    | none => exact .first filled .none same runs
    | some initializer =>
      have counts : environment.runsOf initializer.id =
          window.environment.runsOf initializer.id := by
        rw [Environment.runsOf, Environment.runsOf]
        exact congrArg (fun map => (OrderedMap.get? map initializer.id).getD 0) runs
      have sameRuns : environment.runsAfter (some initializer) =
          window.environment.runsAfter (some initializer) := by
        simp only [Environment.runsAfter, counts]
        rw [runs]
      simp only [Action.ends_bind, Action.ends_pure]
      refine (FrameAction.runInitializer_ends initializer number _).mono ?_
        (fun _ _ later => ⟨same.trans later.1, some initializer, later.2.trans sameRuns⟩)
      rintro _ ⟨after, final⟩ ⟨later, counted, applied⟩
      refine .first filled ?_ (same.trans later) (counted.trans sameRuns)
      cases applied with
      | some ran => exact .some (counts ▸ ran)

/-! ## Storing -/

/-- A write changes neither the failures of a file nor its handles. -/
theorem File.terms_of_write {file later : File} {switches : FileSwitches} {offset count : Nat}
    {bytes : Bytes} (written : file.write switches offset bytes = .ok (count, later)) :
    later.terms = file.terms := by
  unfold File.write at written
  split at written
  · split at written <;> cases written
    rfl
  · cases written
    rfl

/-- A write that took all its bytes has stored them all. -/
theorem File.write_eq_ok {file later : File} {switches : FileSwitches} {offset count : Nat}
    {bytes : Bytes} (written : file.write switches offset bytes = .ok (count, later))
    (complete : count = bytes.size) : later = file.store offset bytes := by
  have whole : ∀ limit, (bytes.slice 0 (File.atMost limit bytes.size)).size = bytes.size →
      bytes.slice 0 (File.atMost limit bytes.size) = bytes := by
    intro limit size
    refine Array.ext size fun index inside _ => ?_
    simp [Bytes.slice]
  unfold File.write at written
  split at written
  · split at written <;> cases written
    rw [whole _ complete]
  · cases written
    rw [whole _ complete]

/-- The kinds of page that can hold a frame: an anonymous page gives its slot back when it is
loaded, and a page that was never loaded has no frame. -/
def PageKind.IsLoaded {config : Config} : PageKind config → Prop
  | .unloaded _ _ => False
  | .anonymous slot => slot = none
  | .file _ => True

@[simp] theorem PageKind.not_isLoaded_unloaded {config : Config} {target : PageTarget config}
    {initializer : Option (Initializer config)} : ¬ (PageKind.unloaded target initializer).IsLoaded := nofun

/-- Loading makes a page one that can hold a frame. -/
theorem PageKind.Loaded.isLoaded {config : Config} {number : PageNumber}
    {window after : FrameWindow config} {kind later : PageKind config}
    (loaded : kind.Loaded number window later after) : later.IsLoaded := by
  cases loaded with
  | fromSlot => exact rfl
  | blank => exact rfl
  | fromFile => exact trivial
  | first filled =>
    cases filled with
    | anonymous => exact rfl
    | file => exact trivial

namespace FileBacking

variable {config : Config}

/-- The bytes of a page that go back to its file. -/
def portion (backing : FileBacking config) (bytes : PageBytes config) : Bytes :=
  bytes.slice 0 backing.readBytes

@[simp] theorem size_portion (backing : FileBacking config) (bytes : PageBytes config) :
    (backing.portion bytes).size = backing.readBytes := by
  have fits := backing.readBytes_le
  simp [portion, PageBytes.slice, Bytes.slice]
  omega

/-- The environment after the bytes of a page went back to its file. -/
def writtenBack (backing : FileBacking config) (bytes : PageBytes config)
    (environment : Environment config) : Environment config :=
  (environment.record (.writingBack backing.handle backing.offset
    (backing.portion bytes))).setFile backing.handle.file
      ((environment.file backing.handle.file).store backing.offset.toNat (backing.portion bytes))

/-- A write-back that succeeded has stored the page's part of the file; one that failed has touched
no other file. -/
theorem writeBack_ends (backing : FileBacking config) (bytes : PageBytes config)
    (environment : Environment config) :
    (backing.writeBack bytes).Ends environment
      (fun _ later => later =
        if backing.readBytes = 0 then environment else backing.writtenBack bytes environment)
      (fun _ later => environment.SameBut backing.handle.file later) := by
  have recorded := environment.sameBut_record backing.handle.file
    (.writingBack backing.handle backing.offset (bytes.slice 0 backing.readBytes))
  unfold writeBack
  by_cases empty : backing.readBytes = 0
  · rw [if_pos empty, if_pos empty]
    rfl
  · rw [if_neg empty, if_neg empty]
    simp only [Action.ends_bind, EnvironmentAction.writeFile, EnvironmentAction.record,
      EnvironmentAction.checkHandle, Action.ends_change, Action.ends_current]
    cases ((environment.record (.writingBack backing.handle backing.offset
        (bytes.slice 0 backing.readBytes))).fileSwitches backing.handle.file).inode with
    | some code => exact recorded
    | none =>
      simp only [Action.ends_pure]
      cases written : ((environment.record (.writingBack backing.handle backing.offset
          (bytes.slice 0 backing.readBytes))).file backing.handle.file).write
            ((environment.record (.writingBack backing.handle backing.offset
              (bytes.slice 0 backing.readBytes))).fileSwitches backing.handle.file)
            backing.offset.toNat (bytes.slice 0 backing.readBytes) with
      | error code => exact recorded
      | ok transfer =>
        obtain ⟨count, later⟩ := transfer
        have whole := File.write_eq_ok written
        have stored := recorded.trans (Environment.sameBut_setFile (File.terms_of_write written))
        simp only [Action.ends_bind, Action.ends_change, Action.ends_pure]
        split
        · next complete =>
          rw [whole (complete.trans (backing.size_portion bytes).symm)]
          rfl
        · exact stored.trans (Environment.sameBut_record ..)

end FileBacking

/-- Data that was written back is in its file. -/
theorem FileBacking.sameBut_writtenBack {config : Config} (backing : FileBacking config)
    (bytes : PageBytes config) (environment : Environment config) :
    environment.SameBut backing.handle.file (backing.writtenBack bytes environment) :=
  (environment.sameBut_record _ _).trans (Environment.sameBut_setFile rfl)

/-- What becomes of a page that loses its frame, and of the environment. -/
inductive PageKind.Stored {config : Config} (bytes : PageBytes config) (dirty : Bool)
    (environment : Environment config) :
    PageKind config → PageKind config → Environment config → Prop where
  | blank (isBlank : bytes = PageBytes.zero) :
    Stored bytes dirty environment (.anonymous none) (.anonymous none) environment
  | toSlot {slot : SwapSlot} (used : bytes ≠ PageBytes.zero)
      (fresh : environment.swap.lowestFree = some slot) :
    Stored bytes dirty environment (.anonymous none) (.anonymous (some slot))
      { environment with
        swap :=
          { environment.swap.allocate slot with
            slots := (environment.swap.allocate slot).slots.insert slot (some bytes)
            writes := environment.swap.writes + 1 } }
  | clean {backing : FileBacking config} (isClean : dirty = false) :
    Stored bytes dirty environment (.file backing) (.file backing) environment
  | toFile {backing : FileBacking config} (isDirty : dirty = true) :
    Stored bytes dirty environment (.file backing) (.file backing)
      (if backing.readBytes = 0 then environment else backing.writtenBack bytes environment)

/-- A slot that is handed out was free. -/
theorem SwapDevice.get?_of_lowestFree {config : Config} {device : SwapDevice config}
    {slot : SwapSlot} (lowest : device.lowestFree = some slot) :
    device.slots.get? slot = none := by
  have free := List.find?_some lowest
  simpa [OrderedMap.contains] using free

/-- A page that can hold a frame is saved, or room cannot be made; it is never refused. -/
theorem PageKind.store_ends {config : Config} {kind : PageKind config} (isLoaded : kind.IsLoaded)
    (number : PageNumber) (bytes : PageBytes config) (dirty : Bool)
    (environment : Environment config) :
    (kind.store number bytes dirty).Ends environment
      (fun later after => kind.Stored bytes dirty environment later after) (fun _ _ => False) := by
  match kind with
  | .unloaded _ _ => exact isLoaded.elim
  | .anonymous (some slot) => cases isLoaded
  | .anonymous none =>
    simp only [PageKind.store, Action.ends_bind, Option.isNone_none, Action.ends_assert]
    by_cases blank : bytes.isZero = true
    · rw [if_pos blank]
      exact .blank (PageBytes.isZero_iff.mp blank)
    · rw [if_neg blank]
      have used : bytes ≠ PageBytes.zero := fun zero => blank (PageBytes.isZero_iff.mpr zero)
      simp only [Action.ends_bind, EnvironmentAction.swapOut, Action.ends_current]
      cases lowest : environment.swap.lowestFree with
      | none => exact .swapFull
      | some slot =>
        have allocated : (environment.swap.allocate slot).slots.contains slot = true := by
          rw [OrderedMap.contains_eq_true_iff]
          exact ⟨none, OrderedMap.get?_insert_self ..⟩
        simp only [Action.ends_bind, Action.ends_change, Action.ends_current, SwapDevice.write,
          allocated, if_true]
        cases working : (Environment.swapSwitches
            { environment with swap := environment.swap.allocate slot }).write with
        | some code => exact .swapWriteFailed slot code
        | none =>
          simp only [Action.ends_bind, Action.ends_change, Action.ends_pure]
          exact .toSlot used lowest
  | .file backing =>
    simp only [PageKind.store]
    cases dirty with
    | false => exact .clean rfl
    | true =>
      simp only [if_true, Action.ends_bind, Action.ends_attempt]
      refine (backing.writeBack_ends bytes environment).mono ?_ (fun error _ _ => ?_)
      · rintro _ _ rfl
        exact .toFile rfl
      · exact Panic.IsExhaustion.writeBackFailed number error

/-! ## Discarding -/

/-- What discarding a resident page does to the environment. -/
inductive PageKind.Ended {config : Config} (bytes : PageBytes config) (dirty : Bool)
    (environment : Environment config) : PageKind config → Environment config → Prop where
  | anonymous : Ended bytes dirty environment (.anonymous none) environment
  | clean {backing : FileBacking config} (isClean : dirty = false) :
    Ended bytes dirty environment (.file backing) environment
  | toFile {backing : FileBacking config} (isDirty : dirty = true) :
    Ended bytes dirty environment (.file backing)
      (if backing.readBytes = 0 then environment else backing.writtenBack bytes environment)

/-- Discarding a resident page writes it back if it has to, and touches no swap slot even when that
fails. -/
theorem PageKind.discard_resident_ends {config : Config} {kind : PageKind config}
    (isLoaded : kind.IsLoaded) (bytes : PageBytes config) (dirty : Bool)
    (environment : Environment config) :
    (kind.discard (some (bytes, dirty))).Ends environment
      (fun _ later => kind.Ended bytes dirty environment later)
      (fun _ later => ∃ backing, kind = .file backing ∧
        environment.SameBut backing.handle.file later) := by
  match kind with
  | .unloaded _ _ => exact isLoaded.elim
  | .anonymous (some slot) => cases isLoaded
  | .anonymous none => exact .anonymous
  | .file backing =>
    cases dirty with
    | false => exact .clean rfl
    | true =>
      refine (backing.writeBack_ends bytes environment).mono ?_ (fun _ _ same => ⟨_, rfl, same⟩)
      rintro _ _ rfl
      exact .toFile rfl

/-- However ending a resident page goes, nothing differs afterwards but the data of its file. -/
theorem PageKind.sameBut_of_discard_resident {config : Config} {kind : PageKind config}
    (isLoaded : kind.IsLoaded) {bytes : PageBytes config} {dirty : Bool}
    {environment later : Environment config} {result : Except VmError Unit}
    (ended : (kind.discard (some (bytes, dirty))).attempt environment = .done result later) :
    later = environment ∨
      ∃ backing, kind = .file backing ∧ environment.SameBut backing.handle.file later := by
  have attempted : (kind.discard (some (bytes, dirty))).attempt.Ends environment
      (fun _ later => later = environment ∨
        ∃ backing, kind = .file backing ∧ environment.SameBut backing.handle.file later)
      (fun _ _ => False) := by
    rw [Action.ends_attempt]
    refine (discard_resident_ends isLoaded bytes dirty environment).mono ?_ (fun _ _ => .inr)
    intro _ later ended
    cases ended with
    | anonymous => exact .inl rfl
    | clean => exact .inl rfl
    | @toFile backing =>
      split
      · exact .inl rfl
      · exact .inr ⟨backing, rfl, backing.sameBut_writtenBack bytes environment⟩
  exact attempted.of_done ended

/-- Discarding a page that is not resident returns its slot, if it has one. -/
theorem PageKind.discard_absent_ends {config : Config} (kind : PageKind config)
    (environment : Environment config)
    (allocated : ∀ slot, kind.slot? = some slot →
      environment.swap.slots.contains slot = true) :
    (kind.discard none).Ends environment
      (fun _ later => later =
        match kind.slot? with
        | some slot => { environment with swap := environment.swap.release slot }
        | none => environment)
      (fun _ _ => False) := by
  match kind with
  | .unloaded _ _ => exact rfl
  | .anonymous none => exact rfl
  | .file _ => exact rfl
  | .anonymous (some slot) =>
    simp only [PageKind.discard, EnvironmentAction.freeSlot, Action.ends_bind,
      Action.ends_current, Action.ends_assert (allocated slot rfl), Action.ends_change]
    rfl

end DemandPaging
