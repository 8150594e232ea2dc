import DemandPaging.Proofs.Flat.Memory
import DemandPaging.Proofs.Locality

/-!
# Files that work

Transfers to and from a file whose failures do no harm succeed, as long as the file reaches to the end
of the part that is transferred. What goes back to a file replaces just that part.
-/

namespace DemandPaging

variable {config : Config}

/-- The failures of a file that make no transfer fail. Only opening it may fail. -/
def FileSwitches.AreHarmless (switches : FileSwitches) : Prop :=
  switches.read = none ∧ switches.write = none ∧ switches.inode = none ∧ switches.readLimit = none ∧
    switches.writeLimit = none

instance (switches : FileSwitches) : Decidable switches.AreHarmless :=
  inferInstanceAs (Decidable (_ ∧ _))

/-- The failures of a file that make no transfer fail at any moment. -/
def FileFaults.AreHarmless (faults : FileFaults) : Prop :=
  faults.toFileSwitches.AreHarmless ∧ ∀ lapse ∈ faults.lapses, lapse.2.AreHarmless

instance (faults : FileFaults) : Decidable faults.AreHarmless :=
  inferInstanceAs (Decidable (_ ∧ _))

/-- Whatever is in force at a moment was said for that moment, or lasts. -/
theorem FileFaults.AreHarmless.inForce {faults : FileFaults} (harmless : faults.AreHarmless)
    (moment : Nat) : (faults.inForce moment).AreHarmless := by
  unfold FileFaults.inForce DemandPaging.inForce
  cases found : faults.lapses.lookup moment with
  | none => exact harmless.1
  | some switches =>
    obtain ⟨earlier, later, isLapse, -⟩ := List.lookup_eq_some_iff.mp found
    exact harmless.2 (moment, switches) (isLapse ▸ List.mem_append_right _ List.mem_cons_self)

/-- A byte of a sequence with another laid over it. -/
theorem Bytes.getD_splice (target : Bytes) (size position : Nat) (piece : Bytes) {index : Nat}
    (inside : index < size) :
    (splice target size position piece).getD index 0 =
      overlay piece position index (target.getD index 0) := by
  have known : index < (splice target size position piece).size := by
    rw [size_splice]
    exact inside
  rw [Array.getD_eq_getD_getElem?, Array.getElem?_eq_getElem known, Option.getD_some]
  exact getElem_splice target size position piece known

namespace FileBacking

variable (backing : FileBacking config)

/-- A position of the file that belongs to the part that a page is loaded from. -/
def Covers (position : Nat) : Prop :=
  backing.offset.toNat ≤ position ∧ position < backing.offset.toNat + backing.readBytes

instance (position : Nat) : Decidable (backing.Covers position) :=
  inferInstanceAs (Decidable (_ ∧ _))

/-- The part begins where a page of the file begins. -/
def IsAligned : Prop := backing.offset.toNat % config.pageSize = 0

variable {backing}

/-- A position of the file falls on the page at its distance from the start of the part. -/
theorem IsAligned.mod_eq (aligned : backing.IsAligned) {position : Nat}
    (covers : backing.Covers position) :
    position % config.pageSize = position - backing.offset.toNat := by
  have fits := backing.readBytes_le
  obtain ⟨after, before⟩ := covers
  have parts := Nat.add_mod backing.offset.toNat (position - backing.offset.toNat) config.pageSize
  have whole : backing.offset.toNat % config.pageSize = 0 := aligned
  rw [Nat.add_sub_cancel' after, whole, Nat.zero_add, Nat.mod_mod] at parts
  rw [parts]
  apply Nat.mod_eq_of_lt
  omega

/-- A page that was loaded from a part of a file shows each position of the part at its own offset.
-/
theorem byteAt_image (aligned : backing.IsAligned) (data : Bytes) {position : Nat}
    (covers : backing.Covers position) :
    (backing.image data).byteAt position = data.getD position 0 := by
  have inside := Nat.mod_lt position config.pageSize_pos
  have place := aligned.mod_eq covers
  obtain ⟨after, before⟩ := covers
  rw [PageBytes.byteAt_eq _ inside, getElem_image _ _ inside, place, if_pos]
  · rw [Nat.add_sub_cancel' after]
  · omega

/-- The file does not grow when a part of it is replaced. -/
theorem size_store {file : File} (bytes : PageBytes config)
    (covered : backing.IsCovered file.data) (used : backing.readBytes ≠ 0) :
    (file.store backing.offset.toNat (backing.portion bytes)).data.size = file.data.size := by
  have reaches := covered.resolve_left used
  show (Bytes.splice _ _ _ _).size = _
  rw [Bytes.size_splice, size_portion]
  exact Nat.max_eq_left reaches

/-- The part that is replaced shows the page, and the rest of the file is as it was. -/
theorem getD_store (aligned : backing.IsAligned) {file : File} (bytes : PageBytes config)
    (covered : backing.IsCovered file.data) (used : backing.readBytes ≠ 0) (position : Nat) :
    (file.store backing.offset.toNat (backing.portion bytes)).data.getD position 0 =
      if backing.Covers position then bytes.byteAt position else file.data.getD position 0 := by
  have reaches := covered.resolve_left used
  have fits := backing.readBytes_le
  have sized := size_store bytes covered used
  by_cases inside : position < file.data.size
  · have known : position < max file.data.size
        (backing.offset.toNat + (backing.portion bytes).size) :=
      Nat.lt_of_lt_of_le inside (Nat.le_max_left _ _)
    show (Bytes.splice _ _ _ _).getD position 0 = _
    rw [Bytes.getD_splice _ _ _ _ known, Bytes.overlay]
    by_cases covers : backing.Covers position
    · have place := aligned.mod_eq covers
      have within := Nat.mod_lt position config.pageSize_pos
      obtain ⟨after, before⟩ := covers
      have portion : position - backing.offset.toNat < (backing.portion bytes).size := by
        rw [size_portion]
        omega
      rw [if_pos after, if_pos ⟨after, before⟩, PageBytes.byteAt_eq _ within,
        Array.getD_eq_getD_getElem?, Array.getElem?_eq_getElem portion, Option.getD_some]
      simp [FileBacking.portion, PageBytes.slice, Bytes.slice, place]
    · rw [if_neg covers]
      split
      · next after =>
        rw [Array.getD_eq_getD_getElem?, Array.getElem?_eq_none, Option.getD_none]
        rw [size_portion]
        have beyond : ¬ position < backing.offset.toNat + backing.readBytes :=
          fun before => covers ⟨after, before⟩
        omega
      · rfl
  · have beyond : ¬ backing.Covers position := by
      intro covers
      have before := covers.2
      omega
    rw [if_neg beyond, Array.getD_eq_getD_getElem?, Array.getElem?_eq_none (by omega),
      Array.getD_eq_getD_getElem?, Array.getElem?_eq_none (by omega)]

variable (backing) in
/-- What becomes of a file when a page that a part of it is on is given up: the part shows the page
afterwards if the page was written to, and nothing else changes. -/
structure Saves (bytes : PageBytes config) (dirty : Bool) (before after : Environment config) :
    Prop where
  known : (after.files.get? backing.handle.file).isSome =
    (before.files.get? backing.handle.file).isSome
  faults : (after.file backing.handle.file).faults = (before.file backing.handle.file).faults
  size : (after.file backing.handle.file).data.size = (before.file backing.handle.file).data.size
  shown : ∀ position, (after.file backing.handle.file).data.getD position 0 =
    if dirty = true ∧ backing.Covers position then bytes.byteAt position
    else (before.file backing.handle.file).data.getD position 0

section Saves

variable {bytes : PageBytes config} {dirty : Bool} {before after : Environment config}

/-- A page that was not written to leaves the file alone. -/
theorem Saves.of_clean (clean : dirty = false) (same : after.files = before.files) :
    backing.Saves bytes dirty before after := by
  have sameFile : ∀ id, after.file id = before.file id := by
    intro id
    rw [Environment.file, same]
    rfl
  constructor
  · rw [same]
  · rw [sameFile]
  · rw [sameFile]
  · intro position
    rw [sameFile, clean, if_neg (fun both => Bool.noConfusion both.1)]

/-- A page that was written to leaves its bytes in its part of the file. -/
theorem Saves.of_written (aligned : backing.IsAligned)
    (known : (before.files.get? backing.handle.file).isSome)
    (covered : backing.IsCovered (before.file backing.handle.file).data) (written : dirty = true)
    (after_eq : after = if backing.readBytes = 0 then before else backing.writtenBack bytes before) :
    backing.Saves bytes dirty before after := by
  by_cases empty : backing.readBytes = 0
  · rw [if_pos empty] at after_eq
    subst after_eq
    refine ⟨rfl, rfl, rfl, fun position => ?_⟩
    rw [if_neg]
    rintro ⟨_, after, before⟩
    omega
  · rw [if_neg empty] at after_eq
    subst after_eq
    have stored : (backing.writtenBack bytes before).file backing.handle.file =
        (before.file backing.handle.file).store backing.offset.toNat (backing.portion bytes) := by
      rw [writtenBack, Environment.file_setFile, if_pos ⟨rfl, known⟩]
    refine ⟨?_, by rw [stored]; rfl, ?_, fun position => ?_⟩
    · have terms := (backing.sameBut_writtenBack bytes before).terms backing.handle.file
      simpa using congrArg Option.isSome terms
    · rw [stored]
      exact size_store bytes covered empty
    · rw [stored, getD_store aligned bytes covered empty]
      simp only [written, true_and]

/-- Only the files matter to what a page saved. -/
theorem Saves.congr {before' after' : Environment config}
    (saves : backing.Saves bytes dirty before after) (same : before'.files = before.files)
    (same' : after'.files = after.files) : backing.Saves bytes dirty before' after' := by
  have sameFile : ∀ id, before'.file id = before.file id := fun id => by
    rw [Environment.file, same]
    rfl
  have sameFile' : ∀ id, after'.file id = after.file id := fun id => by
    rw [Environment.file, same']
    rfl
  constructor
  · rw [same, same']
    exact saves.known
  · rw [sameFile, sameFile']
    exact saves.faults
  · rw [sameFile, sameFile']
    exact saves.size
  · intro position
    rw [sameFile, sameFile']
    exact saves.shown position

end Saves

/-! ## Transfers that succeed -/

/-- A page is loaded from a file that works and reaches far enough. -/
theorem load_completes {window : FrameWindow config}
    (harmless : (window.environment.file backing.handle.file).faults.AreHarmless)
    (covered : backing.IsCovered (window.environment.file backing.handle.file).data) :
    backing.load.Ends window (fun _ _ => True) (fun _ _ => False) := by
  obtain ⟨read, _, inode, limit, _⟩ :
    (window.environment.nextSwitches backing.handle.file).AreHarmless := harmless.inForce _
  unfold load
  simp only [Action.ends_bind, FrameAction.changeBytes, Action.ends_change]
  by_cases empty : backing.readBytes = 0
  · rw [if_pos empty]
    trivial
  rw [if_neg empty]
  have reaches := covered.resolve_left empty
  simp only [Action.ends_bind, FrameAction.onEnvironment, Action.ends_zoom,
    EnvironmentAction.readFile, EnvironmentAction.record, EnvironmentAction.checkHandle,
    Action.ends_change, Action.ends_current]
  have same : (window.environment.record (.readingFile backing.handle backing.offset
      backing.readBytes)).file backing.handle.file = window.environment.file backing.handle.file :=
    rfl
  have inForce : (window.environment.record (.readingFile backing.handle backing.offset
      backing.readBytes)).fileSwitches backing.handle.file =
        window.environment.nextSwitches backing.handle.file := rfl
  simp only [same, inForce, inode, File.read, read, File.atMost, limit, Action.ends_bind, Action.ends_pure,
    Action.ends_change]
  rw [if_pos]
  · trivial
  · simp only [Bytes.slice, Array.size_extract]
    omega

/-- A page goes back to a file that works. -/
theorem writeBack_completes {environment : Environment config} (bytes : PageBytes config)
    (harmless : (environment.file backing.handle.file).faults.AreHarmless) :
    (backing.writeBack bytes).Ends environment (fun _ _ => True) (fun _ _ => False) := by
  obtain ⟨_, write, inode, _, limit⟩ :
    (environment.nextSwitches backing.handle.file).AreHarmless := harmless.inForce _
  unfold writeBack
  by_cases empty : backing.readBytes = 0
  · rw [if_pos empty]
    trivial
  rw [if_neg empty]
  simp only [Action.ends_bind, EnvironmentAction.writeFile, EnvironmentAction.record,
    EnvironmentAction.checkHandle, Action.ends_change, Action.ends_current]
  have same : (environment.record (.writingBack backing.handle backing.offset
      (bytes.slice 0 backing.readBytes))).file backing.handle.file =
        environment.file backing.handle.file := rfl
  have inForce : (environment.record (.writingBack backing.handle backing.offset
      (bytes.slice 0 backing.readBytes))).fileSwitches backing.handle.file =
        environment.nextSwitches backing.handle.file := rfl
  have whole := backing.size_portion bytes
  simp only [portion] at whole
  simp only [same, inForce, inode, File.write, write, File.atMost, limit, Action.ends_bind,
    Action.ends_pure, Action.ends_change]
  rw [if_pos]
  · trivial
  · rw [whole]
    simp only [Bytes.slice, Array.size_extract]
    omega

end FileBacking

/-- A file page without an initializer is loaded, if its file works and reaches far enough. -/
theorem PageKind.load_completes {kind : PageKind config} {backing : FileBacking config}
    {window : FrameWindow config} (number : PageNumber) (isFile : kind.backing? = some backing)
    (plain : kind.initializer? = none)
    (harmless : (window.environment.file backing.handle.file).faults.AreHarmless)
    (covered : backing.IsCovered (window.environment.file backing.handle.file).data) :
    (kind.load number).Ends window (fun _ _ => True) (fun _ _ => False) := by
  have completes := FileBacking.load_completes harmless covered
  match kind with
  | .anonymous _ => cases isFile
  | .unloaded .anonymous _ => cases isFile
  | .file _ =>
    cases isFile
    simp only [PageKind.load, Action.ends_bind]
    exact completes.mono (fun _ _ _ => trivial) (fun _ _ => id)
  | .unloaded (.file _) initializer =>
    cases isFile
    cases plain
    simp only [PageKind.load, PageTarget.load, Action.ends_bind]
    exact completes.mono (fun _ _ _ => trivial) (fun _ _ => id)

/-- A file page without an initializer holds its part of the file once it is loaded. -/
theorem PageKind.Loaded.bytes_eq {number : PageNumber} {window after : FrameWindow config}
    {kind later : PageKind config} {backing : FileBacking config}
    (loaded : kind.Loaded number window later after) (isFile : kind.backing? = some backing)
    (plain : kind.initializer? = none) :
    after.bytes = backing.image (window.environment.file backing.handle.file).data := by
  cases loaded with
  | fromSlot | blank => cases isFile
  | fromFile =>
    cases isFile
    rfl
  | first filled applied =>
    cases plain
    cases applied
    cases filled with
    | anonymous => cases isFile
    | file =>
      cases isFile
      rfl

/-! ## Pages that are given up -/

section GivenUp

variable {kind later : PageKind config} {backing : FileBacking config} {bytes : PageBytes config}
  {dirty : Bool} {before after : Environment config}

/-- A page that can hold a frame and is on a file is a file page. -/
theorem PageKind.eq_file_of_backing? (isLoaded : kind.IsLoaded)
    (isFile : kind.backing? = some backing) : kind = .file backing := by
  match kind with
  | .unloaded _ _ => exact isLoaded.elim
  | .anonymous _ => cases isFile
  | .file _ =>
    cases isFile
    rfl

/-- A file page whose content could be stored has saved it. -/
theorem PageKind.saves_of_stored {number : PageNumber} (isLoaded : kind.IsLoaded)
    (isFile : kind.backing? = some backing) (aligned : backing.IsAligned)
    (known : (before.files.get? backing.handle.file).isSome)
    (covered : backing.IsCovered (before.file backing.handle.file).data)
    (stored : kind.store number bytes dirty before = .done later after) :
    backing.Saves bytes dirty before after := by
  have became := (PageKind.store_ends isLoaded _ _ _ _).of_done stored
  cases PageKind.eq_file_of_backing? isLoaded isFile
  cases became with
  | clean isClean => exact .of_clean isClean rfl
  | toFile isDirty => exact .of_written aligned known covered isDirty rfl

/-- A page whose file works is always saved when it is discarded. -/
theorem PageKind.saves_of_discarded {result : Except VmError Unit} (isLoaded : kind.IsLoaded)
    (isFile : kind.backing? = some backing) (aligned : backing.IsAligned)
    (known : (before.files.get? backing.handle.file).isSome)
    (covered : backing.IsCovered (before.file backing.handle.file).data)
    (harmless : (before.file backing.handle.file).faults.AreHarmless)
    (ended : (kind.discard (some (bytes, dirty))).attempt before = .done result after) :
    backing.Saves bytes dirty before after ∧ result = .ok () := by
  cases PageKind.eq_file_of_backing? isLoaded isFile
  have saved : ((PageKind.file backing).discard (some (bytes, dirty))).Ends before
      (fun _ after => backing.Saves bytes dirty before after) (fun _ _ => False) := by
    cases dirty with
    | false => exact .of_clean rfl rfl
    | true =>
      have done := (backing.writeBack_ends bytes before).and
        (FileBacking.writeBack_completes bytes harmless)
      refine done.mono (fun _ _ both => ?_) (fun _ _ both => both.2)
      exact .of_written aligned known covered rfl both.1
  have attempted : ((PageKind.file backing).discard (some (bytes, dirty))).attempt.Ends before
      (fun result after => backing.Saves bytes dirty before after ∧ result = .ok ())
      (fun _ _ => False) := by
    rw [Action.ends_attempt]
    exact saved.mono (fun _ _ saves => ⟨saves, rfl⟩) (fun _ _ => False.elim)
  exact attempted.of_done ended

end GivenUp

end DemandPaging
