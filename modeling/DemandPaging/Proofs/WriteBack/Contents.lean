import DemandPaging.Proofs.Stopping
import DemandPaging.Proofs.Window.Files
import DemandPaging.Proofs.WriteBack.Attempts
import DemandPaging.Proofs.WriteBack.Residence

/-!
# What writing back does to files

What is written back lies in the part of the file that the page was read from. A page is resident only
after all of that part was read, and files do not shrink, so writing back changes no length and never
touches what lies beyond the part. This holds also if the file takes some of the bytes only.
-/

namespace DemandPaging

variable {config : Config}

namespace File

variable {file later : File} {switches : FileSwitches} {offset count : Nat} {bytes : Bytes}

/-- A byte of a file in which bytes were stored. -/
theorem getD_data_store (position : Nat) :
    (file.store offset bytes).data.getD position 0 =
      if offset ≤ position ∧ position < offset + bytes.size then bytes.getD (position - offset) 0
      else file.data.getD position 0 := by
  by_cases inside : position < max file.data.size (offset + bytes.size)
  · show (Bytes.splice _ _ _ _).getD position 0 = _
    rw [Bytes.getD_splice _ _ _ _ inside, Bytes.overlay]
    by_cases after : offset ≤ position
    · rw [if_pos after]
      by_cases before : position < offset + bytes.size
      · have within : position - offset < bytes.size := by omega
        rw [if_pos ⟨after, before⟩]
        simp only [Array.getD_eq_getD_getElem?, Array.getElem?_eq_getElem within, Option.getD_some]
      · rw [if_neg fun both => before both.2, Array.getD_eq_getD_getElem?,
          Array.getElem?_eq_none (by omega), Option.getD_none]
    · rw [if_neg after, if_neg fun both => after both.1]
  · have beyond : ¬ (offset ≤ position ∧ position < offset + bytes.size) := by omega
    have sized : (file.store offset bytes).data.size = max file.data.size (offset + bytes.size) :=
      Bytes.size_splice ..
    rw [if_neg beyond, Array.getD_eq_getD_getElem?, Array.getElem?_eq_none (by omega),
      Array.getD_eq_getD_getElem?, Array.getElem?_eq_none (by omega)]

/-- Storing bytes beyond the end of a file makes it longer, up to the last of them. -/
theorem size_data_store :
    (file.store offset bytes).data.size = max file.data.size (offset + bytes.size) :=
  Bytes.size_splice ..

/-- What a file takes of the bytes that are written to it are the first of them. -/
theorem write_eq_ok_prefix (written : file.write switches offset bytes = .ok (count, later)) :
    count = atMost switches.writeLimit bytes.size ∧
      later = file.store offset (bytes.slice 0 count) := by
  have least : atMost switches.writeLimit bytes.size ≤ bytes.size := by
    unfold atMost
    split
    · exact Nat.min_le_right _ _
    · exact Nat.le_refl _
  have counted : (bytes.slice 0 (atMost switches.writeLimit bytes.size)).size =
      atMost switches.writeLimit bytes.size := by
    simp only [Bytes.slice, Array.size_extract]
    omega
  have transfer : (.ok ((bytes.slice 0 (atMost switches.writeLimit bytes.size)).size,
      file.store offset (bytes.slice 0 (atMost switches.writeLimit bytes.size))) :
        Except ErrorCode (Nat × File)) = .ok (count, later) := by
    unfold write at written
    split at written
    · split at written
      · cases written
      · exact written
    · exact written
  rw [counted] at transfer
  cases transfer
  exact ⟨rfl, rfl⟩

/-- A write is refused exactly at the offsets where writes are set to fail. -/
theorem write_eq_error_iff :
    (∃ code, file.write switches offset bytes = .error code) ↔
      switches.write ≠ none ∧ switches.failFrom ≤ offset := by
  unfold write
  cases switches.write with
  | none => simp
  | some code =>
    by_cases failing : switches.failFrom ≤ offset <;> simp [failing]

end File

namespace FileBacking

variable (backing : FileBacking config)

/-- A file shows some bytes of a page in the part that the page was read from, and is otherwise as it
was. -/
structure Patches (bytes : PageBytes config) (before after : Bytes) : Prop where
  size : backing.IsCovered before → after.size = before.size
  shown : ∀ position, after.getD position 0 = before.getD position 0 ∨
    backing.Covers position ∧
      after.getD position 0 = (backing.portion bytes).getD (position - backing.offset.toNat) 0

variable {backing}

/-- A file that took none of the bytes is patched with none. -/
theorem Patches.refl (bytes : PageBytes config) (data : Bytes) : backing.Patches bytes data data :=
  ⟨fun _ => rfl, fun _ => .inl rfl⟩

/-- A write that took some of the bytes, or all, patches the part of the page. -/
theorem Patches.of_write {bytes : PageBytes config} {file later : File} {switches : FileSwitches}
    {count : Nat} (used : backing.readBytes ≠ 0)
    (written : file.write switches backing.offset.toNat (backing.portion bytes) = .ok (count, later)) :
    backing.Patches bytes file.data later.data := by
  obtain ⟨-, rfl⟩ := File.write_eq_ok_prefix written
  have fewer : ((backing.portion bytes).slice 0 count).size ≤ backing.readBytes := by
    rw [← backing.size_portion bytes]
    simp only [Bytes.slice, Array.size_extract]
    omega
  constructor
  · intro covered
    have reaches := covered.resolve_left used
    rw [File.size_data_store]
    omega
  · intro position
    rw [File.getD_data_store]
    split
    · next inside =>
      have place : position - backing.offset.toNat < ((backing.portion bytes).slice 0 count).size := by
        omega
      refine .inr ⟨⟨inside.1, by omega⟩, ?_⟩
      simp only [Array.getD_eq_getD_getElem?, Array.getElem?_eq_getElem place, Option.getD_some]
      simp only [Bytes.slice, Array.getElem_extract, Nat.zero_add]
      rw [Array.getElem?_eq_getElem, Option.getD_some]
    · exact .inl rfl

/-- The data of a file after the file was replaced. -/
theorem Patches.of_setFile {bytes : PageBytes config} {environment : Environment config}
    {contents : File}
    (patches : backing.Patches bytes (environment.file backing.handle.file).data contents.data) :
    backing.Patches bytes (environment.file backing.handle.file).data
      ((environment.setFile backing.handle.file contents).file backing.handle.file).data := by
  rw [Environment.file_setFile]
  split
  · exact patches
  · exact .refl ..

/-- Writing back patches the file, whether or not it succeeds. -/
theorem writeBack_patches (backing : FileBacking config) (bytes : PageBytes config)
    (environment : Environment config) :
    (backing.writeBack bytes).Ends environment
      (fun _ later => backing.Patches bytes (environment.file backing.handle.file).data
        (later.file backing.handle.file).data)
      (fun _ later => backing.readBytes ≠ 0 ∧
        backing.Patches bytes (environment.file backing.handle.file).data
          (later.file backing.handle.file).data) := by
  unfold writeBack
  by_cases empty : backing.readBytes = 0
  · rw [if_pos empty, Action.ends_pure]
    exact .refl ..
  rw [if_neg empty]
  simp only [Action.ends_bind, EnvironmentAction.writeFile, EnvironmentAction.record,
    EnvironmentAction.checkHandle, Action.ends_change, Action.ends_current]
  generalize recorded : environment.record (.writingBack backing.handle backing.offset
    (bytes.slice 0 backing.readBytes)) = middle
  have same : middle.file backing.handle.file = environment.file backing.handle.file := by
    rw [← recorded]
    rfl
  rw [← same]
  cases (middle.fileSwitches backing.handle.file).inode with
  | some code => exact ⟨empty, .refl ..⟩
  | none =>
    simp only [Action.ends_pure]
    cases written : (middle.file backing.handle.file).write (middle.fileSwitches backing.handle.file)
        backing.offset.toNat (bytes.slice 0 backing.readBytes) with
    | error code => exact ⟨empty, .refl ..⟩
    | ok transfer =>
      obtain ⟨count, later⟩ := transfer
      have patches := (Patches.of_write empty written).of_setFile
      simp only [Action.ends_bind, Action.ends_change, Action.ends_pure]
      split
      · exact patches
      · exact ⟨empty, patches⟩

/-- Writing back does not stop the kernel; it fails. -/
theorem writeBack_not_stops (backing : FileBacking config) {bytes : PageBytes config}
    {environment : Environment config} {panic : Panic} :
    ¬ (backing.writeBack bytes).Stops environment panic := fun stops =>
  (KernelAction.makesNoRoom_writeBack backing bytes).not_stops
    ((backing.writeBack_ends bytes environment).isExhaustion_of_stops stops) stops

end FileBacking

/-! ## What the end of a residency does to files -/

namespace PageKind

/-- Files have the data they had, except that a page of the kind that owes an attempt may have changed
its own file in the part that it was read from. -/
def Rewrites (kind : PageKind config) (bytes : PageBytes config) (dirty : Bool)
    (before after : Environment config) : Prop :=
  ∀ id, (after.file id).data = (before.file id).data ∨
    ∃ backing, kind = .file backing ∧ backing.handle.file = id ∧ kind.owed bytes dirty ≠ [] ∧
      backing.Patches bytes (before.file id).data (after.file id).data

variable {kind : PageKind config} {bytes : PageBytes config} {dirty : Bool}
  {before after : Environment config}

/-- Where no file changed, none was rewritten. -/
theorem Rewrites.of_files (same : after.files = before.files) :
    kind.Rewrites bytes dirty before after := by
  intro id
  rw [Environment.file, Environment.file, same]
  exact .inl rfl

/-- Reports do not count as changes of files. -/
theorem Rewrites.of_record {event : Event}
    (rewrites : kind.Rewrites bytes dirty (before.record event) after) :
    kind.Rewrites bytes dirty before after :=
  rewrites

/-- Whether a write-back succeeds or fails, it rewrites its own part of its own file at most. -/
theorem rewrites_writeBack {backing : FileBacking config} {environment : Environment config} :
    (backing.writeBack bytes).Ends environment
      (fun _ later => (PageKind.file backing).Rewrites bytes true environment later)
      (fun _ later => (PageKind.file backing).Rewrites bytes true environment later) := by
  have owes : ∀ {later : Environment config}, environment.SameBut backing.handle.file later →
      backing.readBytes ≠ 0 →
      backing.Patches bytes (environment.file backing.handle.file).data
        (later.file backing.handle.file).data →
      (PageKind.file backing).Rewrites bytes true environment later := by
    intro later same used patches id
    by_cases own : backing.handle.file = id
    · subst own
      refine .inr ⟨backing, rfl, rfl, ?_, patches⟩
      rw [owed, if_pos ⟨rfl, used⟩]
      exact List.cons_ne_nil _ _
    · rw [Environment.file, Environment.file, same.others id (Ne.symm own)]
      exact .inl rfl
  refine ((backing.writeBack_ends bytes environment).and
    (backing.writeBack_patches bytes environment)).mono ?_ ?_
  · rintro _ later ⟨same, patches⟩
    by_cases empty : backing.readBytes = 0
    · rw [same, if_pos empty]
      exact .of_files rfl
    · rw [if_neg empty] at same
      subst same
      exact owes (backing.sameBut_writtenBack bytes environment) empty patches
  · rintro _ later ⟨same, used, patches⟩
    exact owes same used patches

/-- The end of a resident page rewrites its file, whether or not the file takes what the page owes. -/
theorem rewrites_discard (isLoaded : kind.IsLoaded) {environment : Environment config} :
    (kind.discard (some (bytes, dirty))).Ends environment
      (fun _ later => kind.Rewrites bytes dirty environment later)
      (fun _ later => kind.Rewrites bytes dirty environment later) := by
  match kind, dirty with
  | .unloaded _ _, _ => exact isLoaded.elim
  | .anonymous (some _), _ => cases isLoaded
  | .anonymous none, _ => exact Rewrites.of_files rfl
  | .file backing, false => exact Rewrites.of_files rfl
  | .file backing, true => exact rewrites_writeBack

/-- Saving an anonymous page concerns no file. -/
theorem keeps_store_anonymous (number : PageNumber) (slot : Option SwapSlot) :
    ((PageKind.anonymous slot).store number bytes dirty).Keeps Environment.files := by
  refine .bind (.assert _ _) fun _ => ?_
  split
  · exact .pure _
  · exact .bind (EnvironmentAction.keeps_swapOut bytes fun _ _ => rfl) fun _ => .pure _

/-- A page that is saved rewrites its file. -/
theorem rewrites_of_stored {later : PageKind config} {number : PageNumber}
    {environment last : Environment config}
    (stored : kind.store number bytes dirty environment = .done later last) :
    kind.Rewrites bytes dirty environment last := by
  match kind, dirty with
  | .unloaded _ _, _ => cases stored
  | .anonymous slot, _ => exact .of_files ((keeps_store_anonymous number slot).of_done stored)
  | .file _, false =>
    cases stored
    exact .of_files rfl
  | .file backing, true =>
    obtain ⟨result, middle, attempted, answered⟩ := Action.bind_eq_done_iff.mp stored
    rcases Action.attempt_eq_done_iff.mp attempted with ⟨_, rfl, written⟩ | ⟨_, rfl, _⟩ <;>
      cases answered
    exact rewrites_writeBack.of_done written

/-- A page that cannot be saved may have rewritten a part of its file. -/
theorem rewrites_of_unstored (isLoaded : kind.IsLoaded) {number : PageNumber}
    {environment last : Environment config} {panic : Panic}
    (panicked : kind.store number bytes dirty environment = .panicked panic last) :
    kind.Rewrites bytes dirty environment last := by
  match kind, dirty with
  | .unloaded _ _, _ => exact isLoaded.elim
  | .anonymous slot, _ => exact .of_files ((keeps_store_anonymous number slot).of_panicked panicked)
  | .file _, false => cases panicked
  | .file backing, true =>
    rcases Action.bind_eq_panicked_iff.mp panicked with stopped | ⟨result, middle, attempted, answered⟩
    · exact absurd (Action.stops_attempt.mp ⟨_, stopped⟩) backing.writeBack_not_stops
    · rcases Action.attempt_eq_done_iff.mp attempted with ⟨_, rfl, _⟩ | ⟨error, rfl, failed⟩ <;>
        cases answered
      exact rewrites_writeBack.of_failed failed

end PageKind

/-! ## What transitions do to files -/

/-- The end of a page's residency changed a file only in the part that the page was read from, where
the file shows bytes of the page now. -/
inductive Machine.WritesBack (machine next : Machine config) (key : SpaceKey) (number : PageNumber) :
    FileId → Prop where
  | intro {page : Page config} {frame : FrameNumber} {backing : FileBacking config}
      (found : machine.page? key number = some page) (resident : page.frame = some frame)
      (isFile : page.kind = .file backing) (owes : machine.owed key number ≠ [])
      (patches : backing.Patches (machine.frameBytes frame)
        (machine.environment.file backing.handle.file).data
        (next.environment.file backing.handle.file).data) :
    WritesBack machine next key number backing.handle.file

/-- Every resident page with a file was read in full: the file reaches to the end of its part. -/
structure Machine.FilesReach (machine : Machine config) : Prop where
  covered : ∀ {key : SpaceKey} {number : PageNumber} {page : Page config}
    {backing : FileBacking config}, machine.page? key number = some page → page.frame.isSome →
      page.kind.backing? = some backing →
        backing.IsCovered (machine.environment.file backing.handle.file).data

/-- A part that a file covers stays covered while the file does not shrink. -/
theorem FileBacking.IsCovered.mono {backing : FileBacking config} {before after : Bytes}
    (covered : backing.IsCovered before) (grows : before.size ≤ after.size) :
    backing.IsCovered after :=
  covered.imp_right fun reaches => Nat.le_trans reaches grows

/-- What is loaded from a file was read in full. -/
theorem PageKind.Loaded.isCovered {number : PageNumber} {window after : FrameWindow config}
    {kind later : PageKind config} (loaded : kind.Loaded number window later after)
    {backing : FileBacking config} (isFile : later.backing? = some backing) :
    backing.IsCovered (window.environment.file backing.handle.file).data := by
  cases loaded with
  | fromSlot | blank => cases isFile
  | fromFile covered =>
    cases isFile
    exact covered
  | first filled =>
    cases filled with
    | anonymous => cases isFile
    | file covered =>
      cases isFile
      exact covered

/-- A page that was read in full does not make its file longer. -/
theorem Machine.WritesBack.size_eq {machine next : Machine config} {id : FileId} {key : SpaceKey}
    {number : PageNumber} (writes : machine.WritesBack next key number id) (reach : machine.FilesReach) :
    (next.environment.file id).data.size = (machine.environment.file id).data.size := by
  cases writes with
  | intro found resident isFile _ patches =>
    exact patches.size (reach.covered found (Option.isSome_of_eq_some resident) (by rw [isFile]; rfl))

namespace Transition

open Machine

variable {transition : Transition config} {machine next : Machine config} {id : FileId}

/-- A file that is not replaced changes only by the end of a residency. -/
theorem Leads.data_eq_or_writesBack (leads : transition.Leads machine next)
    (consistent : machine.Consistent) (unset : ∀ contents, transition ≠ .setFile id contents)
    (uncreated : ∀ data, transition ≠ .createFile id data) :
    (next.environment.file id).data = (machine.environment.file id).data ∨
      ∃ key number, transition.EndsResidency key number ∧
        machine.WritesBack next key number id := by
  have ofFiles : next.environment.files = machine.environment.files →
      (next.environment.file id).data = (machine.environment.file id).data ∨
        ∃ key number, transition.EndsResidency key number ∧
          machine.WritesBack next key number id := by
    intro files
    rw [Environment.file, Environment.file, files]
    exact .inl rfl
  have ofRewrites : ∀ {key : SpaceKey} {page : Page config} {frame : FrameNumber},
      transition.EndsResidency key page.number →
      machine.page? key page.number = some page → page.frame = some frame →
      page.kind.Rewrites (machine.frameBytes frame) ((machine.space key).isDirty page.number)
        machine.environment next.environment →
      (next.environment.file id).data = (machine.environment.file id).data ∨
        ∃ key number, transition.EndsResidency key number ∧
          machine.WritesBack next key number id := by
    intro key page frame ends found resident rewrites
    rcases rewrites id with same | ⟨backing, isFile, rfl, owes, patches⟩
    · exact .inl same
    · rw [← owed_of_resident found resident] at owes
      exact .inr ⟨key, page.number, ends, .intro found resident isFile owes patches⟩
  have kept := leads.environment_eq
  cases leads with
  | listInitializer | setSwapFaults => exact .inl rfl
  | @setFile _ other contents =>
    have different : id ≠ other := fun same => unset contents (same ▸ rfl)
    left
    show ((machine.environment.setFile other contents).file id).data = _
    rw [Environment.file_setFile, if_neg fun here => different here.1]
  | @createFile _ data =>
    have different : (⟨machine.environment.files.size⟩ : FileId) ≠ id :=
      fun same => uncreated data (same ▸ rfl)
    refine .inl (congrArg (fun found : Option File => (found.getD {}).data) ?_)
    show OrderedMap.get? (OrderedMap.insert _ _ _) id = _
    rw [OrderedMap.get?_insert_eq, if_neg (Ne.symm different)]
  | evict _ _ found resident stored =>
    -- Between the machine and the environment in which the victim is stored lie two records only.
    have rewrites := PageKind.rewrites_of_stored stored
    rw [environment_beforeStore] at rewrites
    refine ofRewrites (.inl ⟨_, rfl⟩) found resident ?_
    rw [environment_vacate]
    exact rewrites.of_record.of_record
  | load _ _ _ loaded =>
    have became := (PageKind.load_ends _ _ _).of_done loaded
    have same := congrArg File.data (Loaded.uncounted_eq became id)
    rw [environment_settleLoaded]
    exact .inl same
  | spoil _ _ _ failed =>
    exact .inl (((PageKind.load_ends _ _ _).of_failed failed).1.data id)
  | @discard _ key page environment found _ ended =>
    have later := (PageKind.discard_absent_ends _ _ (consistent.slots.allocated found)).of_done ended
    refine ofFiles (show environment.files = _ from ?_)
    rw [later]
    cases page.kind.slot? <;> rfl
  | discardResident found resident ended =>
    have isLoaded := consistent.fits.isLoaded found resident
    refine ofRewrites (.inr rfl) found resident ?_
    rw [environment_endResident]
    rcases Action.attempt_eq_done_iff.mp ended with ⟨_, _, saved⟩ | ⟨_, _, failed⟩
    · exact (PageKind.rewrites_discard isLoaded).of_done saved
    · exact (PageKind.rewrites_discard isLoaded).of_failed failed
  | _ => exact ofFiles (by rw [kept trivial])

/-- A file that is not replaced keeps its length. -/
theorem Leads.size_eq (leads : transition.Leads machine next) (consistent : machine.Consistent)
    (reach : machine.FilesReach) (unset : ∀ contents, transition ≠ .setFile id contents)
    (uncreated : ∀ data, transition ≠ .createFile id data) :
    (next.environment.file id).data.size = (machine.environment.file id).data.size := by
  rcases leads.data_eq_or_writesBack consistent unset uncreated with same | ⟨_, _, _, writes⟩
  · rw [same]
  · exact writes.size_eq reach

/-- A file does not shrink, unless it is replaced by a shorter one. -/
theorem Leads.size_le (leads : transition.Leads machine next) (consistent : machine.Consistent)
    (reach : machine.FilesReach)
    (grows : ∀ contents, transition = .setFile id contents →
      (machine.environment.file id).data.size ≤ contents.data.size) :
    (machine.environment.file id).data.size ≤ (next.environment.file id).data.size := by
  by_cases set : ∃ contents, transition = .setFile id contents
  · obtain ⟨contents, rfl⟩ := set
    cases leads with
    | setFile =>
      show _ ≤ ((machine.environment.setFile id contents).file id).data.size
      rw [Environment.file_setFile]
      split
      · exact grows contents rfl
      · exact Nat.le_refl _
  by_cases created : ∃ data, transition = .createFile id data
  · obtain ⟨data, rfl⟩ := created
    cases leads with
    | createFile =>
      rw [Environment.file, consistent.names.fresh_file]
      exact Nat.zero_le _
  · exact Nat.le_of_eq (leads.size_eq consistent reach (fun contents isSet => set ⟨contents, isSet⟩)
      fun data isCreated => created ⟨data, isCreated⟩).symm

/-- Resident pages stay within their files, as long as no file shrinks. -/
theorem Leads.filesReach (leads : transition.Leads machine next) (consistent : machine.Consistent)
    (reach : machine.FilesReach)
    (grows : ∀ id contents, transition = .setFile id contents →
      (machine.environment.file id).data.size ≤ contents.data.size) :
    next.FilesReach := by
  refine ⟨fun {key number page backing} found resident isFile => ?_⟩
  have larger := leads.size_le consistent reach (grows backing.handle.file)
  by_cases becomes : transition.MakesResident key number
  · rcases becomes with ⟨frame, rfl⟩ | ⟨parent, frame, rfl⟩
    · cases leads with
      | load known _ _ loaded =>
        have became := (PageKind.load_ends _ _ _).of_done loaded
        rw [page?_settleLoaded (isSome_of_page? known), amend_self] at found
        cases found
        exact (became.isCovered isFile).mono larger
    · cases leads with
      | @copy _ _ _ model _ bytes dirty original copy _ provides =>
        have copied : (machine.settleCopy key model.forked frame bytes dirty).page? key
            model.forked.number = some { model.forked with frame := some frame } := by
          rw [page?_settleCopy (isSome_of_page? copy), amend_self]
        cases copied.symm.trans found
        cases provides with
        | frame _ modelResident =>
          have modelFile := model.backing?_forked.symm.trans isFile
          have modelReaches := reach.covered original (Option.isSome_of_eq_some modelResident) modelFile
          exact modelReaches.mono larger
        | slot kept =>
          have modelFile := model.backing?_forked.symm.trans isFile
          rw [kept] at modelFile
          cases modelFile
  · have stays : next.frame? key number = machine.frame? key number := by
      refine (leads.stays consistent ?_ becomes).1
      rwa [frame?, found]
    have altered := leads.alters consistent key number
    rw [found] at altered
    generalize known : machine.page? key number = before at altered
    cases altered with
    | same => exact (reach.covered known resident isFile).mono larger
    | @changed earlier _ _ backing? _ =>
      rw [frame?, frame?, found, known] at stays
      have earlierResident : earlier.frame.isSome := by
        rw [show earlier.frame = _ from stays.symm]
        exact resident
      exact (reach.covered known earlierResident (backing?.symm.trans isFile)).mono larger
    | registered =>
      rw [frame?, frame?, found, known] at stays
      rw [show page.frame = none from stays] at resident
      cases resident

end Transition

end DemandPaging
